import DriverMicroServices.Entities

/-! `CircuitBreakerService.execute`, in two parts: what it does before it calls
the function it protects, and what it does with the function's result. -/
namespace DriverMicroServices

inductive CircuitState where
  | closed | «open» | halfOpen
  deriving DecidableEq, Repr

structure CircuitBreakerConfig where
  failureThreshold : Nat
  recoveryTimeout : Int
  halfOpenMaxCalls : Nat

/-- What `execute` keeps for one circuit; the counters that only the metrics
report are left out. -/
structure CircuitBreakerState where
  state : CircuitState := .closed
  failures : Nat := 0
  lastFailureTime : Time := 0
  halfOpenCallCount : Nat := 0
  deriving DecidableEq, Repr

namespace CircuitBreakerState

/-- Before the call: an open circuit is tried again after the recovery time, and
the error says that the function is not called. -/
def beforeCall (config : CircuitBreakerConfig) (circuitName : String) (now : Time)
    (circuit : CircuitBreakerState) : CircuitBreakerState × Option String :=
  let circuit :=
    if circuit.state = .open ∧ config.recoveryTimeout < now - circuit.lastFailureTime then
      { circuit with state := .halfOpen, halfOpenCallCount := 0 }
    else circuit
  if circuit.state = .open then
    (circuit, some s!"Circuit breaker OPEN for {circuitName} - service degraded")
  else if circuit.state = .halfOpen ∧ config.halfOpenMaxCalls ≤ circuit.halfOpenCallCount then
    (circuit, some s!"Circuit breaker HALF_OPEN limit reached for {circuitName}")
  else (circuit, none)

def onSuccess (circuit : CircuitBreakerState) : CircuitBreakerState :=
  if circuit.state = .halfOpen then
    { circuit with halfOpenCallCount := 0, state := .closed, failures := 0 }
  else { circuit with halfOpenCallCount := 0 }

def onFailure (config : CircuitBreakerConfig) (now : Time) (circuit : CircuitBreakerState) :
    CircuitBreakerState :=
  let failures := circuit.failures + 1
  { failures
    lastFailureTime := now
    halfOpenCallCount :=
      if circuit.state = .halfOpen then circuit.halfOpenCallCount + 1 else circuit.halfOpenCallCount
    state := if config.failureThreshold ≤ failures then .open else circuit.state }

end CircuitBreakerState

end DriverMicroServices
