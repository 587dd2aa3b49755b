import DriverMicroServices.Effects

/-! The delivery lifecycle. `allowedTransitions` is consulted by `updateStatus`
alone; the acceptance of an offer by the state machine service has a guard of
its own, and `assignDriver`, `OffersService.acceptOffer` and `verifyOtp` write
the status without one. -/
namespace DriverMicroServices
open Transactions Program

/-- No delivery disappears, and each keeps its status or takes an allowed step. -/
def TransitionsAllowed (before after : Db) : Prop :=
  ∀ id row, before.delivery id = some row → ∃ row', after.delivery id = some row' ∧
    (row'.status = row.status ∨ row'.status ∈ allowedTransitions row.status)

/-- What the unguarded writers would have to ask of the row they commit over.
`generateDeliveryOtp`, which is no writer of the status, stays out of the run. -/
def statusGuarded (request : Request) (effect : Effect Key) (db : Db) : Bool :=
  match request.operation, effect with
  | .assignDriver deliveryId _ _, .commit =>
    (db.delivery deliveryId).all fun row => row.status = .pending ∨ row.status = .assigned
  | .acceptOffer offerId _ _, .commit =>
    (db.offer offerId).all fun offer => (db.delivery offer.deliveryId).all fun row =>
      row.status = .pending ∨ row.status = .assigned
  | .verifyOtp deliveryId _ _ _ _, .commit =>
    (db.delivery deliveryId).all fun row =>
      row.status = .pickedUp ∨ row.status = .inTransit ∨ row.status = .delivered
  | .generateDeliveryOtp _, .autosave _ => false
  | _, _ => true

private theorem allowed_of_same {before after : Db} (same : after.delivery = before.delivery) :
    TransitionsAllowed before after :=
  fun _ row held => ⟨row, by rw [same, held], .inl rfl⟩

private theorem assigned_allowed {status : DeliveryStatus}
    (assignable : status = .pending ∨ status = .assigned) :
    DeliveryStatus.assigned = status ∨ .assigned ∈ allowedTransitions status := by
  rcases assignable with rfl | rfl
  · exact .inr (by simp [allowedTransitions])
  · exact .inl rfl

/-- Where its guard holds, a step of one row is an allowed transition. -/
private theorem step_allowed {inv : Db → Prop} {before : Db} {id : Uuid}
    (guarded : statusGuarded request effect before = true)
    (held : before.delivery id = some row)
    (step : DeliveryStep inv request before effect id (some row) row') :
    row'.status = row.status ∨ row'.status ∈ allowedTransitions row.status := by
  cases step with
  | assigned operation =>
    simp only [statusGuarded, operation, held, Option.all_some, decide_eq_true_eq] at guarded
    simpa using assigned_allowed guarded
  | updated _ change =>
    obtain ⟨_, allowed, rfl⟩ := change
    rw [(transition_saveOver ..).1]
    exact .inr allowed
  | verified operation change =>
    obtain ⟨_, _, _, rfl⟩ := change
    simp only [statusGuarded, operation, held, Option.all_some, decide_eq_true_eq] at guarded
    rw [completed_saveOver]
    rcases guarded with status | status | status <;> simp [status, allowedTransitions]
  | accepted operation offered _ =>
    simp only [statusGuarded, operation, offered, held, Option.all_some, decide_eq_true_eq]
      at guarded
    simpa using assigned_allowed guarded
  | stateMachineAccepted _ _ _ _ pending => simpa using assigned_allowed (.inl pending)
  | regenerated operation => simp [statusGuarded, operation] at guarded

private theorem does_allowed {inv : Db → Prop} {before after : Db}
    (guarded : statusGuarded request effect before = true)
    (does : request.Does inv effect before after) : TransitionsAllowed before after := by
  rcases does_delivery does with same | ⟨id, row', step, updated⟩
  · exact allowed_of_same same
  · intro other row held
    by_cases same : other = id
    · subst same
      rw [held] at step
      exact ⟨row', by simp [updated], step_allowed guarded held step⟩
    · exact ⟨row, by rw [updated, Function.update_of_ne same, held], .inl rfl⟩

/-- In every run whose unguarded writers meet the guard, every status change is
an allowed one, and a delivered, failed or cancelled delivery stays that. -/
theorem lifecycle_safe (env : Env) (store : Db) (actions : List (Action Request))
    (guarded : ({ store } : Service).Admits (Request.program env)
      (fun request effect db => statusGuarded request effect db) actions) :
    ({ store } : Service).EveryStep (Request.program env) TransitionsAllowed actions ∧
    ∀ first second middle last, actions = first ++ second →
      ({ store } : Service).run (Request.program env) first = some middle →
      middle.run (Request.program env) second = some last →
      ∀ id row, Db.delivery middle.store id = some row → row.status.Terminal →
        ∃ row', Db.delivery last.store id = some row' ∧ row'.status = row.status := by
  have every : ({ store } : Service).EveryStep (Request.program env) TransitionsAllowed actions := by
    refine run_moves (fun _ _ _ => trivial) env trivial (fun db => allowed_of_same rfl) ?_ guarded
    exact fun request effect before after _ guarded does => does_allowed guarded does
  refine ⟨every, ?_⟩
  rintro first second middle last rfl toMiddle toLast id row held terminal
  refine System.every_step_run
    (fun db => ∃ row', Db.delivery db id = some row' ∧ row'.status = row.status) ?_
    (System.every_step_append every toMiddle) toLast ⟨row, held, rfl⟩
  rintro before after allowed ⟨current, found, same⟩
  obtain ⟨next, present, kept | moved⟩ := allowed id current found
  · exact ⟨next, present, kept.trans same⟩
  · rw [same, terminal_transitions terminal] at moved
    cases moved

section Runs
open Sample

/-- A delivery assigned, picked up and handed over with its code. -/
def handover : List (Action Request) :=
  alone 0 (.assignDriver "D1" "x" "a") 5 9 ++
    alone 1 (.updateStatus "D1" { status := "PICKED_UP" }) 6 11 ++
    alone 2 (.verifyOtp "D1" "100000" none none none) 7 10

theorem lifecycle_safe_handover :
    ({ store := shop } : Service).EveryStep (Request.program env) TransitionsAllowed handover :=
  (lifecycle_safe env shop handover (by decide +kernel)).1

/-- A delivery that is cancelled, and one call later assigned to a driver. -/
def cancelFirst : List (Action Request) :=
  alone 0 (.updateStatus "D1" { status := "CANCELLED" }) 5 9

def assignLater : List (Action Request) := alone 1 (.assignDriver "D1" "x" "a") 6 9

theorem cancelled_reassigned :
    ¬ ({ store := shop } : Service).EveryStep (Request.program env) TransitionsAllowed
      (cancelFirst ++ assignLater) := by
  refine System.every_step_broken
    (fun db => (Db.delivery db "D1").any fun row => row.status = .cancelled) ?_
    (by decide +kernel) (by decide +kernel)
  intro before after allowed held
  obtain ⟨row, present, cancelled⟩ := (Option.any_eq_true _ _).mp held
  obtain ⟨row', present', same | moved⟩ := allowed _ _ present
  · simpa [present', same] using cancelled
  · simp [of_decide_eq_true cancelled, allowedTransitions] at moved

end Runs

end DriverMicroServices
