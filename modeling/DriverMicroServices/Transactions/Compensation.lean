import Mathlib.Data.List.Infix

/-! Steps that can be taken back. Steps are taken one after the other and taken back in the
reverse order, from wherever one stops; what comes back is compared by what can be seen of it. -/
namespace Transactions.Compensation

variable {S V : Type}

/-- A step and what takes it back; either may fail. -/
structure Step (S : Type) where
  forth : S → Option S
  back : S → Option S

def forthAll : List (Step S) → S → Option S
  | [], s => some s
  | step :: rest, s => (step.forth s).bind (forthAll rest)

/-- The last step is taken back first. -/
def backAll : List (Step S) → S → Option S
  | [], s => some s
  | step :: rest, s => (backAll rest s).bind step.back

/-- The steps lead to what shows `final`, and from anything that looks like the state after a step,
this step leads back to what the state before it shows. -/
def Leads (view : S → V) (final : V) : List (Step S) → S → Prop
  | [], s => view s = final
  | step :: rest, s =>
    ∃ s', step.forth s = some s' ∧
      (∀ t, view t = view s' → (step.back t).map view = some (view s)) ∧ Leads view final rest s'

variable {view : S → V} {final : V} {s : S} {steps executed : List (Step S)}

theorem Leads.forthAll (leads : Leads view final steps s) : (forthAll steps s).map view = some final := by
  induction steps generalizing s with
  | nil => exact congrArg some leads
  | cons step rest ih =>
    obtain ⟨s', taken, -, later⟩ := leads
    rw [Compensation.forthAll, taken, Option.bind_some]
    exact ih later

/-- From wherever one stops, the steps taken so far lead back to where they began. -/
theorem Leads.backAll (leads : Leads view final steps s) (stopped : executed <+: steps) :
    ∃ reached, Compensation.forthAll executed s = some reached ∧
      ∀ t, view t = view reached → (Compensation.backAll executed t).map view = some (view s) := by
  induction steps generalizing s executed with
  | nil =>
    obtain rfl := List.prefix_nil.mp stopped
    exact ⟨s, rfl, fun t same => congrArg some same⟩
  | cons step rest ih =>
    cases executed with
    | nil => exact ⟨s, rfl, fun t same => congrArg some same⟩
    | cons first others =>
      obtain ⟨rfl, further⟩ := List.cons_prefix_cons.mp stopped
      obtain ⟨s', taken, undone, later⟩ := leads
      obtain ⟨reached, arrived, returns⟩ := ih later further
      refine ⟨reached, by rw [Compensation.forthAll, taken, Option.bind_some, arrived], fun t same => ?_⟩
      obtain ⟨middle, back, alike⟩ := Option.map_eq_some_iff.mp (returns t same)
      rw [Compensation.backAll, back, Option.bind_some]
      exact undone middle alike

end Transactions.Compensation
