/-! Visits of nodes one after the other, where a visit may end the search. What is left by each
of the visits is left by all of them. -/
namespace Graphs.Visits

variable {σ α β ε : Type}

/-- What visits of the targets leave: the stack as it was, earlier nodes, and the targets done; or
a reason to stop. -/
def Left (Good : σ → Prop) (Stops : ε → Prop) (stack : σ → β) (Done : σ → α → Prop) (s : σ)
    (targets : List α) : Except ε σ → Prop
  | .ok left => Good left ∧ stack left = stack s ∧ (∀ node, Done s node → Done left node) ∧
      ∀ node ∈ targets, Done left node
  | .error stop => Stops stop

variable {Good : σ → Prop} {Stops : ε → Prop} {stack : σ → β} {Done : σ → α → Prop} {s : σ}

theorem left_foldlM (targets : List α) (body : σ → α → Except ε σ)
    (each : ∀ middle, Good middle → stack middle = stack s →
      ∀ node ∈ targets, Left Good Stops stack Done middle [node] (body middle node))
    (good : Good s) : Left Good Stops stack Done s targets (targets.foldlM body s) := by
  induction targets generalizing s with
  | nil => exact ⟨good, rfl, fun _ done => done, by simp⟩
  | cons node rest ih =>
    have first := each s good rfl node (by simp)
    rw [List.foldlM_cons]
    cases visited : body s node with
    | error stop =>
      rw [visited] at first
      exact first
    | ok middle =>
      rw [visited] at first
      obtain ⟨goodMiddle, sameStack, kept, reached⟩ := first
      have later : Left Good Stops stack Done middle rest (rest.foldlM body middle) := ih
        (fun left goodLeft same next member =>
          each left goodLeft (same.trans sameStack) next (by simp [member])) goodMiddle
      change Left Good Stops stack Done s (node :: rest) (rest.foldlM body middle)
      cases ended : rest.foldlM body middle with
      | error stop =>
        rw [ended] at later
        exact later
      | ok left =>
        rw [ended] at later
        obtain ⟨goodLeft, same, keptRest, reachedRest⟩ := later
        refine ⟨goodLeft, same.trans sameStack, fun n done => keptRest n (kept n done), ?_⟩
        intro n member
        rcases List.mem_cons.mp member with rfl | member
        · exact keptRest n (reached n (by simp))
        · exact reachedRest n member

end Graphs.Visits
