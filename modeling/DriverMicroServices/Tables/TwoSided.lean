import DriverMicroServices.Tables.Keyed

/-! The comparison of two tables: what is said of the entries of the first one, with or without one of the
same key in the second one, and then of those that only the second one has. -/
namespace Tables.TwoSided
open Tables.Keyed

variable {κ α β δ : Type} [DecidableEq κ]

/-- Two entries that may be missing: none or both are there, and they agree. -/
def Both (agree : α → β → Prop) : Option α → Option β → Prop
  | none, none => True
  | some one, some other => agree one other
  | _, _ => False

theorem both_congr {agree agree' : α → β → Prop} {one : Option α} {other : Option β}
    (same : ∀ a b, one = some a → other = some b → (agree a b ↔ agree' a b)) :
    Both agree one other ↔ Both agree' one other := by
  cases one with
  | none => cases other <;> rfl
  | some a =>
    cases other with
    | none => rfl
    | some b => exact same a b rfl rfl

section Comparison

variable (onlyLeft : κ → α → List δ) (both : κ → α → β → List δ) (onlyRight : κ → β → δ)

def twoSided (left : List (κ × α)) (right : List (κ × β)) : List δ :=
  left.flatMap (fun (k, a) =>
      match get right k with
      | none => onlyLeft k a
      | some b => both k a b) ++
    (right.filter fun (k, _) => (get left k).isNone).map fun (k, b) => onlyRight k b

/-- What is said of a key. -/
def Finds (k : κ) (d : δ) : Option α → Option β → Prop
  | some a, none => d ∈ onlyLeft k a
  | some a, some b => d ∈ both k a b
  | none, some b => d = onlyRight k b
  | none, none => False

variable {onlyLeft both onlyRight} {left : List (κ × α)} {right : List (κ × β)} {d : δ} {k : κ}

/-- Whatever is said is said of a key, on one side or on both. -/
theorem forall_twoSided {holds : δ → Prop} (ofLeft : ∀ k a, ∀ d ∈ onlyLeft k a, holds d)
    (ofBoth : ∀ k a b, ∀ d ∈ both k a b, holds d) (ofRight : ∀ k b, holds (onlyRight k b)) :
    ∀ d ∈ twoSided onlyLeft both onlyRight left right, holds d := by
  intro d member
  rcases List.mem_append.mp member with own | other
  · obtain ⟨⟨k, a⟩, -, here⟩ := List.mem_flatMap.mp own
    dsimp only at here
    cases there : get right k with
    | none =>
      rw [there] at here
      exact ofLeft k a d here
    | some b =>
      rw [there] at here
      exact ofBoth k a b d here
  · obtain ⟨⟨k, b⟩, -, rfl⟩ := List.mem_map.mp other
    exact ofRight k b

theorem mem_twoSided (leftDistinct : Distinct left) (rightDistinct : Distinct right) :
    d ∈ twoSided onlyLeft both onlyRight left right ↔
      ∃ k, Finds onlyLeft both onlyRight k d (get left k) (get right k) := by
  unfold twoSided
  rw [List.mem_append, List.mem_flatMap, List.mem_map]
  constructor
  · rintro (⟨⟨k, a⟩, member, found⟩ | ⟨⟨k, b⟩, member, rfl⟩)
    · have held := (mem_iff_get leftDistinct).mp member
      refine ⟨k, ?_⟩
      rw [held]
      cases there : get right k <;> simpa [there, Finds] using found
    · obtain ⟨member, absent⟩ := List.mem_filter.mp member
      have held := (mem_iff_get rightDistinct).mp member
      refine ⟨k, ?_⟩
      rw [Option.isNone_iff_eq_none.mp absent, held]
      rfl
  · rintro ⟨k, found⟩
    cases held : get left k with
    | none =>
      cases there : get right k with
      | none => simp [held, there, Finds] at found
      | some b =>
        rw [held, there] at found
        refine .inr ⟨(k, b), List.mem_filter.mpr ⟨(mem_iff_get rightDistinct).mpr there, ?_⟩, Eq.symm found⟩
        simp [held]
    | some a =>
      refine .inl ⟨(k, a), (mem_iff_get leftDistinct).mpr held, ?_⟩
      cases there : get right k <;> simpa [held, there, Finds] using found

/-- Something with this key is said just if something is said of the key, where all that is said of a key
has it. -/
theorem exists_mem_twoSided (key : δ → Option κ) (leftDistinct : Distinct left) (rightDistinct : Distinct right)
    (keyed : ∀ k d, Finds onlyLeft both onlyRight k d (get left k) (get right k) → key d = some k) :
    (∃ d ∈ twoSided onlyLeft both onlyRight left right, key d = some k) ↔
      ∃ d, Finds onlyLeft both onlyRight k d (get left k) (get right k) := by
  constructor
  · rintro ⟨d, member, same⟩
    obtain ⟨k', found⟩ := (mem_twoSided leftDistinct rightDistinct).mp member
    obtain rfl : k' = k := Option.some.inj ((keyed k' d found).symm.trans same)
    exact ⟨d, found⟩
  · rintro ⟨d, found⟩
    exact ⟨d, (mem_twoSided leftDistinct rightDistinct).mpr ⟨k, found⟩, keyed k d found⟩

omit [DecidableEq κ] in
/-- Something is said of a key just if its entries are not there on both sides with nothing to say. -/
theorem exists_finds {one : Option α} {other : Option β} (said : ∀ a, onlyLeft k a ≠ []) :
    (∃ d, Finds onlyLeft both onlyRight k d one other) ↔ ¬ Both (fun a b => both k a b = []) one other := by
  cases one with
  | none =>
    cases other with
    | none => simp [Finds, Both]
    | some b => simp [Finds, Both]
  | some a =>
    cases other with
    | none =>
      obtain ⟨d, member⟩ := List.exists_mem_of_ne_nil _ (said a)
      exact iff_of_true ⟨d, member⟩ not_false
    | some b => exact ⟨fun ⟨_, member⟩ => List.ne_nil_of_mem member, List.exists_mem_of_ne_nil _⟩

end Comparison

end Tables.TwoSided
