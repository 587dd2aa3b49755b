import Mathlib.Algebra.Order.Group.Defs
import Mathlib.Data.List.Basic
import Mathlib.Order.Defs.LinearOrder

/-! A limiter that keeps the times it has admitted and forgets those that are a whole
window old whenever it admits one more. The times may be of any ordered group. -/
namespace Limits

variable {T : Type} [AddCommGroup T] [LinearOrder T] {width now later start t : T}
  {times stored admitted : List T} {limit : Nat}

/-- The times in the window that ends now. -/
def recent (width now : T) (times : List T) : List T := times.filter fun t => now - t < width

/-- The times in the window that begins at a time. -/
def within (width start : T) (times : List T) : List T :=
  times.filter fun t => start ≤ t ∧ t < start + width

/-- Every window of the width has at most so many of the times. -/
def Bounded (width : T) (limit : Nat) (times : List T) : Prop :=
  ∀ start, (within width start times).length ≤ limit

/-- What is stored stands for the times that were admitted: from the last of them on,
it holds what is recent. -/
def Stands (width : T) (stored admitted : List T) : Prop :=
  ∀ now, (∀ t ∈ admitted, t ≤ now) → recent width now stored = recent width now admitted

/-- A limiter that looks at all it has admitted: whether it admits each time. -/
def admissions (width : T) (limit : Nat) (admitted : List T) : List T → List Bool
  | [] => []
  | now :: rest =>
    if (recent width now admitted).length < limit then
      true :: admissions width limit (admitted ++ [now]) rest
    else false :: admissions width limit admitted rest

theorem recent_append (times more : List T) :
    recent width now (times ++ more) = recent width now times ++ recent width now more :=
  List.filter_append ..

theorem bounded_nil : Bounded width limit ([] : List T) := fun _ => Nat.zero_le _

theorem stands_nil : Stands width [] ([] : List T) := fun _ _ => rfl

variable [IsOrderedAddMonoid T]

/-- What is recent later is recent now. -/
theorem recent_recent (le : now ≤ later) :
    recent width later (recent width now times) = recent width later times := by
  unfold recent
  rw [List.filter_filter]
  refine List.filter_congr fun t _ => ?_
  by_cases held : later - t < width
  · have earlier : now - t < width := lt_of_le_of_lt (sub_le_sub_right le t) held
    simp [held, earlier]
  · simp [held]

/-- A window that has not ended yet holds recent times only. -/
theorem within_le_recent (inside : now < start + width) :
    (within width start times).length ≤ (recent width now times).length := by
  refine List.Sublist.length_le ?_
  unfold within recent
  refine List.monotone_filter_right _ fun t held => ?_
  simp only [decide_eq_true_eq] at held ⊢
  rw [sub_lt_iff_lt_add]
  exact lt_of_lt_of_le inside (add_comm width t ▸ add_le_add_left held.1 width)

/-- A time may be admitted where fewer than the limit are recent. -/
theorem Bounded.append (bounded : Bounded width limit times)
    (free : (recent width now times).length < limit) : Bounded width limit (times ++ [now]) := by
  intro start
  by_cases inside : start ≤ now ∧ now < start + width
  · have before : (within width start times).length ≤ (recent width now times).length :=
      within_le_recent inside.2
    have split : within width start (times ++ [now]) = within width start times ++ [now] := by
      simp [within, List.filter_append, inside.1, inside.2]
    rw [split, List.length_append, List.length_singleton]
    omega
  · have split : within width start (times ++ [now]) = within width start times := by
      simp only [within, List.filter_append, List.filter_cons, inside, decide_false, List.filter_nil]
      simp
    rw [split]
    exact bounded start

/-- The old times may be forgotten when one is admitted. -/
theorem Stands.admit (stands : Stands width stored admitted) (last : ∀ t ∈ admitted, t ≤ now) :
    Stands width (recent width now stored ++ [now]) (admitted ++ [now]) := by
  intro later past
  have le : now ≤ later := past now (by simp)
  rw [recent_append, recent_append, recent_recent le]
  rw [stands later fun t member => (last t member).trans le]

end Limits
