import DriverMicroServices.Texts.Json
import Mathlib.Data.List.Forall2
import Mathlib.Data.List.Nodup
import Mathlib.Data.List.Perm.Basic
import Mathlib.Logic.Function.Basic

/-! The leaves of a JSON value: what it holds other than `null` and containers, each with the way
to it. Where no name stands twice in an object, no two leaves lie at the same place, and a value
that holds the same leaves, wherever they lie, says where each of them was. -/
namespace Texts.Json

variable {ν : Type}

/-- One step of the way into a value. -/
inductive Step where
  | name (key : String)
  | index (position : Nat)
  deriving DecidableEq

abbrev Path := List Step

/-- The leaves, one step further in. -/
def under (step : Step) (leaves : List (Path × Json ν)) : List (Path × Json ν) :=
  leaves.map fun leaf => (step :: leaf.1, leaf.2)

mutual

def leaves : Json ν → List (Path × Json ν)
  | null => []
  | bool value => [([], bool value)]
  | num value => [([], num value)]
  | str value => [([], str value)]
  | arr elements => elementLeaves 0 elements
  | obj fields => fieldLeaves fields

def elementLeaves (position : Nat) : List (Json ν) → List (Path × Json ν)
  | [] => []
  | element :: rest => under (.index position) (leaves element) ++ elementLeaves (position + 1) rest

def fieldLeaves : List (String × Json ν) → List (Path × Json ν)
  | [] => []
  | (key, value) :: rest => under (.name key) (leaves value) ++ fieldLeaves rest

end

/-- The leaves without the ways to them. -/
def values (value : Json ν) : List (Json ν) := value.leaves.map Prod.snd

mutual

/-- In every object each name stands once, as a parser leaves it. -/
def Unambiguous : Json ν → Prop
  | arr elements => ElementsUnambiguous elements
  | obj fields => Tables.Keyed.Distinct fields ∧ FieldsUnambiguous fields
  | _ => True

def ElementsUnambiguous : List (Json ν) → Prop
  | [] => True
  | element :: rest => Unambiguous element ∧ ElementsUnambiguous rest

def FieldsUnambiguous : List (String × Json ν) → Prop
  | [] => True
  | (_, value) :: rest => Unambiguous value ∧ FieldsUnambiguous rest

end

theorem elementsUnambiguous_iff {elements : List (Json ν)} :
    ElementsUnambiguous elements ↔ ∀ element ∈ elements, element.Unambiguous := by
  induction elements with
  | nil => simp [ElementsUnambiguous]
  | cons element rest ih => simp [ElementsUnambiguous, ih]

theorem fieldsUnambiguous_iff {fields : List (String × Json ν)} :
    FieldsUnambiguous fields ↔ ∀ field ∈ fields, field.2.Unambiguous := by
  induction fields with
  | nil => simp [FieldsUnambiguous]
  | cons field rest ih => simp [FieldsUnambiguous, ih]

@[simp] theorem under_values (step : Step) (leaves : List (Path × Json ν)) :
    (under step leaves).map Prod.snd = leaves.map Prod.snd := by
  simp [under]

theorem elementLeaves_values (elements : List (Json ν)) (position : Nat) :
    (elementLeaves position elements).map Prod.snd = elements.flatMap values := by
  induction elements generalizing position with
  | nil => rfl
  | cons element rest ih =>
    rw [elementLeaves, List.map_append, under_values, ih, List.flatMap_cons]
    rfl

theorem fieldLeaves_values (fields : List (String × Json ν)) :
    (fieldLeaves fields).map Prod.snd = fields.flatMap fun field => field.2.values := by
  induction fields with
  | nil => rfl
  | cons field rest ih =>
    rw [fieldLeaves, List.map_append, under_values, ih, List.flatMap_cons]
    rfl

theorem values_arr (elements : List (Json ν)) : (arr elements).values = elements.flatMap values :=
  elementLeaves_values elements 0

theorem values_obj (fields : List (String × Json ν)) :
    (obj fields).values = fields.flatMap fun field => field.2.values :=
  fieldLeaves_values fields

/-! ## Places -/

theorem under_nodup {step : Step} {leaves : List (Path × Json ν)} (nodup : (leaves.map Prod.fst).Nodup) :
    ((under step leaves).map Prod.fst).Nodup := by
  have steps : (under step leaves).map Prod.fst = (leaves.map Prod.fst).map (step :: ·) := by
    simp [under]
  rw [steps]
  exact nodup.map fun _ _ same => (List.cons.inj same).2

/-- What lies under the elements from a position on begins with that or a later position. -/
theorem elementLeaves_begin {elements : List (Json ν)} {position : Nat} {path : Path}
    (member : path ∈ (elementLeaves position elements).map Prod.fst) :
    ∃ later rest, path = .index later :: rest ∧ position ≤ later := by
  induction elements generalizing position with
  | nil => cases member
  | cons element others ih =>
    rw [elementLeaves, List.map_append, List.mem_append] at member
    rcases member with here | there
    · obtain ⟨leaf, inside, rfl⟩ := List.mem_map.mp here
      obtain ⟨inner, -, rfl⟩ := List.mem_map.mp inside
      exact ⟨position, inner.1, rfl, Nat.le_refl _⟩
    · obtain ⟨later, rest, shape, after⟩ := ih there
      exact ⟨later, rest, shape, Nat.le_of_succ_le after⟩

/-- What lies under the fields begins with one of their names. -/
theorem fieldLeaves_begin {fields : List (String × Json ν)} {path : Path}
    (member : path ∈ (fieldLeaves fields).map Prod.fst) :
    ∃ key rest, path = .name key :: rest ∧ key ∈ fields.map (·.1) := by
  induction fields with
  | nil => cases member
  | cons field others ih =>
    rw [fieldLeaves, List.map_append, List.mem_append] at member
    rcases member with here | there
    · obtain ⟨leaf, inside, rfl⟩ := List.mem_map.mp here
      obtain ⟨inner, -, rfl⟩ := List.mem_map.mp inside
      exact ⟨field.1, inner.1, rfl, List.mem_cons_self⟩
    · obtain ⟨key, rest, shape, named⟩ := ih there
      exact ⟨key, rest, shape, List.mem_cons_of_mem _ named⟩

mutual

/-- No two leaves lie at the same place. -/
theorem leaves_nodup : (value : Json ν) → value.Unambiguous → (value.leaves.map Prod.fst).Nodup
  | null, _ => List.nodup_nil
  | bool _, _ | num _, _ | str _, _ => List.nodup_singleton _
  | arr elements, unambiguous => elementLeaves_nodup elements 0 unambiguous
  | obj fields, unambiguous => fieldLeaves_nodup fields unambiguous.1 unambiguous.2

theorem elementLeaves_nodup : (elements : List (Json ν)) → (position : Nat) → ElementsUnambiguous elements →
    ((elementLeaves position elements).map Prod.fst).Nodup
  | [], _, _ => List.nodup_nil
  | element :: rest, position, unambiguous => by
    rw [elementLeaves, List.map_append]
    refine (under_nodup (leaves_nodup element unambiguous.1)).append
      (elementLeaves_nodup rest (position + 1) unambiguous.2) fun path here there => ?_
    obtain ⟨leaf, inside, rfl⟩ := List.mem_map.mp here
    obtain ⟨inner, -, rfl⟩ := List.mem_map.mp inside
    obtain ⟨later, others, shape, after⟩ := elementLeaves_begin there
    obtain rfl := Step.index.inj (List.cons.inj shape).1
    omega

theorem fieldLeaves_nodup : (fields : List (String × Json ν)) → Tables.Keyed.Distinct fields →
    FieldsUnambiguous fields → ((fieldLeaves fields).map Prod.fst).Nodup
  | [], _, _ => List.nodup_nil
  | (key, value) :: rest, distinct, unambiguous => by
    obtain ⟨fresh, later⟩ := List.nodup_cons.mp distinct
    rw [fieldLeaves, List.map_append]
    refine (under_nodup (leaves_nodup value unambiguous.1)).append
      (fieldLeaves_nodup rest later unambiguous.2) fun path here there => ?_
    obtain ⟨leaf, inside, rfl⟩ := List.mem_map.mp here
    obtain ⟨inner, -, rfl⟩ := List.mem_map.mp inside
    obtain ⟨name, others, shape, named⟩ := fieldLeaves_begin there
    obtain rfl := Step.name.inj (List.cons.inj shape).1
    exact fresh named

end

/-! ## Getting back -/

/-- Every leaf of the original is a leaf of the result, and its place there tells where it was. -/
def Recovers (original result : Json ν) : Prop :=
  ∃ back : Path → Path, ∀ leaf ∈ original.leaves, ∃ path, (path, leaf.2) ∈ result.leaves ∧ back path = leaf.1

/-- Where entries are matched one to one with entries at places of their own, a place tells which
entry it was matched with. -/
theorem exists_back {α β : Type} {R : α → β → Prop} {first : List α} {second : List β} (origin : α → Path)
    (place : β → Path) (matched : List.Forall₂ R first second) (nodup : (second.map place).Nodup) :
    ∃ back : Path → Path, ∀ a ∈ first, ∃ b ∈ second, R a b ∧ back (place b) = origin a := by
  induction matched with
  | nil => exact ⟨id, fun a member => nomatch member⟩
  | @cons a b as bs here _ ih =>
    obtain ⟨fresh, later⟩ := List.nodup_cons.mp nodup
    obtain ⟨back, gets⟩ := ih later
    refine ⟨Function.update back (place b) (origin a), fun other member => ?_⟩
    rcases List.mem_cons.mp member with rfl | member
    · exact ⟨b, List.mem_cons_self, here, Function.update_self ..⟩
    · obtain ⟨b', inside, related, found⟩ := gets other member
      have apart : place b' ≠ place b := fun same => fresh (List.mem_map.mpr ⟨b', inside, same⟩)
      exact ⟨b', List.mem_cons_of_mem _ inside, related, (Function.update_of_ne apart ..).trans found⟩

/-- A result with the same leaves, wherever they lie, tells where they were. -/
theorem recovers_of_perm {original result : Json ν} (unambiguous : result.Unambiguous)
    (perm : original.values.Perm result.values) : Recovers original result := by
  have own : List.Forall₂ (fun value leaf => leaf.2 = value) result.values result.leaves := by
    rw [values, List.forall₂_map_left_iff]
    exact List.forall₂_same.mpr fun _ _ => rfl
  obtain ⟨arranged, matched, same⟩ := List.perm_comp_forall₂ perm own
  rw [values, List.forall₂_map_left_iff] at matched
  have nodup : (arranged.map Prod.fst).Nodup := (same.map Prod.fst).nodup_iff.mpr (leaves_nodup result unambiguous)
  obtain ⟨back, gets⟩ := exists_back Prod.fst Prod.fst matched nodup
  refine ⟨back, fun leaf member => ?_⟩
  obtain ⟨other, inside, value, found⟩ := gets leaf member
  refine ⟨other.1, ?_, found⟩
  rw [← value]
  exact same.subset inside

/-- A result that tells where the leaves were has as many leaves at least. -/
theorem length_le_of_recovers {original result : Json ν} (unambiguous : original.Unambiguous)
    (recovers : Recovers original result) : original.values.length ≤ result.values.length := by
  obtain ⟨back, gets⟩ := recovers
  have inside : original.leaves.map Prod.fst ⊆ (result.leaves.map Prod.fst).map back := by
    intro path member
    obtain ⟨leaf, held, rfl⟩ := List.mem_map.mp member
    obtain ⟨path, there, found⟩ := gets leaf held
    exact List.mem_map.mpr ⟨path, List.mem_map.mpr ⟨_, there, rfl⟩, found⟩
  have fewer := (List.subperm_of_subset (leaves_nodup original unambiguous) inside).length_le
  simpa [values] using fewer

end Texts.Json
