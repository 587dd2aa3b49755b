import DriverMicroServices.LifecycleSplit
import DriverMicroServices.OperationGraph
import DriverMicroServices.PlanValidation

/-! When the phases of a split can be ordered. The graph of their operations, the phases and the
dependencies that operations bring with them each put statements before others. -/
namespace DriverMicroServices
open Graphs LifecycleSplitter

/-! ## The graph -/

open Classical in
/-- The edges of a graph without contending statements lead to a safe one and end there, so just
contending statements make a cycle, and they do with two edges. -/
theorem graph_valid_iff (phases : List PhasePlan) :
    (validateGraph (buildOperationGraph phases)).isValid = true ↔
      ∀ one ∈ phases.flatMap (·.operations), ∀ two ∈ phases.flatMap (·.operations),
        one.sql ≠ two.sql → SharesTable one.sql two.sql → ¬ Contends one.sql two.sql := by
  have spec := validateGraph_spec (buildOperationGraph phases) (edges_covered phases)
  have valid : (validateGraph (buildOperationGraph phases)).isValid = true ↔
      (buildOperationGraph phases).edges.Acyclic := by
    rcases spec with ⟨accepted, acyclic⟩ | ⟨nodes, rejected, cycle⟩
    · simp [accepted, acyclic]
    · obtain ⟨s, -, again⟩ := cycle.depends_on_itself
      simp only [rejected, Bool.false_eq_true, false_iff]
      exact fun acyclic => acyclic s again
  rw [valid]
  constructor
  · intro acyclic one member two memberToo apart shares contends
    obtain ⟨op1, stands⟩ := (standsFor_exists _ _).mpr ⟨one, member, rfl⟩
    obtain ⟨op2, standsToo⟩ := (standsFor_exists _ _).mpr ⟨two, memberToo, rfl⟩
    have forth := (mem_edges phases one.sql two.sql).mpr
      ⟨op1, op2, stands, standsToo, Ne.symm apart, shares, .inl contends⟩
    have back := (mem_edges phases two.sql one.sql).mpr
      ⟨op2, op1, standsToo, stands, apart, shares.symm, .inl contends.symm⟩
    exact acyclic one.sql (.tail (.single forth) back)
  · intro uncontended
    -- a safe statement has no edges, another one has edges to safe ones alone
    refine (acyclic_iff_ranked _).mpr ⟨fun s => if ∃ operation, StandsFor (phases.flatMap (·.operations)) s
      operation ∧ operation.category = .SAFE then 0 else 1, fun s t edge => ?_⟩
    obtain ⟨op1, op2, stands, standsToo, apart, shares, contends | ⟨waits, safe⟩⟩ := (mem_edges phases s t).mp edge
    · have one := stands.sql
      have two := standsToo.sql
      subst one two
      exact absurd contends (uncontended op1 stands.mem op2 standsToo.mem (Ne.symm apart) shares)
    · have waiting : ¬ ∃ operation, StandsFor (phases.flatMap (·.operations)) s operation ∧
          operation.category = .SAFE := by
        rintro ⟨other, there, safe⟩
        rw [← stands.unique there] at safe
        simp [safe] at waits
      show (if _ then 0 else 1) < if _ then 0 else 1
      rw [if_neg waiting, if_pos ⟨op2, standsToo, safe⟩]
      exact Nat.zero_lt_one

/-! ## The phases -/

/-- Phases that order the statements of their operations, of which each has one. -/
structure Laid (phases : List PhasePlan) : Prop where
  order : ∀ phase ∈ phases, phase.order = phase.operations.map (·.sql)
  occupied : ∀ phase ∈ phases, phase.operations ≠ []

/-- A statement of one phase and a statement of a later one. -/
def Across (phases : List PhasePlan) (holds : String → String → Prop) : Prop :=
  phases.Pairwise fun earlier later => ∀ s ∈ earlier.order, ∀ t ∈ later.order, holds s t

/-- An operation's dependency on a statement of its own phase. -/
def DependsWithin (phases : List PhasePlan) (operations : List SchemaOperation) (s t : String) : Prop :=
  ListsLast operations s t ∧ ∃ phase ∈ phases, s ∈ phase.order ∧ t ∈ phase.order

theorem across_iff (phases : List PhasePlan) (holds : String → String → Prop) :
    Across phases holds ↔
      ∀ (i j : Nat) (previous current : PhasePlan), phases[i]? = some previous → phases[j]? = some current →
      i < j → ∀ s ∈ previous.order, ∀ t ∈ current.order, holds s t := by
  unfold Across
  rw [List.pairwise_iff_getElem]
  constructor
  · intro pairs i j previous current first second before
    obtain ⟨iBound, rfl⟩ := List.getElem?_eq_some_iff.mp first
    obtain ⟨jBound, rfl⟩ := List.getElem?_eq_some_iff.mp second
    exact pairs i j iBound jBound before
  · exact fun pairs i j iBound jBound before =>
      pairs i j _ _ (List.getElem?_eq_getElem iBound) (List.getElem?_eq_getElem jBound) before

theorem follow_iff (phases : List PhasePlan) (previous current : PhasePlan) :
    Follow phases previous current ↔ ∃ i, phases[i]? = some previous ∧ phases[i + 1]? = some current := by
  constructor
  · rintro ⟨earlier, later, rfl⟩
    exact ⟨earlier.length, by simp, by simp⟩
  · rintro ⟨i, first, second⟩
    obtain ⟨bound, rfl⟩ := List.getElem?_eq_some_iff.mp second
    obtain ⟨bound', rfl⟩ := List.getElem?_eq_some_iff.mp first
    refine ⟨phases.take i, phases.drop (i + 2), ?_⟩
    rw [← List.drop_eq_getElem_cons bound, ← List.drop_eq_getElem_cons bound', List.take_append_drop]

theorem runs_iff (laid : Laid phases) (member : phase ∈ phases) (s : String) :
    Runs phase s ↔ s ∈ phase.order := by
  rw [laid.order phase member, List.mem_map]
  rfl

section Plan

variable {phases : List PhasePlan} {operations : List SchemaOperation}

theorem mem_executionOrder (member : phase ∈ phases) (ordered : s ∈ phase.order) :
    s ∈ (buildFromPhases phases operations).executionOrder :=
  List.mem_flatMap.mpr ⟨phase, member, ordered⟩

/-- A statement needs, over the phases between, those of all phases before. -/
theorem needs_across (laid : Laid phases) {i j : Nat} (first : phases[i]? = some previous)
    (second : phases[j]? = some current) (before : i < j) (here : s ∈ previous.order)
    (there : t ∈ current.order) :
    Relation.TransGen (Needs (buildFromPhases phases operations)) t s := by
  induction j generalizing current t with
  | zero => omega
  | succ j ih =>
    obtain ⟨bound, -⟩ := List.getElem?_eq_some_iff.mp second
    have next : phases[j]? = some phases[j] := List.getElem?_eq_getElem (by omega)
    have step : ∀ u ∈ (phases[j]).order, Needs (buildFromPhases phases operations) t u := fun u ordered =>
      ⟨mem_executionOrder (List.mem_of_getElem? second) there,
        mem_executionOrder (List.mem_of_getElem? next) ordered,
        .inr ⟨phases[j], current, (follow_iff ..).mpr ⟨j, next, second⟩,
          (runs_iff laid (List.mem_of_getElem? second) t).mpr there, ordered⟩⟩
    by_cases adjacent : i = j
    · subst adjacent
      rw [next] at first
      cases first
      exact .single (step s here)
    · have member := List.mem_of_getElem? next
      obtain ⟨operation, rest, filled⟩ := List.exists_cons_of_ne_nil (laid.occupied _ member)
      have ordered : operation.sql ∈ (phases[j]).order := by simp [laid.order _ member, filled]
      exact .head (step _ ordered) (ih next (by omega) ordered)

/-- Along a relation that never climbs, what comes back stays on its level. -/
theorem stays_level {α : Type} {needs within : α → α → Prop} {a b : α} (level : α → Nat)
    (falls : ∀ a b, needs a b → level b < level a ∨ level b = level a ∧ within a b)
    (path : Relation.TransGen needs a b) : level b < level a ∨ level b = level a ∧ Relation.TransGen within a b := by
  induction path with
  | single step => exact (falls _ _ step).imp_right fun same => ⟨same.1, .single same.2⟩
  | tail _ step ih =>
    rcases falls _ _ step with lower | ⟨same, inside⟩
    · exact .inl (by omega)
    · rcases ih with lower | ⟨equal, path⟩
      · exact .inl (by omega)
      · exact .inr ⟨same.trans equal, path.tail inside⟩

/-- The order of a plan can be resolved just where no statement is in two phases, and the
dependencies of its operations neither lead to a later phase nor around within one. -/
theorem resolves_iff (laid : Laid phases) :
    (∃ order, resolveExecutionOrder (buildFromPhases phases operations) = .ok order) ↔
      Across phases (fun s t => s ≠ t) ∧ Across phases (fun s t => ¬ ListsLast operations s t) ∧
      ∀ s, ¬ Relation.TransGen (DependsWithin phases operations) s s := by
  have resolved : (∃ order, resolveExecutionOrder (buildFromPhases phases operations) = .ok order) ↔
      ∀ s, ¬ Relation.TransGen (Needs (buildFromPhases phases operations)) s s := by
    obtain ⟨throws, -, -⟩ := execution_order_topological (buildFromPhases phases operations)
    rw [← not_exists, ← throws]
    cases resolveExecutionOrder (buildFromPhases phases operations) <;> simp
  rw [resolved, across_iff, across_iff]
  constructor
  · intro acyclic
    refine ⟨?_, ?_, ?_⟩
    · rintro i j previous current first second before s here _ there rfl
      exact acyclic s (needs_across laid first second before here there)
    · intro i j previous current first second before s here t there listed
      have step : Needs (buildFromPhases phases operations) s t :=
        ⟨mem_executionOrder (List.mem_of_getElem? first) here,
          mem_executionOrder (List.mem_of_getElem? second) there, .inl listed⟩
      exact acyclic s (.head step (needs_across laid first second before here there))
    · intro s cycle
      refine acyclic s (cycle.lift id ?_)
      rintro a b ⟨listed, phase, member, here, there⟩
      exact ⟨mem_executionOrder member here, mem_executionOrder member there, .inl listed⟩
  · rintro ⟨once, rising, within⟩ s cycle
    have placed : ∀ i phase, phases[i]? = some phase → ∀ a ∈ phase.order,
        phases.findIdx (fun phase => a ∈ phase.order) = i := by
      intro i phase found a ordered
      obtain ⟨bound, rfl⟩ := List.getElem?_eq_some_iff.mp found
      refine (List.findIdx_eq bound).mpr ⟨by simpa using ordered, fun j before => ?_⟩
      have apart := once j i _ _ (List.getElem?_eq_getElem (Nat.lt_trans before bound)) found before a
      simpa using fun there => apart there a ordered rfl
    have falls : ∀ a b, Needs (buildFromPhases phases operations) a b →
        phases.findIdx (fun phase => b ∈ phase.order) < phases.findIdx (fun phase => a ∈ phase.order) ∨
        phases.findIdx (fun phase => b ∈ phase.order) = phases.findIdx (fun phase => a ∈ phase.order) ∧
          DependsWithin phases operations a b := by
      rintro a b ⟨aListed, bListed, listed | ⟨previous, current, follow, runs, ordered⟩⟩
      · obtain ⟨aPhase, aMember, here⟩ := List.mem_flatMap.mp aListed
        obtain ⟨bPhase, bMember, there⟩ := List.mem_flatMap.mp bListed
        obtain ⟨i, first⟩ := List.mem_iff_getElem?.mp aMember
        obtain ⟨j, second⟩ := List.mem_iff_getElem?.mp bMember
        rw [placed i aPhase first a here, placed j bPhase second b there]
        rcases Nat.lt_trichotomy i j with before | rfl | after
        · exact absurd listed (rising i j aPhase bPhase first second before a here b there)
        · rw [first] at second
          cases second
          exact .inr ⟨rfl, listed, aPhase, aMember, here, there⟩
        · exact .inl after
      · obtain ⟨i, first, second⟩ := (follow_iff ..).mp follow
        have here := (runs_iff laid (List.mem_of_getElem? second) a).mp runs
        rw [placed i previous first b ordered, placed (i + 1) current second a here]
        exact .inl (Nat.lt_succ_self i)
    rcases stays_level _ falls cycle with lower | ⟨-, around⟩
    · exact Nat.lt_irrefl _ lower
    · exact within s around

end Plan

/-! ## The splitter's phases -/

section Split

variable (typeMap : TypeMap) (operations : List SchemaOperation)

/-- What the operations are replaced by in a phase, each operation looked at alone. -/
def pieces : PhaseName → List SchemaOperation
  | .EXPAND => operations.flatMap fun operation => (place typeMap operation).safe
  | .DATA => operations.flatMap fun operation => (place typeMap operation).data
  | .CONTRACT => operations.flatMap fun operation => (place typeMap operation).breaking
  | .FIX => []

def lifecyclePhases : List PhaseName := [.EXPAND, .DATA, .CONTRACT, .FIX]

def allPieces : List SchemaOperation := lifecyclePhases.flatMap (pieces typeMap operations)

/-- What holds of a piece of one phase and a piece of a later one. -/
def AcrossPieces (holds : SchemaOperation → SchemaOperation → Prop) : Prop :=
  lifecyclePhases.Pairwise fun earlier later =>
    ∀ one ∈ pieces typeMap operations earlier, ∀ two ∈ pieces typeMap operations later, holds one two

/-- When the three orders of the pieces go together. Where pieces have one text, the last of them
stands for it. -/
structure Compatible : Prop where
  uncontended : ∀ one ∈ allPieces typeMap operations, ∀ two ∈ allPieces typeMap operations,
    one.sql ≠ two.sql → SharesTable one.sql two.sql → ¬ Contends one.sql two.sql
  once : AcrossPieces typeMap operations fun one two => one.sql ≠ two.sql
  falling : AcrossPieces typeMap operations fun one two => ∀ op1 op2,
    StandsFor (allPieces typeMap operations) one.sql op1 →
    StandsFor (allPieces typeMap operations) two.sql op2 →
    SharesTable one.sql two.sql → ¬ WaitsFor op1 op2
  rising : AcrossPieces typeMap operations fun one two => ¬ ListsLast operations one.sql two.sql
  within : ∀ s, ¬ Relation.TransGen (fun s t => ListsLast operations s t ∧ ∃ phase,
    (∃ one ∈ pieces typeMap operations phase, one.sql = s) ∧
      ∃ two ∈ pieces typeMap operations phase, two.sql = t) s s

/-- The phases of a split have a valid graph, whose edges do not lead from a phase to a later
one, and their order can be resolved. -/
structure Orderly : Prop where
  valid : (validateGraph (buildOperationGraph (split operations typeMap))).isValid = true
  backward : Across (split operations typeMap) fun s t =>
    t ∉ (buildOperationGraph (split operations typeMap)).edges.of s
  resolved : ∃ order, resolveExecutionOrder
    (buildFromPhases (split operations typeMap) operations) = .ok order

variable {typeMap operations}

theorem split_eq : split operations typeMap =
    (lifecyclePhases.map fun phase => phaseOf phase (pieces typeMap operations phase)).filter
      fun phase => !phase.operations.isEmpty := rfl

theorem laid_split : Laid (split operations typeMap) := by
  rw [split_eq]
  constructor
  · intro phase member
    obtain ⟨name, -, rfl⟩ := List.mem_map.mp (List.mem_filter.mp member).1
    rfl
  · intro phase member
    simpa using (List.mem_filter.mp member).2

theorem split_operations : (split operations typeMap).flatMap (·.operations) = allPieces typeMap operations := by
  have unfiltered (phases : List PhasePlan) :
      (phases.filter fun phase => !phase.operations.isEmpty).flatMap (·.operations) =
        phases.flatMap (·.operations) := by
    induction phases with
    | nil => rfl
    | cons phase rest ih => cases empty : phase.operations <;> simp [empty, ih]
  rw [split_eq, unfiltered, List.flatMap_map]
  rfl

theorem across_split (holds : String → String → Prop) :
    Across (split operations typeMap) holds ↔
      AcrossPieces typeMap operations fun one two => holds one.sql two.sql := by
  have filled (name : PhaseName) (one : SchemaOperation) (member : one ∈ pieces typeMap operations name) :
      (!(phaseOf name (pieces typeMap operations name)).operations.isEmpty) = true := by
    simp [phaseOf, List.ne_nil_of_mem member]
  rw [Across, split_eq, List.pairwise_filter, List.pairwise_map, AcrossPieces]
  refine List.Pairwise.iff fun earlier later => ?_
  simp only [phaseOf, List.mem_map, forall_exists_index, and_imp, forall_apply_eq_imp_iff₂]
  exact ⟨fun holds one member two memberToo =>
    holds (filled earlier one member) (filled later two memberToo) one member two memberToo,
    fun holds _ _ => holds⟩

theorem acrossPieces_congr {holds holds' : SchemaOperation → SchemaOperation → Prop}
    (same : ∀ one ∈ allPieces typeMap operations, ∀ two ∈ allPieces typeMap operations,
      (holds one two ↔ holds' one two)) :
    AcrossPieces typeMap operations holds ↔ AcrossPieces typeMap operations holds' := by
  have known (phase : PhaseName) (one : SchemaOperation) (member : one ∈ pieces typeMap operations phase) :
      one ∈ allPieces typeMap operations :=
    List.mem_flatMap.mpr ⟨phase, by cases phase <;> simp [lifecyclePhases], member⟩
  refine List.Pairwise.iff fun earlier later => ?_
  exact forall₂_congr fun one member => forall₂_congr fun two memberToo =>
    same one (known earlier one member) two (known later two memberToo)

theorem dependsWithin_split : DependsWithin (split operations typeMap) operations =
    fun s t => ListsLast operations s t ∧ ∃ phase,
      (∃ one ∈ pieces typeMap operations phase, one.sql = s) ∧
        ∃ two ∈ pieces typeMap operations phase, two.sql = t := by
  funext s t
  refine propext (and_congr_right fun _ => ?_)
  rw [split_eq]
  constructor
  · rintro ⟨phase, member, here, there⟩
    obtain ⟨name, -, rfl⟩ := List.mem_map.mp (List.mem_filter.mp member).1
    exact ⟨name, List.mem_map.mp here, List.mem_map.mp there⟩
  · rintro ⟨name, ⟨one, here, rfl⟩, two, there, rfl⟩
    refine ⟨phaseOf name (pieces typeMap operations name), ?_, List.mem_map_of_mem here,
      List.mem_map_of_mem there⟩
    refine List.mem_filter.mpr ⟨List.mem_map_of_mem (by cases name <;> simp [lifecyclePhases]), ?_⟩
    simp [phaseOf, List.ne_nil_of_mem here]

/-- Without contending pieces, an edge to a later phase is one between categories. -/
theorem backward_iff
    (uncontended : ∀ one ∈ allPieces typeMap operations, ∀ two ∈ allPieces typeMap operations,
      one.sql ≠ two.sql → SharesTable one.sql two.sql → ¬ Contends one.sql two.sql) :
    (Across (split operations typeMap) fun s t =>
        t ∉ (buildOperationGraph (split operations typeMap)).edges.of s) ↔
      AcrossPieces typeMap operations fun one two => ∀ op1 op2,
        StandsFor (allPieces typeMap operations) one.sql op1 →
        StandsFor (allPieces typeMap operations) two.sql op2 →
        SharesTable one.sql two.sql → ¬ WaitsFor op1 op2 := by
  rw [across_split]
  refine acrossPieces_congr fun one member two memberToo => ?_
  rw [mem_edges, split_operations]
  constructor
  · intro apart op1 op2 stands standsToo shares follows
    refine apart ⟨op1, op2, stands, standsToo, fun same => ?_, shares, .inr follows⟩
    rw [same] at standsToo
    obtain rfl := stands.unique standsToo
    obtain ⟨waits | waits, safe⟩ := follows <;> simp [waits] at safe
  · rintro falling ⟨op1, op2, stands, standsToo, apart, shares, contends | follows⟩
    · exact uncontended one member two memberToo (Ne.symm apart) shares contends
    · exact falling op1 op2 stands standsToo shares follows

/-- The splitter does not see to any of it: its phases are in order just for operations whose
pieces happen to be compatible. -/
theorem split_orderly (typeMap : TypeMap) (operations : List SchemaOperation) :
    Orderly typeMap operations ↔ Compatible typeMap operations := by
  have valid := graph_valid_iff (split operations typeMap)
  have resolved := @resolves_iff (split operations typeMap) operations laid_split
  rw [split_operations] at valid
  rw [across_split, across_split, dependsWithin_split] at resolved
  constructor
  · rintro ⟨accepted, backward, order⟩
    have uncontended := valid.mp accepted
    obtain ⟨once, rising, within⟩ := resolved.mp order
    exact ⟨uncontended, once, (backward_iff uncontended).mp backward, rising, within⟩
  · rintro ⟨uncontended, once, falling, rising, within⟩
    exact ⟨valid.mpr uncontended, (backward_iff uncontended).mpr falling,
      resolved.mpr ⟨once, rising, within⟩⟩

end Split

/-- The statements that take the place of one rename contend with each other. -/
def renameOperation : SchemaOperation where
  sql := "ALTER TABLE \"t\" RENAME COLUMN \"a\" TO \"b\""
  category := .BREAKING
  reason := "RENAME COLUMN breaks existing queries"

theorem rename_has_cycle : ¬ Orderly [] [renameOperation] := by
  intro orderly
  have invalid : (validateGraph (buildOperationGraph (split [renameOperation]))).isValid = false := by
    decide +kernel
  have valid := orderly.valid
  rw [invalid] at valid
  cases valid

end DriverMicroServices
