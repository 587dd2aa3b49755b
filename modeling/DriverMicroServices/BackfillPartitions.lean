import DriverMicroServices.BackfillWorkers
import DriverMicroServices.Tables.Keyset
import Mathlib.Data.List.Perm.Subperm

/-! Partitioned processing of a large table. The intervals of ids share their ends, and the loop
over an interval has no cursor after its first batch. -/
namespace DriverMicroServices.Backfill
open Tables

structure Partition where
  id : Nat
  startId : Int
  endId : Int
  estimatedRows : Nat
deriving DecidableEq

/-- Ids as `executePartitionBatch` reads them. -/
def Partition.has (partition : Partition) (id : Int) : Prop := partition.startId ≤ id ∧ id ≤ partition.endId

instance (partition : Partition) (id : Int) : Decidable (partition.has id) := inferInstanceAs (Decidable (_ ∧ _))

/-- `MIN(id)` and `MAX(id)`. Without rows they are `null`, which counts as 0. -/
def idRange (table : Keyset Int) : Int × Int := (table.keys.head?.getD 0, table.keys.getLast?.getD 0)

/-- The ids between which the partitions lie. -/
def idBoundary (table : Keyset Int) (i : Nat) : Int :=
  let minId := (idRange table).1
  let range := (idRange table).2 - minId
  minId + range * i / 10

def createPartitions (table : Keyset Int) (totalRows : Nat) : List Partition :=
  (List.range 10).map fun i =>
    { id := i + 1
      startId := idBoundary table i
      endId := idBoundary table (i + 1)
      estimatedRows := totalRows / 10 }

/-- `WHERE id >= $1 AND id <= $2 ORDER BY id LIMIT $3` -/
def partitionBatch (table : Keyset Int) (startId endId : Int) (batchSize : Nat) : List Int :=
  (table.keys.filter fun id => startId ≤ id ∧ id ≤ endId).take batchSize

/-- The loop of `processPartition` before a batch. -/
structure PartitionRun where
  currentId : Option Int
  processedRows : Nat := 0
  updates : List Int := []
deriving DecidableEq

/-- The sizes of the batches of each partition. -/
structure Batches where
  size : Nat → Nat → Nat
  positive : ∀ partition n, 0 < size partition n

/-- One turn of the loop, if there is one. An undefined cursor is not before the end of the interval. -/
def partitionStep (table : Keyset Int) (partition : Partition) (batchSize : Nat) (active : PartitionRun) :
    Option PartitionRun := do
  let currentId ← active.currentId
  if currentId ≤ partition.endId then
    let returned := partitionBatch table currentId partition.endId batchSize
    let result := batchResult currentId returned
    if result.processedRows = 0 then none
    else
      some
        { currentId := result.lastProcessedId
          processedRows := active.processedRows + result.processedRows
          updates := active.updates ++ returned }
  else none

/-- After so many turns. -/
def partitionRun (table : Keyset Int) (partition : Partition) (batches : Batches) : Nat → Option PartitionRun
  | 0 => some { currentId := some partition.startId }
  | n + 1 => (partitionRun table partition batches n).bind (partitionStep table partition (batches.size partition.id n))

/-- The loop ends, and has updated each row of the interval once and no other row. -/
def Processes (table : Keyset Int) (partition : Partition) (batches : Batches) : Prop :=
  ∃ n active, partitionRun table partition batches n = some active ∧
    partitionStep table partition (batches.size partition.id n) active = none ∧
    ∀ id, active.updates.count id = if id ∈ table.keys ∧ partition.has id then 1 else 0

/-- The rows of an interval. -/
def Partition.rows (partition : Partition) (table : Keyset Int) : List Int :=
  table.keys.filter fun id => partition.startId ≤ id ∧ id ≤ partition.endId

/-- The intervals have each id of the table, none has an id of another one, and each one is processed. -/
structure Partitioned (table : Keyset Int) (totalRows : Nat) (batches : Batches) : Prop where
  covers : ∀ id ∈ table.keys, ∃ partition ∈ createPartitions table totalRows, partition.has id
  disjoint : (createPartitions table totalRows).Pairwise fun one other =>
    ∀ id ∈ table.keys, ¬ (one.has id ∧ other.has id)
  processes : ∀ partition ∈ createPartitions table totalRows, Processes table partition batches

/-! ## The intervals -/

section Intervals

variable {table : Keyset Int} {id : Int}

theorem idRange_bounds (member : id ∈ table.keys) : (idRange table).1 ≤ id ∧ id ≤ (idRange table).2 := by
  have ascending := table.ascending
  unfold idRange
  constructor
  · cases shape : table.keys with
    | nil =>
      rw [shape] at member
      cases member
    | cons first rest =>
      rw [shape] at member ascending
      rcases List.mem_cons.mp member with rfl | later
      · exact le_refl _
      · exact ((List.pairwise_cons.mp ascending).1 id later).le
  · obtain shape | ⟨front, last, shape⟩ := List.eq_nil_or_concat' table.keys
    · rw [shape] at member
      cases member
    · rw [shape] at member ascending ⊢
      rw [List.getLast?_append]
      rcases List.mem_append.mp member with early | final
      · exact ((List.pairwise_append.mp ascending).2.2 id early last (List.mem_singleton_self last)).le
      · exact (List.mem_singleton.mp final).le

private theorem idRange_le (table : Keyset Int) : (idRange table).1 ≤ (idRange table).2 := by
  cases shape : table.keys with
  | nil => simp [idRange, shape]
  | cons first rest =>
    have member : first ∈ table.keys := by simp [shape]
    exact le_trans (idRange_bounds member).1 (idRange_bounds member).2

theorem idBoundary_mono {i j : Nat} (le : i ≤ j) : idBoundary table i ≤ idBoundary table j := by
  have range := idRange_le table
  have scaled : ((idRange table).2 - (idRange table).1) * (i : Int) ≤
      ((idRange table).2 - (idRange table).1) * (j : Int) :=
    Int.mul_le_mul_of_nonneg_left (by exact_mod_cast le) (by omega)
  unfold idBoundary
  dsimp only
  omega

private theorem mem_createPartitions {totalRows : Nat} {partition : Partition}
    (member : partition ∈ createPartitions table totalRows) :
    ∃ i < 10, partition = ⟨i + 1, idBoundary table i, idBoundary table (i + 1), totalRows / 10⟩ := by
  obtain ⟨i, inRange, rfl⟩ := List.mem_map.mp member
  exact ⟨i, List.mem_range.mp inRange, rfl⟩

/-- Each id of the table is in an interval. -/
theorem partitions_cover (totalRows : Nat) (member : id ∈ table.keys) :
    ∃ partition ∈ createPartitions table totalRows, partition.has id := by
  obtain ⟨low, high⟩ := idRange_bounds member
  -- the first interval that ends at the id or behind it
  by_contra outside
  have missed (i : Nat) (inRange : i < 10) (from' : idBoundary table i ≤ id) : idBoundary table (i + 1) < id := by
    by_contra upTo
    exact outside ⟨_, List.mem_map.mpr ⟨i, List.mem_range.mpr inRange, rfl⟩, from', not_lt.mp upTo⟩
  have reached : ∀ i ≤ 10, idBoundary table i ≤ id := by
    intro i
    induction i with
    | zero =>
      intro _
      simpa [idBoundary] using low
    | succ i ih =>
      intro bound
      exact (missed i (by omega) (ih (by omega))).le
  have beyond := missed 9 (by omega) (reached 9 (by omega))
  simp only [idBoundary] at beyond
  omega

/-- Two intervals have an id in common where it is an end that they share. -/
theorem partitions_disjoint_iff (totalRows : Nat) :
    ((createPartitions table totalRows).Pairwise fun one other =>
        ∀ id ∈ table.keys, ¬ (one.has id ∧ other.has id)) ↔
      ∀ i, 1 ≤ i → i ≤ 9 → idBoundary table i ∉ table.keys := by
  unfold createPartitions
  rw [List.pairwise_map]
  constructor
  · intro apart i low high member
    have order := List.pairwise_iff_getElem.mp apart (i - 1) i (by simp; omega) (by simp; omega) (by omega)
    rw [List.getElem_range, List.getElem_range] at order
    have last : i - 1 + 1 = i := by omega
    refine order _ member ⟨⟨idBoundary_mono (by omega), ?_⟩, le_refl _, idBoundary_mono (by omega)⟩
    simp only [last]
    exact le_refl _
  · intro apart
    refine List.pairwise_lt_range.imp_of_mem fun {i j} _ inRange less id member both => ?_
    obtain ⟨⟨-, upTo⟩, from', -⟩ := both
    have ends : idBoundary table (i + 1) ≤ idBoundary table j := idBoundary_mono less
    have same : id = idBoundary table j := by
      simp only at upTo from'
      omega
    exact apart j (by omega) (by have := List.mem_range.mp inRange; omega) (same ▸ member)

end Intervals

/-! ## The loop -/

section Loop

variable {table : Keyset Int} {partition : Partition} {batches : Batches}

theorem rows_nodup : (partition.rows table).Nodup :=
  (table.ascending.imp ne_of_lt).filter _

theorem mem_rows {id : Int} : id ∈ partition.rows table ↔ id ∈ table.keys ∧ partition.has id := by
  simp [Partition.rows, Partition.has]

/-- The first batch is the only one. -/
theorem partitionRun_one (order : partition.startId ≤ partition.endId) :
    partitionRun table partition batches 1 = some
      { currentId := none, processedRows := 2
        updates := (partition.rows table).take (batches.size partition.id 0) } := by
  simp [partitionRun, partitionStep, order, batchResult, updateResult, ResultPart.id, partitionBatch,
    Partition.rows]

private theorem partitionRun_ends (order : partition.startId ≤ partition.endId) (n : Nat) :
    partitionRun table partition batches (n + 2) = none := by
  induction n with
  | zero =>
    rw [partitionRun, partitionRun_one order]
    rfl
  | succ n ih =>
    rw [partitionRun, ih]
    rfl

/-- An interval is processed if and only if its rows fit into one batch. -/
theorem processes_iff (order : partition.startId ≤ partition.endId) :
    Processes table partition batches ↔ (partition.rows table).length ≤ batches.size partition.id 0 := by
  constructor
  · rintro ⟨n, active, ran, ended, counts⟩
    have one : n = 1 := by
      match n with
      | 0 =>
        cases ran
        have stepped := @partitionRun_one table partition batches order
        rw [partitionRun, partitionRun, Option.bind_some, ended] at stepped
        cases stepped
      | 1 => rfl
      | n + 2 =>
        rw [partitionRun_ends order] at ran
        cases ran
    rw [one, partitionRun_one order] at ran
    cases ran
    -- all rows are among those of the batch
    have inside : partition.rows table ⊆ (partition.rows table).take (batches.size partition.id 0) := by
      intro id member
      have count := counts id
      rw [if_pos (mem_rows.mp member)] at count
      exact List.count_pos_iff.mp (count ▸ Nat.one_pos)
    have few := (List.Nodup.subperm rows_nodup inside).length_le
    rw [List.length_take] at few
    omega
  · intro fits
    refine ⟨1, _, partitionRun_one order, rfl, fun id => ?_⟩
    rw [List.take_of_length_le fits]
    split
    · rename_i row
      exact List.count_eq_one_of_mem rows_nodup (mem_rows.mpr row)
    · rename_i other
      exact List.count_eq_zero_of_not_mem fun member => other (mem_rows.mp member)

end Loop

/-- Partitioned processing does what it should if and only if no end between two intervals is an id of
the table, and the rows of each interval fit into its one batch. -/
theorem partitioned_iff (table : Keyset Int) (totalRows : Nat) (batches : Batches) :
    Partitioned table totalRows batches ↔
      (∀ i, 1 ≤ i → i ≤ 9 → idBoundary table i ∉ table.keys) ∧
        ∀ partition ∈ createPartitions table totalRows,
          (partition.rows table).length ≤ batches.size partition.id 0 := by
  have each : (∀ partition ∈ createPartitions table totalRows, Processes table partition batches) ↔
      ∀ partition ∈ createPartitions table totalRows,
        (partition.rows table).length ≤ batches.size partition.id 0 := by
    refine forall₂_congr fun partition member => ?_
    obtain ⟨i, -, rfl⟩ := mem_createPartitions member
    exact processes_iff (idBoundary_mono (Nat.le_succ i))
  constructor
  · intro done
    exact ⟨(partitions_disjoint_iff totalRows).mp done.disjoint, each.mp done.processes⟩
  · rintro ⟨apart, fit⟩
    exact ⟨fun id member => partitions_cover totalRows member, (partitions_disjoint_iff totalRows).mpr apart,
      each.mpr fit⟩

def threeRows : Keyset Int := ⟨[1, 2, 3], by decide⟩

def tens : Batches := ⟨fun _ _ => 10, fun _ _ => by decide⟩

/-- Five intervals have the first id of three, and each of them updates its row. -/
theorem row_updated_again :
    ⟨1, 1, 1, 0⟩ ∈ createPartitions threeRows 3 ∧ ⟨2, 1, 1, 0⟩ ∈ createPartitions threeRows 3 ∧
      (partitionRun threeRows ⟨1, 1, 1, 0⟩ tens 1).map PartitionRun.updates = some [1] ∧
        (partitionRun threeRows ⟨2, 1, 1, 0⟩ tens 1).map PartitionRun.updates = some [1] ∧
          ¬ Partitioned threeRows 3 tens := by
  refine ⟨by decide, by decide, by decide, by decide, fun done => ?_⟩
  have apart := (List.pairwise_cons.mp done.disjoint).1 ⟨2, 1, 1, 0⟩ (by decide)
  exact apart 1 (by decide) (by decide)

/-- Of three rows in one interval, a batch of one leaves two out. -/
example : (partitionRun ⟨[0, 41, 42, 43, 100], by decide⟩ ⟨5, 40, 50, 0⟩ ⟨fun _ _ => 1, fun _ _ => by decide⟩ 1).map
    PartitionRun.updates = some [41] := by decide

end DriverMicroServices.Backfill
