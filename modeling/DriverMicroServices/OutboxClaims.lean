import DriverMicroServices.OutboxSteps

/-! What `claimBatch` promises, for any number of workers and in any order of
their statements: a row is claimed again only after its lock was released, and a
batch is a prefix of the eligible rows in their order. -/
namespace DriverMicroServices
open Tables Transitions OutboxSystem

/-- A commit, by which `claimBatch` returns the batch. -/
def ClaimsBatch (claim : Claim) (taken : Taken OutboxSystem OutboxAction) : Prop :=
  ∃ n, taken.action = .commitBatch n ∧ taken.before.claims[n]? = some claim

/-- A step that releases the lock of a row: a release of stale locks, or an
outcome that schedules a retry. -/
def Releases (id : Nat) (taken : Taken OutboxSystem OutboxAction) : Prop :=
  (∃ now row, taken.action = .releaseStaleLocks now ∧ taken.before.outbox.row id = some row ∧
    row.stale now = true) ∨
  ∃ n now job errorMessage, taken.action = .handleFailure n now ∧
    taken.before.jobs[n]? = some job ∧ job.id = id ∧ job.progress = .failed errorMessage ∧
    failureCount job.rawRow errorMessage < maxRetries

/-- What may be claimed: PENDING, unlocked and due, and no other claim has its
row lock. -/
def Eligible (s : OutboxSystem) (now : Time) (id : Nat) (row : OutboxRow) : Prop :=
  s.outbox.row id = some row ∧ row.status = .pending ∧ row.lockedAt = none ∧
    (∀ nextRetryAt, row.nextRetryAt = some nextRetryAt → nextRetryAt ≤ now) ∧ ¬ s.locked id

/-- The batch is as it should be of the table it was selected from. -/
structure TopBatch (s : OutboxSystem) (now : Time) (limit : Nat) (rows : List (Nat × OutboxRow)) :
    Prop where
  bound : rows.length ≤ limit
  eligible : ∀ entry ∈ rows, Eligible s now entry.1 entry.2
  first : ∀ id row, Eligible s now id row → id ∉ rows.map Prod.fst →
    ∀ entry ∈ rows, entry.2.precedes row

/-- The `SELECT` that opened a claim. -/
def Selects (claim : Claim) (taken : Taken OutboxSystem OutboxAction) : Prop :=
  ∃ limit order, taken.action = .selectBatch claim.workerId claim.now limit order ∧
    taken.after.claims = taken.before.claims ++ [claim] ∧
    TopBatch taken.before claim.now limit claim.rows

section Batches

variable {s s' : OutboxSystem} {action : OutboxAction} {actions : List OutboxAction}
  {now : Time} {limit id : Nat} {order : List Nat} {row : OutboxRow} {claim : Claim}

theorem eligible_claimable :
    Eligible s now id row ↔
      s.outbox.row id = some row ∧ row.claimable now = true ∧ ¬ s.locked id := by
  simp only [Eligible, OutboxRow.claimable, Bool.and_eq_true, decide_eq_true_eq,
    Option.isNone_iff_eq_none, Option.all_eq_true]
  tauto

instance : Std.Total fun first second : Nat × OutboxRow => first.2.precedes second.2 where
  total first second := by
    rcases Nat.lt_trichotomy first.2.rank second.2.rank with lower | same | higher
    · exact .inl (.inl lower)
    · exact (Int.le_total first.2.createdAt second.2.createdAt).imp (fun older => .inr ⟨same, older⟩)
        fun younger => .inr ⟨same.symm, younger⟩
    · exact .inr (.inl higher)

instance : IsTrans (Nat × OutboxRow) fun first second => first.2.precedes second.2 where
  trans _ _ _ := by
    rintro (lower | ⟨same, older⟩) (lower' | ⟨same', older'⟩)
    · exact .inl (Nat.lt_trans lower lower')
    · exact .inl (same' ▸ lower)
    · exact .inl (same ▸ lower')
    · exact .inr ⟨same.trans same', Int.le_trans older older'⟩

/-- The batch of a `SELECT` is a prefix of the eligible rows in their order. -/
theorem claimBatch_top (scans : order.Perm s.outbox.ids) :
    TopBatch s now limit (s.claimBatch now limit order) := by
  refine ⟨List.length_take_le .., fun entry member => ?_, fun id row eligible left entry member => ?_⟩
  · exact eligible_claimable.mpr (mem_claimBatch scans member)
  · unfold claimBatch at left member
    dsimp only at left member
    generalize found : s.outbox.select order
      (fun id row => row.claimable now && !decide (s.locked id)) = rows at left member
    have listed : (id, row) ∈ rows := by
      obtain ⟨held, claimable, free⟩ := eligible_claimable.mp eligible
      rw [← found, Table.mem_select scans]
      simp [held, claimable, free]
    have ordered := List.pairwise_insertionSort
      (fun first second : Nat × OutboxRow => first.2.precedes second.2) rows
    rw [← List.take_append_drop limit (List.insertionSort _ rows), List.pairwise_append] at ordered
    refine ordered.2.2 entry member (id, row) ?_
    have sorted := (List.mem_insertionSort
      fun first second : Nat × OutboxRow => first.2.precedes second.2).mpr listed
    rw [← List.take_append_drop limit (List.insertionSort _ rows), List.mem_append] at sorted
    exact sorted.resolve_left fun chosen => left (List.mem_map_of_mem chosen)

/-- A row whose lock no claim can take: it is not PENDING, or gone for good, and
no open claim has selected it. -/
structure Withheld (id : Nat) (s : OutboxSystem) : Prop where
  held : Held s
  known : id < s.outbox.serial
  busy : ∀ row, s.outbox.row id = some row → row.status ≠ .pending
  free : ¬ s.locked id

/-- A row that was claimed is withheld. -/
theorem withheld_claimed (held : Held s) (stepped : step s action = some s')
    (claimed : ClaimsBatch claim ⟨s, action, s'⟩) (member : id ∈ claim.rows.map Prod.fst) :
    Withheld id s' := by
  obtain ⟨n, rfl, found⟩ := claimed
  have still := held_step held stepped
  change s.claims[n]? = some claim at found
  simp only [step, found, Option.map_some, Option.some.injEq] at stepped
  subst stepped
  obtain ⟨entry, inside, rfl⟩ := List.mem_map.mp member
  have kept := held.kept claim (List.mem_of_getElem? found) entry inside
  have known : entry.1 < s.outbox.serial := Table.row_below kept
  refine ⟨still, known, fun row here => ?_, ?_⟩
  · simp only [Table.update_row, kept, Option.map_some, member, decide_true, if_true,
      Option.some.injEq] at here
    rw [← here]
    simp [OutboxRow.lock]
  · rintro ⟨other, open', inside'⟩
    exact (held.committed found).2 entry.1 member other open' inside'

private theorem withheld_step (withheld : Withheld id s) (stepped : step s action = some s')
    (kept : ¬ Releases id ⟨s, action, s'⟩) : Withheld id s' := by
  have still := held_step withheld.held stepped
  have fewer : ∀ claims : List Claim, claims.Sublist s.claims → s'.claims = claims →
      ¬ s'.locked id := by
    rintro claims part shape ⟨claim, open', member⟩
    exact withheld.free ⟨claim, part.subset (shape ▸ open'), member⟩
  have same : s'.claims = s.claims → ¬ s'.locked id := fewer _ (List.Sublist.refl _)
  cases step_effect stepped with
  | stored =>
    refine ⟨still, Nat.lt_succ_of_lt withheld.known, fun row here => ?_, same rfl⟩
    have old : id ≠ s.outbox.serial := Nat.ne_of_lt withheld.known
    rw [Table.insert_row, if_neg old] at here
    exact withheld.busy row here
  | released =>
    refine ⟨still, withheld.known, fun row here => ?_, same rfl⟩
    obtain ⟨before, stored, rfl⟩ := Table.of_update here
    split
    · rename_i stale
      exact absurd (.inl ⟨_, before, rfl, stored, stale⟩) kept
    · exact withheld.busy before stored
  | selected scans =>
    refine ⟨still, withheld.known, withheld.busy, ?_⟩
    rintro ⟨claim, open', listed⟩
    rcases List.mem_append.mp open' with old | new
    · exact withheld.free ⟨claim, old, listed⟩
    · cases List.mem_singleton.mp new
      obtain ⟨entry, member, rfl⟩ := List.mem_map.mp listed
      obtain ⟨here, claimable, -⟩ := mem_claimBatch scans member
      simp only [OutboxRow.claimable, Bool.and_eq_true, decide_eq_true_eq] at claimable
      exact withheld.busy entry.2 here claimable.1.1
  | committed found =>
    refine ⟨still, withheld.known, fun row here => ?_, fewer _ (List.eraseIdx_sublist ..) rfl⟩
    obtain ⟨before, stored, rfl⟩ := Table.of_update here
    split
    · simp [OutboxRow.lock]
    · exact withheld.busy before stored
  | aborted found => exact ⟨still, withheld.known, withheld.busy, fewer _ (List.eraseIdx_sublist ..) rfl⟩
  | crashed => exact ⟨still, withheld.known, withheld.busy, fewer _ List.filter_sublist rfl⟩
  | completed found =>
    refine ⟨still, withheld.known, fun row here => ?_, same rfl⟩
    obtain ⟨before, stored, rfl⟩ := Table.of_update here
    split
    · simp [OutboxRow.markCompleted]
    · exact withheld.busy before stored
  | failed found progress =>
    refine ⟨still, withheld.known, fun row here => ?_, same rfl⟩
    obtain ⟨before, stored, rfl⟩ := Table.of_update here
    split
    · rename_i own
      have last : maxRetries ≤ failureCount _ _ := Nat.le_of_not_lt fun retried =>
        kept (.inr ⟨_, _, _, _, rfl, found, (beq_iff_eq.mp own).symm, progress, retried⟩)
      simp [OutboxRow.handleFailure, last]
    · exact withheld.busy before stored
  | deleted found =>
    refine ⟨still, withheld.known, fun row here => ?_, same rfl⟩
    exact withheld.busy row (Table.of_delete here).2
  | _ => exact ⟨still, withheld.known, withheld.busy, same rfl⟩

/-- A claim is opened by its `SELECT`. -/
theorem claim_selected (absent : claim ∉ s.claims) (stepped : step s action = some s')
    (open' : claim ∈ s'.claims) : Selects claim ⟨s, action, s'⟩ := by
  cases step_effect stepped with
  | selected scans =>
    rcases List.mem_append.mp open' with old | new
    · exact absurd old absent
    · cases List.mem_singleton.mp new
      exact ⟨_, _, rfl, rfl, claimBatch_top scans⟩
  | committed | aborted => exact absurd (List.mem_of_mem_eraseIdx open') absent
  | crashed => exact absurd (List.mem_filter.mp open').1 absent
  | _ => exact absurd open' absent

private theorem held_before (unclaimed : s.claims = []) (member : taken ∈ trace step s actions) :
    Held taken.before :=
  (trace_inv (fun held (_ : True) stepped => held_step held stepped) (held_unclaimed unclaimed)
    admits_true taken member).1

/-- No row is in two batches without a release of its lock in between, and each
batch is the top of what was eligible when it was selected. -/
theorem claim_safety (unclaimed : s.claims = []) :
    (∀ earlier first between second later claim claim' id,
      trace step s actions = earlier ++ first :: between ++ second :: later →
      ClaimsBatch claim first → ClaimsBatch claim' second →
      id ∈ claim.rows.map Prod.fst → id ∈ claim'.rows.map Prod.fst →
      ∃ taken ∈ between, Releases id taken) ∧
    ∀ earlier taken later claim, trace step s actions = earlier ++ taken :: later →
      ClaimsBatch claim taken → ∃ select ∈ earlier, Selects claim select := by
  constructor
  · intro earlier first between second later claim claim' id shape claimed claimed' member member'
    by_contra none
    push Not at none
    have shape' : trace step s actions = earlier ++ first :: (between ++ second :: later) := by
      simpa using shape
    obtain ⟨stepped, -, rest, following, -⟩ := trace_cut admits_true shape'
    have held : Held first.before := held_before unclaimed (by rw [shape']; simp)
    have withheld := withheld_claimed held stepped claimed member
    have still : Withheld id second.before :=
      trace_until (fun withheld _ stepped kept => withheld_step withheld stepped kept) withheld
        admits_true following.symm none
    obtain ⟨n, -, found⟩ := claimed'
    exact still.free ⟨claim', List.mem_of_getElem? found, member'⟩
  · intro earlier taken later claim shape claimed
    by_contra none
    push Not at none
    have start : claim ∉ s.claims := by simp [unclaimed]
    have absent : claim ∉ taken.before.claims :=
      trace_until (fun absent _ stepped other open' => other (claim_selected absent stepped open'))
        start admits_true shape none
    obtain ⟨n, -, found⟩ := claimed
    exact absent (List.mem_of_getElem? found)

end Batches

section Samples
open OutboxSample

def urgent : OutboxRow := { waiting "k1" with priority := .high }

/-- Two events that wait, the second with priority. -/
def twoWaiting : OutboxSystem where
  outbox := .ofList [waiting "k0", urgent]

/-- `w1` claims the second event and keeps it for too long; `w2` claims it
again. -/
def reclaimed : List OutboxAction :=
  [.selectBatch "w1" 0 1 [0, 1], .commitBatch 0, .releaseStaleLocks 120001,
   .selectBatch "w2" 120001 1 [1, 0], .commitBatch 0]

theorem claimsBatch_at {steps : List (Taken OutboxSystem OutboxAction)} {n : Nat} {claim : Claim}
    (computed : steps[n]?.map (fun taken => (taken.action, taken.before.claims)) =
      some (.commitBatch 0, [claim])) : ∃ taken, steps[n]? = some taken ∧ ClaimsBatch claim taken := by
  obtain ⟨taken, here, shape⟩ := Option.map_eq_some_iff.mp computed
  obtain ⟨action, claims⟩ := Prod.mk.inj shape
  exact ⟨taken, here, 0, action, by rw [claims]; rfl⟩

theorem claim_safety_shop :
    ∃ earlier first between second later claim claim',
      trace step twoWaiting reclaimed = earlier ++ first :: between ++ second :: later ∧
      ClaimsBatch claim first ∧ ClaimsBatch claim' second ∧
      claim.workerId = "w1" ∧ claim'.workerId = "w2" ∧
      (∃ taken ∈ between, Releases 1 taken) ∧ ∃ select ∈ earlier, Selects claim select := by
  obtain ⟨first, here, claimed⟩ := claimsBatch_at
    (show (trace step twoWaiting reclaimed)[1]?.map _ =
      some (_, [⟨"w1", 0, [(1, urgent)]⟩]) by decide +kernel)
  obtain ⟨second, there, claimed'⟩ := claimsBatch_at
    (show ((trace step twoWaiting reclaimed).drop 2)[2]?.map _ =
      some (_, [⟨"w2", 120001, [(1, urgent)]⟩]) by decide +kernel)
  have shape := take_cons_drop here
  have following := take_cons_drop there
  have whole : trace step twoWaiting reclaimed =
      (trace step twoWaiting reclaimed).take 1 ++
        first :: ((trace step twoWaiting reclaimed).drop 2).take 2 ++
        second :: ((trace step twoWaiting reclaimed).drop 2).drop 3 := by
    rw [List.append_assoc, List.cons_append, ← following]
    exact shape
  obtain ⟨exclusive, top⟩ := @claim_safety twoWaiting reclaimed rfl
  exact ⟨_, first, _, second, _, _, _, whole, claimed, claimed', rfl, rfl,
    exclusive _ _ _ _ _ _ _ _ whole claimed claimed' (by decide) (by decide),
    top _ _ _ _ shape claimed⟩

end Samples

end DriverMicroServices
