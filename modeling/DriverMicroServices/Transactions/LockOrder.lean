import DriverMicroServices.Transactions.Interleaving
import Mathlib.Logic.Hydra
import Mathlib.Order.WellFounded

/-! Lock orders. Calls that take their row locks in the order of some ranks never
wait for each other in a circle. Some calls lock many rows of one table in no
order; `shared` rows are outside the ranks, and only `multi` calls keep locks on
them. `circular_wait` says what is left of deadlocks then, `brought_to_end` that
aborting such calls is enough to bring every call to its end. -/
namespace Transactions

variable {K L R : Type} {Row : K → Type} {ε ε' α β : Type}

/-- The ranks of the rows, the rows outside them and the calls that lock those. -/
structure LockOrder (L K R : Type) where
  rank : K → R
  shared : K → Prop
  multi : L → Prop

namespace Program

variable [LT R] {o : LockOrder L K R} {label : L}

/-- The row that the next step of the call needs for itself. -/
def wants? : Program Row ε α → Option K
  | .lock k _ | .autosave k _ _ => some k
  | _ => none

/-- A call that holds these rows may wait for the row `k`. -/
def MayWait (o : LockOrder L K R) (label : L) (held : List K) (k : K) : Prop :=
  (o.shared k ∧ o.multi label) ∨ ∀ k' ∈ held, o.rank k' < o.rank k

/-- From the rows it holds on, the call takes its locks in the order, writes only
rows it holds, and `post` holds of its result and of the rows it then holds. -/
def Climbs (o : LockOrder L K R) (label : L) (post : Except ε α → List K → Prop) :
    List K → Program Row ε α → Prop
  | held, .ret result => post result held
  | held, .observe next => ∀ seen, (next seen).Climbs o label post held
  | held, .lock k next => (k ∈ held ∨ MayWait o label held k) ∧ (o.shared k → o.multi label) ∧
      ∀ row, (next row).Climbs o label post (k :: held)
  | held, .write k _ next => k ∈ held ∧ next.Climbs o label post held
  | held, .autosave k _ next => k ∉ held ∧ MayWait o label held k ∧
      ∀ row, (next row).Climbs o label post held
  | _, .commit next => next.Climbs o label post []
  | _, .rollback next => next.Climbs o label post []
  | held, .log _ next => next.Climbs o label post held

/-- A call is over only when it has given its locks back. -/
def HandsBack : Except ε α → List K → Prop := fun _ held => held = []

theorem climbs_onRet {post : Except ε' β → List K → Prop} (program : Program Row ε α)
    (f : Except ε α → Program Row ε' β) :
    (program.onRet f).Climbs o label post held ↔
      program.Climbs o label (fun result held => (f result).Climbs o label post held) held := by
  induction program generalizing held with
  | ret result => rfl
  | observe next ih => exact forall_congr' fun seen => ih seen
  | lock k next ih => exact and_congr_right fun _ => and_congr_right fun _ => forall_congr' fun _ => ih _
  | write k v next ih => exact and_congr_right fun _ => ih
  | autosave k g next ih =>
    exact and_congr_right fun _ => and_congr_right fun _ => forall_congr' fun _ => ih _
  | commit next ih => exact ih
  | rollback next ih => exact ih
  | log line next ih => exact ih

theorem climbs_mono {first second : Except ε α → List K → Prop}
    (implies : ∀ result held, first result held → second result held) (program : Program Row ε α)
    (climbs : program.Climbs o label first held) : program.Climbs o label second held := by
  induction program generalizing held with
  | ret result => exact implies _ _ climbs
  | observe next ih => exact fun seen => ih seen (climbs seen)
  | lock k next ih => exact ⟨climbs.1, climbs.2.1, fun row => ih row (climbs.2.2 row)⟩
  | write k v next ih => exact ⟨climbs.1, ih climbs.2⟩
  | autosave k f next ih => exact ⟨climbs.1, climbs.2.1, fun row => ih row (climbs.2.2 row)⟩
  | commit next ih => exact ih climbs
  | rollback next ih => exact ih climbs
  | log line next ih => exact ih climbs

theorem climbs_bind {post : Except ε β → List K → Prop} (program : Program Row ε α)
    (f : α → Program Row ε β) :
    (program.bind f).Climbs o label post held ↔
      program.Climbs o label (fun result held =>
        match result with
        | .ok value => (f value).Climbs o label post held
        | .error error => post (.error error) held) held := by
  rw [bind, climbs_onRet]
  refine ⟨fun climbs => climbs_mono ?_ _ climbs, fun climbs => climbs_mono ?_ _ climbs⟩ <;>
  · intro result held kept
    cases result <;> exact kept

/-- The end of a transaction gives every lock back, whatever its body held. -/
theorem climbs_transaction {post : Except ε α → List K → Prop} {body : Program Row ε α}
    (climbs : body.Climbs o label (fun _ _ => True) held) (ends : ∀ result, post result []) :
    body.transaction.Climbs o label post held := by
  refine (climbs_onRet _ _).mpr (climbs_mono (fun result held _ => ?_) _ climbs)
  cases result <;> exact ends _

/-- A loop keeps what its body keeps of the rows held. -/
theorem climbs_forEach {post : Except ε Unit → List K → Prop} (kept : List K → Prop)
    (items : List β) (body : β → Program Row ε Unit)
    (step : ∀ item ∈ items, ∀ held, kept held → (body item).Climbs o label (fun result held =>
      match result with
      | .ok _ => kept held
      | .error error => post (.error error) held) held)
    (done : ∀ held, kept held → post (.ok ()) held) (start : kept held) :
    (forEach items body).Climbs o label post held := by
  induction items generalizing held with
  | nil => exact done _ start
  | cons item rest ih =>
    rw [forEach, climbs_bind]
    refine climbs_mono (fun result held keeps => ?_) _ (step item (by simp) held start)
    cases result with
    | error error => exact keeps
    | ok value => exact ih (fun later member => step later (by simp [member])) keeps

/-- What a program does next: one step of the call, whatever the database answered. -/
inductive Follows : Program Row ε α → Program Row ε α → Prop where
  | observe {next : Store Row → Program Row ε α} : Follows (next seen) (.observe next)
  | lock {next : Option (Row k) → Program Row ε α} : Follows (next row) (.lock k next)
  | write : Follows next (.write k v next)
  | autosave {next : Option (Row k) → Program Row ε α} : Follows (next row) (.autosave k f next)
  | commit : Follows next (.commit next)
  | rollback : Follows next (.rollback next)
  | log : Follows next (.log line next)

theorem follows_wf : WellFounded (Follows : Program Row ε α → Program Row ε α → Prop) := by
  refine ⟨fun program => ?_⟩
  induction program with
  | ret result => exact ⟨_, fun _ follows => by cases follows⟩
  | observe next ih | lock k next ih | autosave k f next ih =>
    refine ⟨_, fun _ follows => ?_⟩
    cases follows
    exact ih _
  | write k v next ih | commit next ih | rollback next ih | log line next ih =>
    refine ⟨_, fun _ follows => ?_⟩
    cases follows
    exact ih

end Program

namespace System

open Program

/-! ## The invariant -/

section Invariant

variable [LT R] {o : LockOrder L K R} {s : System L Row ε α}

/-- A call in progress holds exactly these rows, and climbs from there. -/
structure Holds (o : LockOrder L K R) (s : System L Row ε α) (t : Nat)
    (thread : Thread L Row ε α) (held : List K) : Prop where
  own : ∀ k, s.owner k = some t ↔ k ∈ held
  plain : ∀ k ∈ held, o.shared k → o.multi thread.label
  climbs : thread.program.Climbs o thread.label HandsBack held

/-- Every lock belongs to a call in progress, and every call keeps to the order. -/
structure Ordered (o : LockOrder L K R) (s : System L Row ε α) : Prop where
  present : ∀ k t, s.owner k = some t → ∃ thread, s.threads t = some thread
  holds : ∀ t thread, s.threads t = some thread → ∃ held, s.Holds o t thread held

theorem ordered_initial (store : Store Row) : Ordered o ({ store } : System L Row ε α) :=
  ⟨fun _ _ owned => by simp at owned, fun _ _ absent => by simp at absent⟩

/-- A call that is over holds nothing. -/
theorem Holds.ended {thread : Thread L Row ε α} (holds : s.Holds o t thread held)
    (ended : thread.program = .ret result) : held = [] := by
  have climbs := holds.climbs
  rw [ended] at climbs
  exact climbs

/-- The system after one call has moved or gone: the locks of the others are as
they were. -/
theorem Ordered.update {s' : System L Row ε α} (ordered : s.Ordered o)
    (threads : ∀ t', t' ≠ t → s'.threads t' = s.threads t')
    (others : ∀ t' k, t' ≠ t → (s'.owner k = some t' ↔ s.owner k = some t'))
    (gone : s'.threads t = none → ∀ k, s'.owner k ≠ some t)
    (own : ∀ thread, s'.threads t = some thread → ∃ held, s'.Holds o t thread held) :
    s'.Ordered o := by
  refine ⟨fun k t' owned => ?_, fun t' thread found => ?_⟩
  · by_cases same : t' = t
    · subst same
      by_contra absent
      push Not at absent
      exact gone (Option.eq_none_iff_forall_ne_some.mpr absent) k owned
    · rw [threads t' same]
      exact ordered.present k t' ((others t' k same).mp owned)
  · by_cases same : t' = t
    · subst same
      exact own thread found
    · rw [threads t' same] at found
      obtain ⟨held, holds⟩ := ordered.holds t' thread found
      exact ⟨held, fun k => (others t' k same).trans (holds.own k), holds.plain, holds.climbs⟩

end Invariant

section Steps

variable [DecidableEq K] [LT R] {o : LockOrder L K R} {s s' : System L Row ε α}
  {code : L → Program Row ε α}

/-- One step of a call: its program goes on, and no other call moves. -/
theorem advance_moves {thread : Thread L Row ε α} (ran : s.advance t thread = some s') :
    ∃ thread', s'.threads = Function.update s.threads t (some thread') ∧
      thread'.label = thread.label ∧ Follows thread'.program thread.program := by
  obtain ⟨base, thread', took, rfl⟩ := advances ran
  refine ⟨thread', by rw [put_threads, took.threads], ?_, ?_⟩
  · cases took <;> rfl
  · cases took <;> constructor

omit [DecidableEq K] in
theorem unlock_owner_self (s : System L Row ε α) (k : K) : (s.unlock t).owner k ≠ some t := by
  simp only [unlock]
  split
  · simp
  · assumption

/-- A step changes no lock of another call. -/
theorem advance_others {thread : Thread L Row ε α} (ran : s.advance t thread = some s')
    (different : t' ≠ t) : s'.owner k = some t' ↔ s.owner k = some t' := by
  obtain ⟨base, thread', took, rfl⟩ := advances ran
  cases took with
  | observe | log | write | autosave => rfl
  | commit | rollback => exact unlock_owner_iff _ different
  | @lock k' _ _ _ free =>
    by_cases same : k = k'
    · subst same
      simp only [put_owner, Function.update_self, Option.some.injEq]
      rcases free with free | free <;> simp [free, Ne.symm different]
    · simp [same]

/-- A step keeps the call in the order. -/
theorem advance_holds {thread thread' : Thread L Row ε α} (holds : s.Holds o t thread held)
    (ran : s.advance t thread = some s') (found : s'.threads t = some thread') :
    ∃ held', s'.Holds o t thread' held' := by
  obtain ⟨own, plain, climbs⟩ := holds
  obtain ⟨base, took, rfl⟩ := advances_found ran found
  cases took with
  | observe => exact ⟨held, own, plain, climbs _⟩
  | log => exact ⟨held, own, plain, climbs⟩
  | commit | rollback =>
    refine ⟨[], fun k => ?_, by simp, climbs⟩
    simpa using unlock_owner_self _ k
  | @lock k =>
    refine ⟨k :: held, fun k' => ?_, ?_, climbs.2.2 _⟩
    · by_cases same : k' = k
      · simp [same]
      · simpa [same] using own k'
    · simpa using ⟨climbs.2.1, plain⟩
  | write => exact ⟨held, own, plain, climbs.2⟩
  | autosave => exact ⟨held, own, plain, climbs.2.2 _⟩

/-- Every choice of the scheduler keeps the invariant. -/
theorem ordered_act (climb : ∀ label, (code label).Climbs o label HandsBack [])
    (ordered : s.Ordered o) (ran : s.act code action = some s') : s'.Ordered o := by
  cases action with
  | start t label =>
    simp only [act] at ran
    split at ran
    · rename_i absent
      cases ran
      refine ordered.update (t := t) (fun t' other => by simp [other]) (fun _ _ _ => Iff.rfl)
        (fun none => by simp at none) fun thread found => ?_
      rw [put_threads, Function.update_self] at found
      cases found
      refine ⟨[], fun k => ⟨fun owned => ?_, fun member => by cases member⟩, by simp, climb label⟩
      obtain ⟨thread, present⟩ := ordered.present k t owned
      rw [absent] at present
      cases present
    · cases ran
  | step t =>
    obtain ⟨thread, present, ran⟩ := Option.bind_eq_some_iff.mp ran
    obtain ⟨held, holds⟩ := ordered.holds t thread present
    refine ordered.update (fun t' other => advance_threads ran other)
      (fun t' k other => advance_others ran other) (fun none => ?_)
      fun thread' found => advance_holds holds ran found
    obtain ⟨thread', found⟩ := advance_present ran
    rw [none] at found
    cases found
  | abort t =>
    obtain ⟨thread, present, rfl⟩ := Option.map_eq_some_iff.mp ran
    refine ordered.update (t := t) (fun t' other => by simp [other])
      (fun t' k other => unlock_owner_iff s other) (fun _ => unlock_owner_self s) fun thread found => ?_
    simp at found

theorem ordered_run (climb : ∀ label, (code label).Climbs o label HandsBack [])
    (ordered : s.Ordered o) (ran : s.run code actions = some s') : s'.Ordered o := by
  induction actions generalizing s with
  | nil =>
    cases ran
    exact ordered
  | cons action rest ih =>
    obtain ⟨next, stepped, ran⟩ := Option.bind_eq_some_iff.mp ran
    exact ih (ordered_act climb ordered stepped) ran

end Steps

/-! ## Waiting -/

section Waiting

variable {o : LockOrder L K R} {s : System L Row ε α}

/-- A call waits for a row that another call holds. -/
structure Waits (s : System L Row ε α) (t : Nat) (k : K) (t' : Nat) : Prop where
  different : t ≠ t'
  wants : (s.threads t).bind (fun thread => thread.program.wants?) = some k
  owned : s.owner k = some t'

/-- The call is one that may lock many rows. -/
def IsMulti (o : LockOrder L K R) (s : System L Row ε α) (t : Nat) : Prop :=
  ∃ thread, s.threads t = some thread ∧ o.multi thread.label

/-- The call is in progress, and not over. -/
def Unfinished (s : System L Row ε α) (t : Nat) : Prop :=
  ∃ thread, s.threads t = some thread ∧ ∀ result, thread.program ≠ .ret result

/-- What a call waits for is a row it may wait for. -/
theorem Holds.wants [LT R] {thread : Thread L Row ε α} (holds : s.Holds o t thread held)
    (wants : thread.program.wants? = some k) : k ∈ held ∨ MayWait o thread.label held k := by
  obtain ⟨label, program, buf⟩ := thread
  have climbs := holds.climbs
  cases program with
  | lock k' next =>
    cases wants
    exact climbs.1
  | autosave k' f next =>
    cases wants
    exact .inr climbs.2.1
  | _ => cases wants

/-- A call that is waited for is not over. -/
theorem Ordered.waited_unfinished [LT R] (ordered : s.Ordered o) (waits : s.Waits t k t') :
    s.Unfinished t' := by
  obtain ⟨thread, present⟩ := ordered.present k t' waits.owned
  obtain ⟨held, holds⟩ := ordered.holds t' thread present
  refine ⟨thread, present, fun result ended => ?_⟩
  have member := (holds.own k).mp waits.owned
  rw [holds.ended ended] at member
  cases member

/-- A call that waits, but not for a shared row held by a call like itself, asks
for a row above everything it holds. -/
theorem Ordered.waits_above [LT R] (ordered : s.Ordered o) (waits : s.Waits t k t')
    (apart : ¬ (o.shared k ∧ s.IsMulti o t ∧ s.IsMulti o t')) (own : s.owner k' = some t) :
    o.rank k' < o.rank k := by
  obtain ⟨thread, present, wants⟩ := Option.bind_eq_some_iff.mp waits.wants
  obtain ⟨held, holds⟩ := ordered.holds t thread present
  rcases holds.wants wants with again | ⟨shared, multi⟩ | above
  · have mine := (holds.own k).mpr again
    rw [waits.owned, Option.some.injEq] at mine
    exact absurd mine.symm waits.different
  · obtain ⟨other, there⟩ := ordered.present k t' waits.owned
    obtain ⟨held', holds'⟩ := ordered.holds t' other there
    have multi' := holds'.plain k ((holds'.own k).mp waits.owned) shared
    exact absurd ⟨shared, ⟨thread, present, multi⟩, other, there, multi'⟩ apart
  · exact above k' ((holds.own k').mp own)

/-- Calls that wait for each other in a circle: one of them waits for a shared
row, another has locked it, and both are calls that may lock many rows. -/
theorem circular_wait [Preorder R] [WellFoundedGT R] (ordered : s.Ordered o) {circle : Set Nat}
    (nonempty : circle.Nonempty)
    (closed : ∀ t ∈ circle, ∃ k, ∃ t' ∈ circle, s.Waits t k t') :
    ∃ t ∈ circle, ∃ t' ∈ circle, ∃ k, s.Waits t k t' ∧ o.shared k ∧ s.IsMulti o t ∧
      s.IsMulti o t' := by
  by_contra none
  -- otherwise the ranks waited for grow all the way around
  let awaited : Set R := {r | ∃ t ∈ circle, ∃ k, ∃ t' ∈ circle, s.Waits t k t' ∧ o.rank k = r}
  have some : awaited.Nonempty := by
    obtain ⟨t, member⟩ := nonempty
    obtain ⟨k, t', member', waits⟩ := closed t member
    exact ⟨_, t, member, k, t', member', waits, rfl⟩
  obtain ⟨highest, ⟨t, member, k, t', member', waits, rfl⟩, top⟩ :=
    (@wellFounded_gt R _ _).has_min awaited some
  obtain ⟨k', t'', member'', waits'⟩ := closed t' member'
  refine top (o.rank k') ⟨t', member', k', t'', member'', waits', rfl⟩ ?_
  refine ordered.waits_above waits' (fun both => ?_) waits.owned
  exact none ⟨t', member', t'', member'', k', waits', both⟩

/-- A call that cannot step is over, or waits. -/
theorem Ordered.blocked [DecidableEq K] [LT R] (ordered : s.Ordered o)
    {thread : Thread L Row ε α} (present : s.threads t = some thread)
    (stopped : s.advance t thread = none) :
    (∃ result, thread.program = .ret result) ∨ ∃ k t', s.Waits t k t' := by
  obtain ⟨held, holds⟩ := ordered.holds t thread present
  obtain ⟨label, program, buf⟩ := thread
  have climbs := holds.climbs
  cases program with
  | ret result => exact .inl ⟨result, rfl⟩
  | observe next | commit next | rollback next | log line next => cases stopped
  | write k v next =>
    have own := (holds.own k).mpr climbs.1
    simp [advance, own] at stopped
  | lock k next =>
    simp only [advance, ite_eq_right_iff, reduceCtorEq, imp_false, not_or] at stopped
    obtain ⟨t', owned⟩ := Option.ne_none_iff_exists'.mp stopped.1
    refine .inr ⟨k, t', ?_, by simp [present, wants?], owned⟩
    rintro rfl
    exact stopped.2 owned
  | autosave k f next =>
    simp only [advance, ite_eq_right_iff, reduceCtorEq, imp_false] at stopped
    obtain ⟨t', owned⟩ := Option.ne_none_iff_exists'.mp stopped
    refine .inr ⟨k, t', ?_, by simp [present, wants?], owned⟩
    rintro rfl
    exact climbs.1 ((holds.own k).mp owned)

end Waiting

/-! ## Progress -/

section Progress

variable [DecidableEq K] {o : LockOrder L K R} {s s' : System L Row ε α}
  {code : L → Program Row ε α}

/-- While some call is not over, one of them can step, or two that may lock many
rows are in each other's way. -/
theorem step_or_victim [Preorder R] [WellFoundedGT R] (code : L → Program Row ε α)
    (ordered : s.Ordered o) (unfinished : s.Unfinished t) :
    (∃ t' next, s.act code (.step t') = some next) ∨
      ∃ t' t'', t' ≠ t'' ∧ s.IsMulti o t' ∧ s.IsMulti o t'' := by
  by_cases moves : ∃ t' next, s.act code (.step t') = some next
  · exact .inl moves
  push Not at moves
  have closed : ∀ t ∈ {t | s.Unfinished t}, ∃ k, ∃ t' ∈ {t | s.Unfinished t}, s.Waits t k t' := by
    rintro t ⟨thread, present, going⟩
    have stopped : s.advance t thread = none := by
      refine Option.eq_none_iff_forall_ne_some.mpr fun next ran => moves t next ?_
      simp [act, present, ran]
    rcases ordered.blocked present stopped with ⟨result, ended⟩ | ⟨k, t', waits⟩
    · exact absurd ended (going result)
    · exact ⟨k, t', ordered.waited_unfinished waits, waits⟩
  obtain ⟨t', _, t'', _, k, waits, _, multi, multi'⟩ := circular_wait ordered ⟨t, unfinished⟩ closed
  exact .inr ⟨t', t'', waits.different, multi, multi'⟩

/-- The programs of the calls in progress. -/
def programs (s : System L Row ε α) (n : Nat) : Multiset (Program Row ε α) :=
  ((List.range n).filterMap fun t => (s.threads t).map Thread.program : List (Program Row ε α))

omit [DecidableEq K] in
/-- The programs of the calls, one of them put first. -/
theorem programs_split (s : System L Row ε α) (below : t < n) :
    s.programs n = ↑((s.threads t).map Thread.program).toList +
      ↑(((List.range n).erase t).filterMap fun t => (s.threads t).map Thread.program) := by
  have first := (List.perm_cons_erase (List.mem_range.mpr below)).filterMap
    fun t => (s.threads t).map Thread.program
  rw [programs, Multiset.coe_add]
  refine Multiset.coe_eq_coe.mpr (first.trans (List.Perm.of_eq ?_))
  rw [List.filterMap_cons]
  cases s.threads t <;> rfl

omit [DecidableEq K] in
/-- A call that goes on, or goes away, leaves less to do. -/
theorem programs_shrink {thread : Thread L Row ε α} (below : t < n)
    (present : s.threads t = some thread)
    (moved : s'.threads = Function.update s.threads t thread')
    (less : ∀ next ∈ thread', Follows next.program thread.program) :
    Relation.CutExpand Follows (s'.programs n) (s.programs n) := by
  have rest : (((List.range n).erase t).filterMap fun t => (s'.threads t).map Thread.program) =
      ((List.range n).erase t).filterMap fun t => (s.threads t).map Thread.program := by
    refine List.filterMap_congr fun t' member => ?_
    have other := (List.nodup_range.mem_erase_iff.mp member).1
    rw [moved, Function.update_of_ne other]
  refine ⟨↑(thread'.map Thread.program).toList, thread.program, fun next member => ?_, ?_⟩
  · obtain ⟨next', here, rfl⟩ := Option.map_eq_some_iff.mp (Option.mem_toList.mp (by simpa using member))
    exact less next' here
  · rw [programs_split s below, programs_split s' below, rest, moved, Function.update_self, present]
    simp only [Option.map_some, Option.toList_some, Multiset.coe_singleton]
    rw [add_comm, add_assoc, add_comm (Multiset.ofList _) (Multiset.ofList _)]

/-- Only finitely many calls have been started. -/
theorem run_bounded (bounded : ∀ t, n ≤ t → s.threads t = none)
    (ran : s.run code actions = some s') : ∃ m, ∀ t, m ≤ t → s'.threads t = none := by
  induction actions generalizing s n with
  | nil =>
    cases ran
    exact ⟨n, bounded⟩
  | cons action rest ih =>
    obtain ⟨next, stepped, ran⟩ := Option.bind_eq_some_iff.mp ran
    refine ih (n := max n (action.thread + 1)) (fun t above => ?_) ran
    have later : action.thread ≠ t := by omega
    rw [(act_others stepped later).1]
    exact bounded t (by omega)

/-- A continuation that brings every call to its end: each one has its answer, or it
may lock many rows and was aborted while another such call was in progress. -/
structure Finishes (code : L → Program Row ε α) (o : LockOrder L K R) (s : System L Row ε α)
    (actions : List (Action L)) (s' : System L Row ε α) : Prop where
  ran : s.run code actions = some s'
  chosen : ∀ action ∈ actions, (∃ t, action = .step t) ∨
    ∃ t t', action = .abort t ∧ t ≠ t' ∧ s.IsMulti o t ∧ s.IsMulti o t'
  ended : ∀ t thread, s.threads t = some thread →
    (∃ result, s'.answer? t = some (thread.label, result)) ∨
      (o.multi thread.label ∧ .abort t ∈ actions)
  free : ∀ k, s'.owner k = none

/-- One call goes on or is aborted, and the rest is brought to its end. -/
theorem Finishes.cons {next : System L Row ε α} {thread : Thread L Row ε α}
    (stepped : s.act code action = some next) (present : s.threads t = some thread)
    (moved : next.threads = Function.update s.threads t thread')
    (same : ∀ later ∈ thread', later.label = thread.label)
    (chosen : (action = .step t ∧ thread'.isSome) ∨
      ∃ t', action = .abort t ∧ t ≠ t' ∧ s.IsMulti o t ∧ s.IsMulti o t')
    (rest : Finishes code o next actions s') : Finishes code o s (action :: actions) s' := by
  have multi {t' : Nat} (later : next.IsMulti o t') : s.IsMulti o t' := by
    obtain ⟨thread'', found, multi⟩ := later
    rw [moved, Function.update_apply] at found
    split at found
    · rename_i own
      rw [same _ found] at multi
      exact ⟨thread, own ▸ present, multi⟩
    · exact ⟨thread'', found, multi⟩
  refine ⟨by simp [run, stepped, rest.ran], ?_, fun t' thread'' found => ?_, rest.free⟩
  · intro later member
    rcases List.mem_cons.mp member with rfl | member
    · rcases chosen with ⟨step, _⟩ | ⟨t', abort, victim⟩
      · exact .inl ⟨t, step⟩
      · exact .inr ⟨t, t', abort, victim⟩
    · refine (rest.chosen later member).imp_right ?_
      rintro ⟨first, second, abort, different, multi₁, multi₂⟩
      exact ⟨first, second, abort, different, multi multi₁, multi multi₂⟩
  · have later := rest.ended t'
    rw [moved, Function.update_apply] at later
    split at later
    · rename_i own
      subst own
      obtain rfl : thread = thread'' := Option.some.inj (present.symm.trans found)
      cases thread' with
      | none =>
        rcases chosen with ⟨_, some⟩ | ⟨t'', rfl, _, ⟨_, here, multi⟩, _⟩
        · cases some
        · obtain rfl := Option.some.inj (present.symm.trans here)
          exact .inr ⟨multi, by simp⟩
      | some goes =>
        rw [← same goes rfl]
        exact (later goes rfl).imp_right fun aborted => ⟨aborted.1, by simp [aborted.2]⟩
    · exact (later thread'' found).imp_right fun aborted => ⟨aborted.1, by simp [aborted.2]⟩

/-- From every state that keeps to the order, some continuation of steps, and of aborts
among calls that may lock many rows, brings every call to its end. -/
theorem brought_to_end [Preorder R] [WellFoundedGT R]
    (climb : ∀ label, (code label).Climbs o label HandsBack []) (ordered : s.Ordered o)
    (bounded : ∀ t, n ≤ t → s.threads t = none) :
    ∃ actions s', Finishes code o s actions s' := by
  have wf := InvImage.wf (fun s : System L Row ε α => s.programs n) follows_wf.cutExpand
  induction s using wf.induction with
  | _ s ih =>
  have within {t : Nat} {thread : Thread L Row ε α} (present : s.threads t = some thread) : t < n := by
    by_contra above
    rw [bounded t (Nat.le_of_not_lt above)] at present
    cases present
  -- a call that goes on or away leaves a smaller system, which is brought to its end
  have rest {t : Nat} {action : Action L} {next : System L Row ε α} {thread : Thread L Row ε α}
      {thread' : Option (Thread L Row ε α)} (stepped : s.act code action = some next)
      (present : s.threads t = some thread)
      (moved : next.threads = Function.update s.threads t thread')
      (less : ∀ later ∈ thread', Follows later.program thread.program) :
      ∃ actions s', Finishes code o next actions s' := by
    refine ih next (programs_shrink (within present) present moved less)
      (ordered_act climb ordered stepped) fun t' above => ?_
    rw [moved, Function.update_of_ne (by have := within present; omega)]
    exact bounded t' above
  by_cases going : ∃ t, s.Unfinished t
  · obtain ⟨t, unfinished⟩ := going
    rcases step_or_victim code ordered unfinished with
      ⟨t, next, stepped⟩ | ⟨t, t', different, ⟨thread, present, multi⟩, multi'⟩
    · obtain ⟨thread, present, ran⟩ := Option.bind_eq_some_iff.mp stepped
      obtain ⟨thread', moved, same, follows⟩ := advance_moves ran
      obtain ⟨actions, s', finishes⟩ := rest stepped present moved (by simpa using follows)
      exact ⟨_, s', finishes.cons stepped present moved (by simpa using same) (.inl ⟨rfl, rfl⟩)⟩
    · have stepped : s.act code (.abort t) =
          some { s.unlock t with threads := Function.update s.threads t none } := by
        simp [act, present]
      obtain ⟨actions, s', finishes⟩ := rest stepped present rfl (by simp)
      exact ⟨_, s', finishes.cons stepped present rfl (by simp)
        (.inr ⟨t', rfl, different, ⟨thread, present, multi⟩, multi'⟩)⟩
  · refine ⟨[], s, rfl, by simp, fun t thread present => .inl ?_, fun k => ?_⟩
    · obtain ⟨label, program, buf⟩ := thread
      cases program with
      | ret result => exact ⟨result, by simp [answer?, present]⟩
      | _ => exact absurd ⟨t, _, present, by simp⟩ going
    · by_contra owned
      obtain ⟨t, owned⟩ := Option.ne_none_iff_exists'.mp owned
      obtain ⟨thread, present⟩ := ordered.present k t owned
      obtain ⟨held, holds⟩ := ordered.holds t thread present
      refine going ⟨t, thread, present, fun result ended => ?_⟩
      have member := (holds.own k).mp owned
      rw [holds.ended ended] at member
      cases member

end Progress

end System

end Transactions
