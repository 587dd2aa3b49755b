import DriverMicroServices.Transactions.Interleaving

/-! Rely-guarantee contracts for programs. A row read under a lock is unchanged
until the call commits, so a transaction may be reasoned about as if every
locked read happened at its commit: `wp` fixes that later store in advance,
while reads without a lock see any earlier one. `sound_act` is the one
induction over interleavings; a call's contract is proved by recursion on its
program alone. -/
namespace Transactions

variable {K L : Type} {Row : K → Type} {ε α β : Type}

/-- What the calls of a system promise each other. Every effect that meets its
condition and its guarantee keeps the invariant and stays within the rely. -/
structure Discipline (L : Type) {K : Type} (Row : K → Type) where
  inv : Store Row → Prop
  rely : Store Row → Store Row → Prop
  cond : L → Effect K → Store Row → Prop
  guar : L → Effect K → Store Row → Store Row → Prop
  refl : ∀ s, rely s s
  trans : ∀ {a b c}, rely a b → rely b c → rely a c
  keeps : ∀ {label effect before after}, inv before → cond label effect before →
    guar label effect before after → inv after ∧ rely before after

/-- The discipline whose calls rely on an invariant of the rows alone. -/
def Discipline.keeping (inv : Store Row → Prop) (cond : L → Effect K → Store Row → Prop)
    (guar : L → Effect K → Store Row → Store Row → Prop)
    (keeps : ∀ {label effect before after}, inv before → cond label effect before →
      guar label effect before after → inv after) : Discipline L Row where
  inv := inv
  rely := fun _ _ => True
  cond := cond
  guar := guar
  refl := fun _ => trivial
  trans := fun _ _ => trivial
  keeps := fun kept admitted promised => ⟨keeps kept admitted promised, trivial⟩

/-- A condition after a program: its result, a store known to have been
committed by then, the store its open transaction will commit on, and the
writes of that transaction. -/
abbrev Post {K : Type} (Row : K → Type) (ε α : Type) :=
  Except ε α → Store Row → Store Row → List (Write Row) → Prop

variable [DecidableEq K]

/-- Every effect of the program meets the discipline, whatever the other calls
do in between, and `post` holds when it ends. `past` is a store already
committed, `st` the one on which the open transaction commits. -/
def Program.wp (d : Discipline L Row) (label : L) (post : Post Row ε α) :
    Program Row ε α → Store Row → Store Row → List (Write Row) → Prop
  | .ret result, past, st, buf => post result past st buf
  | .observe next, past, st, buf => ∀ now, d.inv now → d.rely past now → d.rely now st →
      (next now).wp d label post now st buf
  | .lock k next, past, st, buf => ∀ now, d.inv now → d.rely past now → d.rely now st →
      now.row k = st.row k → (next ((st.apply buf).row k)).wp d label post now st buf
  | .write k v next, past, st, buf => next.wp d label post past st (buf ++ [⟨k, v⟩])
  | .autosave k f next, past, st, buf => ∀ now, d.inv now → d.rely past now →
      d.cond label (.autosave k) now →
      d.guar label (.autosave k) now (now.autosave k f) ∧
        (d.rely (now.autosave k f) st →
          (next (now.row k)).wp d label post (now.autosave k f) st buf)
  | .commit next, past, st, buf => d.inv st → d.rely past st → d.cond label .commit st →
      d.guar label .commit st (st.apply buf) ∧
        ∀ later, d.rely (st.apply buf) later → next.wp d label post (st.apply buf) later []
  | .rollback next, past, _, _ => ∀ later, d.rely past later → next.wp d label post past later []
  | .log line next, past, st, buf => ∀ now, d.inv now → d.rely past now → d.rely now st →
      d.cond label (.log line) now → next.wp d label post now st buf

namespace Program

variable {d : Discipline L Row} {label : L}

theorem wp_mono {first second : Post Row ε α}
    (implies : ∀ result past st buf, first result past st buf → second result past st buf)
    (program : Program Row ε α) (holds : program.wp d label first past st buf) :
    program.wp d label second past st buf := by
  induction program generalizing past st buf with
  | ret result => exact implies _ _ _ _ holds
  | observe next ih => exact fun now kept before after => ih now (holds now kept before after)
  | lock k next ih => exact fun now kept before after same => ih _ (holds now kept before after same)
  | write k v next ih => exact ih holds
  | autosave k f next ih =>
    intro now kept before admitted
    obtain ⟨promised, rest⟩ := holds now kept before admitted
    exact ⟨promised, fun after => ih _ (rest after)⟩
  | commit next ih =>
    intro kept before admitted
    obtain ⟨promised, rest⟩ := holds kept before admitted
    exact ⟨promised, fun later after => ih (rest later after)⟩
  | rollback next ih => exact fun later after => ih (holds later after)
  | log line next ih =>
    exact fun now kept before after admitted => ih (holds now kept before after admitted)

/-- A program in sequence with what follows its end. -/
theorem wp_onRet {ε' : Type} {post : Post Row ε' β} (program : Program Row ε α)
    (f : Except ε α → Program Row ε' β) :
    (program.onRet f).wp d label post past st buf ↔
      program.wp d label (fun result past st buf => (f result).wp d label post past st buf)
        past st buf := by
  induction program generalizing past st buf with
  | ret result => rfl
  | observe next ih =>
    exact forall_congr' fun now => forall_congr' fun _ => forall_congr' fun _ =>
      forall_congr' fun _ => ih now
  | lock k next ih =>
    exact forall_congr' fun now => forall_congr' fun _ => forall_congr' fun _ =>
      forall_congr' fun _ => forall_congr' fun _ => ih _
  | write k v next ih => exact ih
  | autosave k g next ih =>
    exact forall_congr' fun now => forall_congr' fun _ => forall_congr' fun _ =>
      forall_congr' fun _ => and_congr_right fun _ => forall_congr' fun _ => ih _
  | commit next ih =>
    exact forall_congr' fun _ => forall_congr' fun _ => forall_congr' fun _ =>
      and_congr_right fun _ => forall_congr' fun _ => forall_congr' fun _ => ih
  | rollback next ih => exact forall_congr' fun _ => forall_congr' fun _ => ih
  | log line next ih =>
    exact forall_congr' fun now => forall_congr' fun _ => forall_congr' fun _ =>
      forall_congr' fun _ => forall_congr' fun _ => ih

theorem wp_bind {post : Post Row ε β} (program : Program Row ε α) (f : α → Program Row ε β) :
    (program.bind f).wp d label post past st buf ↔
      program.wp d label (fun result past st buf =>
        match result with
        | .ok value => (f value).wp d label post past st buf
        | .error error => post (.error error) past st buf) past st buf := by
  rw [bind, wp_onRet]
  refine ⟨fun holds => wp_mono ?_ _ holds, fun holds => wp_mono ?_ _ holds⟩ <;>
  · intro result past st buf held
    cases result <;> exact held

/-- A loop keeps what its body keeps, over whatever the body has written. -/
theorem wp_forEach {post : Post Row ε Unit}
    (kept : Store Row → Store Row → List (Write Row) → Prop)
    (items : List β) (body : β → Program Row ε Unit)
    (step : ∀ item ∈ items, ∀ past st buf, kept past st buf →
      (body item).wp d label (fun result past st buf =>
        match result with
        | .ok _ => kept past st buf
        | .error error => post (.error error) past st buf) past st buf)
    (done : ∀ past st buf, kept past st buf → post (.ok ()) past st buf)
    (start : kept past st buf) : (forEach items body).wp d label post past st buf := by
  induction items generalizing past st buf with
  | nil => exact done _ _ _ start
  | cons item rest ih =>
    rw [forEach, wp_bind]
    refine wp_mono ?_ _ (step item (by simp) past st buf start)
    intro result past st buf held
    cases result with
    | error error => exact held
    | ok value => exact ih (fun later member => step later (by simp [member])) held

/-- A store known to be committed may be replaced by any later one. -/
theorem wp_past {post : Post Row ε α}
    (stable : ∀ result past past' st buf, d.rely past past' →
      post result past st buf → post result past' st buf)
    (program : Program Row ε α) (growth : d.rely past past')
    (holds : program.wp d label post past st buf) : program.wp d label post past' st buf := by
  induction program generalizing past st buf with
  | ret result => exact stable _ _ _ _ _ growth holds
  | observe next _ => exact fun now kept before after => holds now kept (d.trans growth before) after
  | lock k next _ =>
    exact fun now kept before after same => holds now kept (d.trans growth before) after same
  | write k v next ih => exact ih growth holds
  | autosave k f next _ =>
    exact fun now kept before admitted => holds now kept (d.trans growth before) admitted
  | commit next _ => exact fun kept before admitted => holds kept (d.trans growth before) admitted
  | rollback next ih =>
    exact fun later after => ih growth (holds later (d.trans growth after))
  | log line next _ =>
    exact fun now kept before after admitted => holds now kept (d.trans growth before) after admitted

end Program

/-- The end of a call, seen at any later moment. -/
def Ended (d : Discipline L Row) (result : Except ε α → Store Row → Prop) : Post Row ε α :=
  fun answer past _ _ => ∀ now, d.inv now → d.rely past now → result answer now

/-- A program meets its contract from every store. -/
def Program.Meets (d : Discipline L Row) (label : L) (result : Except ε α → Store Row → Prop)
    (program : Program Row ε α) : Prop :=
  ∀ past st, d.rely past st → program.wp d label (Ended d result) past st []

namespace System

variable {d : Discipline L Row} {result : L → Except ε α → Store Row → Prop}

/-- A call in progress still meets its contract: on every store that agrees
with the present one on the rows it has locked. -/
def Ready (d : Discipline L Row) (result : L → Except ε α → Store Row → Prop)
    (s : System L Row ε α) (t : Nat) (thread : Thread L Row ε α) : Prop :=
  ∀ st, (∀ k, s.owner k = some t → st.row k = s.store.row k) → d.rely s.store st →
    thread.program.wp d thread.label (Ended d (result thread.label)) s.store st thread.buf

/-- The invariant of every interleaving. -/
structure Sound (d : Discipline L Row) (result : L → Except ε α → Store Row → Prop)
    (s : System L Row ε α) : Prop where
  inv : d.inv s.store
  owned : ∀ t thread, s.threads t = some thread → ∀ write ∈ thread.buf, s.owner write.1 = some t
  ready : ∀ t thread, s.threads t = some thread → s.Ready d result t thread

theorem sound_initial (store : Store Row) (kept : d.inv store) :
    Sound d result ({ store } : System L Row ε α) :=
  ⟨kept, fun _ _ absent => by simp at absent, fun _ _ absent => by simp at absent⟩

/-- Another call's contract survives a step that keeps its locks and the rows
under them. -/
private theorem ready_other {s s' : System L Row ε α} {thread : Thread L Row ε α}
    (ready : s.Ready d result t thread)
    (locks : ∀ k, s.owner k = some t → s'.owner k = some t ∧ s'.store.row k = s.store.row k)
    (growth : d.rely s.store s'.store) : s'.Ready d result t thread := by
  intro st same later
  refine Program.wp_past ?_ _ growth (ready st ?_ (d.trans growth later))
  · exact fun _ _ _ _ _ grown ended now kept after => ended now kept (d.trans grown after)
  · intro k own
    obtain ⟨own', row⟩ := locks k own
    exact (same k own').trans row

/-- Rows may also be changed by someone who is no call of the system, as long as
he waits for the locks of the calls. -/
theorem sound_outside {s : System L Row ε α} {store : Store Row} (sound : s.Sound d result)
    (kept : d.inv store) (growth : d.rely s.store store)
    (unlocked : ∀ k, s.owner k ≠ none → store.row k = s.store.row k) :
    ({ s with store } : System L Row ε α).Sound d result := by
  refine ⟨kept, sound.owned, fun t thread found => ?_⟩
  refine ready_other (sound.ready t thread found) (fun k own => ⟨own, ?_⟩) growth
  exact unlocked k (by simp [own])

/-- A step of one call: what must be shown of that call and of the shared rows
for the whole system to stay sound. -/
private theorem sound_update {s s' : System L Row ε α} (sound : s.Sound d result)
    (threads : ∀ t', t' ≠ t → s'.threads t' = s.threads t')
    (locks : ∀ t' k, t' ≠ t → s.owner k = some t' →
      s'.owner k = some t' ∧ s'.store.row k = s.store.row k)
    (kept : d.inv s'.store) (growth : d.rely s.store s'.store)
    (own : ∀ thread, s'.threads t = some thread →
      (∀ write ∈ thread.buf, s'.owner write.1 = some t) ∧ s'.Ready d result t thread) :
    s'.Sound d result := by
  refine ⟨kept, fun t' thread found => ?_, fun t' thread found => ?_⟩
  · by_cases same : t' = t
    · subst same
      exact (own thread found).1
    · rw [threads t' same] at found
      exact fun write member => (locks t' _ same (sound.owned t' thread found write member)).1
  · by_cases same : t' = t
    · subst same
      exact (own thread found).2
    · rw [threads t' same] at found
      exact ready_other (sound.ready t' thread found) (locks t' · same) growth

/-- What one step of a call does to the shared rows, and to the call itself. -/
private theorem ready_advance {s s' : System L Row ε α} {thread thread' : Thread L Row ε α}
    (inv : d.inv s.store) (ready : s.Ready d result t thread)
    (admitted : ∀ effect, thread.program.effect? = some effect → d.cond thread.label effect s.store)
    (ran : s.advance t thread = some s') (found : s'.threads t = some thread') :
    (d.inv s'.store ∧ d.rely s.store s'.store ∧
      (s'.store = s.store ∨ ∃ effect, thread.program.effect? = some effect ∧
        d.guar thread.label effect s.store s'.store)) ∧ s'.Ready d result t thread' := by
  have silent := d.refl s.store
  have here := ready s.store (fun _ _ => rfl) silent
  obtain ⟨base, took, rfl⟩ := advances_found ran found
  cases took with
  | observe => exact ⟨⟨inv, silent, .inl rfl⟩, fun st same later => ready st same later _ inv silent later⟩
  | @lock k _ buf =>
    refine ⟨⟨inv, silent, .inl rfl⟩, fun st same later => ?_⟩
    have mine : ∀ k', s.owner k' = some t → st.row k' = s.store.row k' := by
      intro k' held
      apply same k'
      by_cases locked : k' = k
      · simp [locked]
      · simpa [locked] using held
    have row : st.row k = s.store.row k := same k (by simp)
    have seen := ready st mine later _ inv silent later row.symm
    rwa [Store.apply_row_congr _ _ buf row] at seen
  | write => exact ⟨⟨inv, silent, .inl rfl⟩, ready⟩
  | @autosave k _ _ _ _ free =>
    have cond := admitted _ rfl
    obtain ⟨promised, _⟩ := here s.store inv silent cond
    obtain ⟨kept, growth⟩ := d.keeps inv cond promised
    refine ⟨⟨kept, growth, .inr ⟨_, rfl, promised⟩⟩, fun st same later => ?_⟩
    have mine : ∀ k', s.owner k' = some t → st.row k' = s.store.row k' := by
      intro k' held
      refine (same k' held).trans (Store.autosave_row_ne _ _ ?_)
      rintro rfl
      simp [free] at held
    exact (ready st mine (d.trans growth later) s.store inv silent cond).2 later
  | commit =>
    have cond := admitted _ rfl
    obtain ⟨promised, rest⟩ := here inv silent cond
    obtain ⟨kept, growth⟩ := d.keeps inv cond promised
    exact ⟨⟨kept, growth, .inr ⟨_, rfl, promised⟩⟩, fun st _ later => rest st later⟩
  | rollback => exact ⟨⟨inv, silent, .inl rfl⟩, fun st _ later => here st later⟩
  | log =>
    exact ⟨⟨inv, silent, .inl rfl⟩,
      fun st same later => ready st same later _ inv silent later (admitted _ rfl)⟩

/-- One step of one call, with the effect it had. -/
theorem sound_advance {s s' : System L Row ε α} {thread : Thread L Row ε α}
    (sound : s.Sound d result) (found : s.threads t = some thread)
    (admitted : ∀ effect, thread.program.effect? = some effect → d.cond thread.label effect s.store)
    (ran : s.advance t thread = some s') :
    s'.Sound d result ∧ d.rely s.store s'.store ∧
      (s'.store = s.store ∨ ∃ effect, thread.program.effect? = some effect ∧
        d.guar thread.label effect s.store s'.store) := by
  have own := sound.owned t _ found
  obtain ⟨thread', found'⟩ := advance_present ran
  obtain ⟨⟨kept, growth, changed⟩, ready⟩ :=
    ready_advance sound.inv (sound.ready t _ found) admitted ran found'
  refine ⟨sound_update (t := t) sound ?_ ?_ kept growth ?_, growth, changed⟩
  · exact fun t' different => advance_threads ran different
  · exact fun t' k different held => advance_locks own ran different held
  · intro thread'' found''
    rw [found'] at found''
    cases found''
    exact ⟨advance_owned own ran found', ready⟩

variable {code : L → Program Row ε α}

/-- One scheduling choice keeps the system sound, and changes the committed
rows only by an effect that some call's contract promises. -/
theorem sound_act {s s' : System L Row ε α} (sound : s.Sound d result)
    (meets : ∀ label, (code label).Meets d label (result label))
    (admitted : ∀ label effect, s.effect? action = some (label, effect) →
      d.cond label effect s.store)
    (ran : s.act code action = some s') :
    s'.Sound d result ∧ d.rely s.store s'.store ∧
      (s'.store = s.store ∨ ∃ label effect, s.effect? action = some (label, effect) ∧
        d.guar label effect s.store s'.store) := by
  cases action with
  | start t label =>
    simp only [act] at ran
    split at ran
    · cases ran
      refine ⟨sound_update (t := t) sound ?_ (fun _ _ _ held => ⟨held, rfl⟩) sound.inv (d.refl _) ?_,
        d.refl _, .inl rfl⟩
      · exact fun t' different => Function.update_of_ne different ..
      · intro thread found
        rw [put_threads, Function.update_self] at found
        cases found
        exact ⟨by simp, fun st _ later => meets label _ st later⟩
    · cases ran
  | step t =>
    cases found : s.threads t with
    | none => simp [act, found] at ran
    | some thread =>
      simp only [act, found, Option.bind_some] at ran
      simp only [effect?, found, Option.bind_some, Option.map_eq_some_iff, Prod.mk.injEq] at admitted ⊢
      obtain ⟨sound', growth, changed⟩ := sound_advance sound found
        (fun effect next => admitted _ effect ⟨effect, next, rfl, rfl⟩) ran
      refine ⟨sound', growth, changed.imp_right ?_⟩
      rintro ⟨effect, next, promised⟩
      exact ⟨_, effect, ⟨effect, next, rfl, rfl⟩, promised⟩
  | abort t =>
    simp only [act, Option.map_eq_some_iff] at ran
    obtain ⟨thread, found, rfl⟩ := ran
    refine ⟨sound_update (t := t) sound ?_ ?_ sound.inv (d.refl _) ?_, d.refl _, .inl rfl⟩
    · exact fun t' different => Function.update_of_ne different ..
    · exact fun t' k different held => ⟨(unlock_owner_iff _ different).mpr held, rfl⟩
    · intro thread' alive
      simp at alive

/-- An effect that changes rows keeps the promise of its call, also when it
leaves every row as it was. -/
theorem sound_effect {s s' : System L Row ε α} (sound : s.Sound d result)
    (made : s.effect? action = some (label, effect)) (admitted : d.cond label effect s.store)
    (ran : s.act code action = some s') :
    (∃ line, effect = .log line) ∧ s'.store = s.store ∨ d.guar label effect s.store s'.store := by
  cases action with
  | start t label => cases made
  | abort t => cases made
  | step t =>
    obtain ⟨⟨label, program, buf⟩, found, made⟩ := Option.bind_eq_some_iff.mp made
    obtain ⟨effect, next, made⟩ := Option.map_eq_some_iff.mp made
    cases made
    have ready := fun st same later => sound.ready t _ found st same later
    have here := ready s.store (fun _ _ => rfl) (d.refl _)
    simp only [act, found, Option.bind_some] at ran
    cases program with
    | autosave k f next' =>
      cases next
      simp only [advance] at ran
      split at ran <;> cases ran
      exact .inr (here s.store sound.inv (d.refl _) admitted).1
    | commit next' =>
      cases next
      cases ran
      exact .inr (here sound.inv (d.refl _) admitted).1
    | log line next' =>
      cases next
      cases ran
      exact .inl ⟨⟨line, rfl⟩, rfl⟩
    | _ => cases next

/-- Every run whose effects meet their conditions is sound throughout. -/
theorem sound_run {s s' : System L Row ε α} (sound : s.Sound d result)
    (meets : ∀ label, (code label).Meets d label (result label))
    (admitted : s.Admits code d.cond actions) (ran : s.run code actions = some s') :
    s'.Sound d result ∧ d.rely s.store s'.store := by
  induction actions generalizing s with
  | nil =>
    cases ran
    exact ⟨sound, d.refl _⟩
  | cons action rest ih =>
    obtain ⟨next, stepped, ran⟩ := Option.bind_eq_some_iff.mp ran
    obtain ⟨sound', growth, _⟩ := sound_act sound meets (fun label effect made => admitted.1 (label, effect) made) stepped
    obtain ⟨final, later⟩ := ih sound' (admitted.2 next stepped) ran
    exact ⟨final, d.trans growth later⟩

/-- What a finished call answered holds of the rows from then on. -/
theorem sound_answer {s : System L Row ε α} (sound : s.Sound d result)
    (found : s.answer? t = some (label, answer)) : result label answer s.store := by
  obtain ⟨⟨_, program, buf⟩, present, ended⟩ := Option.bind_eq_some_iff.mp found
  cases program with
  | ret answer =>
    cases ended
    exact sound.ready t _ present s.store (fun _ _ => rfl) (d.refl _) s.store sound.inv (d.refl _)
  | _ => cases ended

/-- A relation that holds of every effect the contracts promise holds of every
step of every run. -/
theorem sound_every_step {s : System L Row ε α} {allowed : Store Row → Store Row → Prop}
    (sound : s.Sound d result) (meets : ∀ label, (code label).Meets d label (result label))
    (still : ∀ store, allowed store store)
    (moves : ∀ label effect before after, d.inv before → d.cond label effect before →
      d.guar label effect before after → allowed before after)
    (admitted : s.Admits code d.cond actions) : s.EveryStep code allowed actions := by
  induction actions generalizing s with
  | nil => trivial
  | cons action rest ih =>
    intro next stepped
    obtain ⟨sound', _, changed⟩ := sound_act sound meets (fun label effect made => admitted.1 (label, effect) made) stepped
    refine ⟨?_, ih sound' (admitted.2 next stepped)⟩
    rcases changed with same | ⟨label, effect, made, promised⟩
    · rw [same]
      exact still _
    · exact moves label effect _ _ sound.inv (admitted.1 (label, effect) made) promised

end System

end Transactions
