import DriverMicroServices.Transactions.Footprint

/-! Calls that own rows. A lock is given back at the commit, but a row that a call
has inserted may stay its own for longer, by agreement: no other call writes it.
A protocol names the phases of a call, what it knows of the rows in each, and how
its stores and its log lines move it on. `Obeys` follows one program through the
phases; `Kept` says that every call of a system obeys, whatever the order of
their steps. -/
namespace Transactions

variable {K L G : Type} {Row : K → Type} {ε ε' α β : Type}

/-- The rows that a single-row statement writes. -/
def Store.saved (s : Store Row) (k : K) (f : Option (Row k) → Option (Row k)) :
    List (Write Row) :=
  (f (s.row k)).toList.map fun v => ⟨k, v⟩

/-- The rows that the next step of a call writes for everyone. -/
def Thread.writes (thread : Thread L Row ε α) (store : Store Row) : List (Write Row) :=
  match thread.program with
  | .autosave k f _ => store.saved k f
  | .commit _ => thread.buf
  | _ => []

/-- Every log line of the call is one of these. -/
def Program.Logs (lines : String → Prop) : Program Row ε α → Prop
  | .ret _ => True
  | .observe next => ∀ seen, (next seen).Logs lines
  | .lock _ next => ∀ row, (next row).Logs lines
  | .write _ _ next => next.Logs lines
  | .autosave _ _ next => ∀ row, (next row).Logs lines
  | .commit next => next.Logs lines
  | .rollback next => next.Logs lines
  | .log line next => lines line ∧ next.Logs lines

theorem Program.logs_onRet {lines : String → Prop} {program : Program Row ε α}
    {f : Except ε α → Program Row ε' β} (first : program.Logs lines)
    (rest : ∀ result, (f result).Logs lines) : (program.onRet f).Logs lines := by
  induction program with
  | ret result => exact rest result
  | observe next ih => exact fun seen => ih seen (first seen)
  | lock k next ih => exact fun row => ih row (first row)
  | write k v next ih => exact ih first
  | autosave k g next ih => exact fun row => ih row (first row)
  | commit next ih => exact ih first
  | rollback next ih => exact ih first
  | log line next ih => exact ⟨first.1, ih first.2⟩

theorem Program.logs_bind {lines : String → Prop} {program : Program Row ε α}
    {f : α → Program Row ε β} (first : program.Logs lines)
    (rest : ∀ value, (f value).Logs lines) : (program.bind f).Logs lines := by
  apply logs_onRet first
  intro result
  cases result with
  | ok value => exact rest value
  | error error => trivial

variable [DecidableEq K]

/-- The phases of a call. A store and a log line are steps from one phase to the
next; two calls may be in progress together when their phases are apart. -/
structure Protocol (G : Type) {K : Type} [DecidableEq K] (Row : K → Type) where
  outset : G
  knows : G → Store Row → Prop
  apart : G → G → Prop
  /-- The stores that the environment lets happen. -/
  admits : G → Store Row → List (Write Row) → Prop
  stores : G → Store Row → Store Row → G → Prop
  logs : G → String → G → Prop
  symm : apart g h → apart h g
  knows_outset : knows outset s
  apart_outset : apart outset h
  own_store : knows g before → stores g before after g' → knows g' after
  other_store : apart g h → knows g before → knows h before → stores g before after g' →
    knows h after ∧ apart g' h
  own_line : logs g line g' → knows g s → knows g' s
  other_line : logs g line g' → apart g h → apart g' h

/-- One step of a call: its effect, the rows before and after, the phase after. -/
def Protocol.Moves (P : Protocol G Row) (g : G) (before after : Store Row) (g' : G) :
    Option (Effect K) → Prop
  | none => after = before ∧ g' = g
  | some (.log line) => after = before ∧ P.logs g line g'
  | some _ => P.stores g before after g'

namespace Program

variable {P : Protocol G Row}

/-- What holds at the end of a program: of its result, the phase, the store of the
next commit as far as the locked rows pin it, and the writes not committed. -/
abbrev Exit (G : Type) {K : Type} (Row : K → Type) (ε α : Type) :=
  Except ε α → G → (Store Row → Prop) → List (Write Row) → Prop

/-- The program moves as the protocol allows, and `post` holds when it ends. Of
the store of the next commit, the locked rows say that it is `pinned`. -/
def Obeys (P : Protocol G Row) (post : Exit G Row ε α) :
    Program Row ε α → G → (Store Row → Prop) → List (Write Row) → Prop
  | .ret result, g, pinned, buf => post result g pinned buf
  | .observe next, g, pinned, buf => ∀ now, P.knows g now → (next now).Obeys P post g pinned buf
  | .lock k next, g, pinned, buf => ∀ now, pinned now →
      (next ((now.apply buf).row k)).Obeys P post g (fun st => pinned st ∧ st.row k = now.row k) buf
  | .write k v next, g, pinned, buf => next.Obeys P post g pinned (buf ++ [⟨k, v⟩])
  | .autosave k f next, g, pinned, buf =>
    ∀ now, P.knows g now → P.admits g now (now.saved k f) →
      ∃ g', P.stores g now (now.autosave k f) g' ∧ (next (now.row k)).Obeys P post g' pinned buf
  | .commit next, g, pinned, buf => ∀ st, pinned st → P.knows g st → P.admits g st buf →
      ∃ g', P.stores g st (st.apply buf) g' ∧ next.Obeys P post g' (fun _ => True) []
  | .rollback next, g, _, _ => next.Obeys P post g (fun _ => True) []
  | .log line next, g, pinned, buf => ∃ g', P.logs g line g' ∧ next.Obeys P post g' pinned buf

variable {pinned : Store Row → Prop}

theorem obeys_mono {first second : Exit G Row ε α}
    (implies : ∀ result g pinned buf, first result g pinned buf → second result g pinned buf)
    {program : Program Row ε α} (holds : program.Obeys P first g pinned buf) :
    program.Obeys P second g pinned buf := by
  induction program generalizing g pinned buf with
  | ret result => exact implies _ _ _ _ holds
  | observe next ih => exact fun now known => ih now (holds now known)
  | lock k next ih => exact fun now same => ih _ (holds now same)
  | write k v next ih => exact ih holds
  | autosave k f next ih =>
    intro now known admitted
    obtain ⟨g', stored, rest⟩ := holds now known admitted
    exact ⟨g', stored, ih _ rest⟩
  | commit next ih =>
    intro st same known admitted
    obtain ⟨g', stored, rest⟩ := holds st same known admitted
    exact ⟨g', stored, ih rest⟩
  | rollback next ih => exact ih holds
  | log line next ih =>
    obtain ⟨g', logged, rest⟩ := holds
    exact ⟨g', logged, ih rest⟩

/-- A program and what follows its end. -/
theorem obeys_onRet {post : Exit G Row ε' β} {program : Program Row ε α}
    {f : Except ε α → Program Row ε' β}
    (holds : program.Obeys P (fun result => (f result).Obeys P post) g pinned buf) :
    (program.onRet f).Obeys P post g pinned buf := by
  induction program generalizing g pinned buf with
  | ret result => exact holds
  | observe next ih => exact fun now known => ih now (holds now known)
  | lock k next ih => exact fun now same => ih _ (holds now same)
  | write k v next ih => exact ih holds
  | autosave k f next ih =>
    intro now known admitted
    obtain ⟨g', stored, rest⟩ := holds now known admitted
    exact ⟨g', stored, ih _ rest⟩
  | commit next ih =>
    intro st same known admitted
    obtain ⟨g', stored, rest⟩ := holds st same known admitted
    exact ⟨g', stored, ih rest⟩
  | rollback next ih => exact ih holds
  | log line next ih =>
    obtain ⟨g', logged, rest⟩ := holds
    exact ⟨g', logged, ih rest⟩

/-- A sequence, with an assertion between its parts. -/
theorem obeys_bind {post : Exit G Row ε β} {middle : Exit G Row ε α} {program : Program Row ε α}
    {f : α → Program Row ε β} (first : program.Obeys P middle g pinned buf)
    (rest : ∀ value g pinned buf, middle (.ok value) g pinned buf →
      (f value).Obeys P post g pinned buf)
    (thrown : ∀ error g pinned buf, middle (.error error) g pinned buf →
      post (.error error) g pinned buf) :
    (program.bind f).Obeys P post g pinned buf := by
  apply obeys_onRet
  apply obeys_mono _ first
  intro result g pinned buf held
  cases result with
  | ok value => exact rest value g pinned buf held
  | error error => exact thrown error g pinned buf held

/-- `try ... catch`, with an assertion at the end of the body. -/
theorem obeys_tryCatch {post : Exit G Row ε α} (middle : Exit G Row ε α)
    {program : Program Row ε α} {handler : ε → Program Row ε α} (body : program.Obeys P middle g pinned buf)
    (returned : ∀ value g pinned buf, middle (.ok value) g pinned buf →
      post (.ok value) g pinned buf)
    (caught : ∀ error g pinned buf, middle (.error error) g pinned buf →
      (handler error).Obeys P post g pinned buf) :
    (tryCatch program handler).Obeys P post g pinned buf := by
  apply obeys_onRet
  apply obeys_mono _ body
  intro result g pinned buf held
  cases result with
  | ok value => exact returned value g pinned buf held
  | error error => exact caught error g pinned buf held

/-- A transaction: what its body leaves is stored at the commit, and given up when
the body throws. -/
theorem obeys_transaction {post : Exit G Row ε α} {body : Program Row ε α}
    (holds : body.Obeys P (fun result g pinned buf =>
      match result with
      | .ok value => ∀ st, pinned st → P.knows g st → P.admits g st buf →
        ∃ g', P.stores g st (st.apply buf) g' ∧ post (.ok value) g' (fun _ => True) []
      | .error error => post (.error error) g (fun _ => True) []) g pinned buf) :
    body.transaction.Obeys P post g pinned buf := by
  apply obeys_onRet
  apply obeys_mono _ holds
  intro result g pinned buf held
  cases result with
  | ok value => exact held
  | error error => exact held

variable {allowed : K → Prop}

/-- A piece that touches allowed rows only, and logs silent lines only, stays in
its phase, where stores of those rows and those lines may be made in it. -/
theorem obeys_touches {post : Exit G Row ε α} {silent : String → Prop}
    {program : Program Row ε α} (touches : program.Touches allowed) (logs : program.Logs silent)
    (stores : ∀ before after : Store Row, (∀ k, ¬ allowed k → after.row k = before.row k) →
      P.stores g before after g)
    (lines : ∀ line, silent line → P.logs g line g)
    (ends : ∀ result pinned buf, (∀ write ∈ buf, allowed write.1) → post result g pinned buf)
    (start : ∀ write ∈ buf, allowed write.1) : program.Obeys P post g pinned buf := by
  induction program generalizing pinned buf with
  | ret result => exact ends result pinned buf start
  | observe next ih => exact fun now _ => ih now (touches now) (logs now) start
  | lock k next ih => exact fun now _ => ih _ (touches _) (logs _) start
  | write k v next ih =>
    apply ih touches.2 logs
    intro write member
    rcases List.mem_append.mp member with member | member
    · exact start write member
    · rw [List.mem_singleton.mp member]
      exact touches.1
  | autosave k f next ih =>
    intro now _ _
    have others : ∀ k', ¬ allowed k' → (now.autosave k f).row k' = now.row k' :=
      fun k' outside => Store.autosave_row_ne now f fun same => outside (same ▸ touches.1)
    exact ⟨g, stores now _ others, ih _ (touches.2 _) (logs _) start⟩
  | commit next ih =>
    intro st _ _ _
    have others : ∀ k', ¬ allowed k' → (st.apply buf).row k' = st.row k' :=
      fun k' outside => Store.apply_row_untouched st buf fun write member same =>
        outside (same ▸ start write member)
    exact ⟨g, stores st _ others, ih touches logs (by simp)⟩
  | rollback next ih => exact ih touches logs (by simp)
  | log line next ih => exact ⟨g, lines line logs.1, ih touches logs.2 start⟩

end Program

/-! ## Many calls -/

namespace System

/-- The rest of a call obeys, with no more pinned than its locked rows. -/
def Ruled (P : Protocol G Row) (s : System L Row ε α) (t : Nat) (thread : Thread L Row ε α)
    (g : G) : Prop :=
  ∃ pinned : Store Row → Prop,
    (∀ st, (∀ k, s.owner k = some t → st.row k = s.store.row k) → pinned st) ∧
      thread.program.Obeys P (fun _ _ _ _ => True) g pinned thread.buf

/-- Every call obeys the protocol from the phase it is in. -/
structure Kept (P : Protocol G Row) (s : System L Row ε α) (phase : Nat → G) : Prop where
  owned : ∀ t thread, s.threads t = some thread → ∀ write ∈ thread.buf, s.owner write.1 = some t
  knows : ∀ t, P.knows (phase t) s.store
  apart : ∀ t t', t ≠ t' → P.apart (phase t) (phase t')
  absent : ∀ t, s.threads t = none → phase t = P.outset
  ruled : ∀ t thread, s.threads t = some thread → s.Ruled P t thread (phase t)

variable {P : Protocol G Row} {phase : Nat → G}

theorem kept_initial (store : Store Row) :
    Kept P ({ store } : System L Row ε α) fun _ => P.outset where
  owned := fun _ _ found => by cases found
  knows := fun _ => P.knows_outset
  apart := fun _ _ _ => P.apart_outset
  absent := fun _ _ => rfl
  ruled := fun _ _ found => by cases found

/-- Another call stays ruled by a step that keeps its locks and the rows under
them. -/
theorem ruled_other {s s' : System L Row ε α} {thread : Thread L Row ε α}
    (ruled : s.Ruled P t thread g)
    (locks : ∀ k, s.owner k = some t → s'.owner k = some t ∧ s'.store.row k = s.store.row k) :
    s'.Ruled P t thread g := by
  obtain ⟨pinned, pins, obeys⟩ := ruled
  refine ⟨pinned, fun st same => pins st fun k held => ?_, obeys⟩
  obtain ⟨held', row⟩ := locks k held
  exact (same k held').trans row

/-- What a step of a call does, and the rest of the program obeys after it. -/
theorem ruled_advance {s s' : System L Row ε α} {thread thread' : Thread L Row ε α}
    (knows : P.knows g s.store) (ruled : s.Ruled P t thread g)
    (admitted : P.admits g s.store (thread.writes s.store))
    (ran : s.advance t thread = some s') (found : s'.threads t = some thread') :
    ∃ g', P.Moves g s.store s'.store g' thread.program.effect? ∧ s'.Ruled P t thread' g' := by
  obtain ⟨pinned, pins, obeys⟩ := ruled
  have here : pinned s.store := pins s.store fun _ _ => rfl
  obtain ⟨base, took, rfl⟩ := advances_found ran found
  cases took with
  | observe => exact ⟨g, ⟨rfl, rfl⟩, pinned, pins, obeys _ knows⟩
  | @lock k =>
    refine ⟨g, ⟨rfl, rfl⟩, _, fun st same => ⟨pins st fun k' held => ?_, ?_⟩, obeys _ here⟩
    · apply same k'
      by_cases locked : k' = k
      · simp [locked]
      · simpa [locked] using held
    · exact same k (by simp)
  | write => exact ⟨g, ⟨rfl, rfl⟩, pinned, pins, obeys⟩
  | @autosave k _ _ _ _ free =>
    obtain ⟨g', stored, rest⟩ := obeys _ knows admitted
    refine ⟨g', stored, pinned, fun st same => pins st fun k' held => ?_, rest⟩
    have other : k' ≠ k := by
      rintro rfl
      simp [free] at held
    exact (same k' held).trans (Store.autosave_row_ne _ _ other)
  | commit =>
    obtain ⟨g', stored, rest⟩ := obeys _ here knows admitted
    exact ⟨g', stored, _, fun _ _ => trivial, rest⟩
  | rollback => exact ⟨g, ⟨rfl, rfl⟩, _, fun _ _ => trivial, obeys⟩
  | log =>
    obtain ⟨g', logged, rest⟩ := obeys
    exact ⟨g', ⟨rfl, logged⟩, pinned, pins, rest⟩

/-- A move of one call, as the others know it. -/
theorem moves_spare {g g' h : G} {before after : Store Row} {effect : Option (Effect K)}
    (moved : P.Moves g before after g' effect) (apart : P.apart g h) (own : P.knows g before)
    (other : P.knows h before) : P.knows g' after ∧ P.knows h after ∧ P.apart g' h := by
  match effect with
  | none =>
    obtain ⟨rfl, rfl⟩ := moved
    exact ⟨own, other, apart⟩
  | some (.log line) =>
    obtain ⟨rfl, logged⟩ := moved
    exact ⟨P.own_line logged own, other, P.other_line logged apart⟩
  | some (.autosave _) | some .commit =>
    exact ⟨P.own_store own moved, P.other_store apart own other moved⟩

/-- What one scheduling choice does to a call: nothing but begin it or end it, or
one move of the protocol. -/
def Choice (P : Protocol G Row) (s : System L Row ε α) (after : Store Row) (g g' : G) :
    Action L → Prop
  | .step t => ∃ thread, s.threads t = some thread ∧
      P.Moves g s.store after g' thread.program.effect?
  | _ => after = s.store ∧ g' = P.outset

/-- The condition of a scheduling choice: what its step stores is admitted. -/
def Allows (P : Protocol G Row) (phase : Nat → G) (s : System L Row ε α) : Action L → Prop
  | .step t => ∀ thread, s.threads t = some thread →
      P.admits (phase t) s.store (thread.writes s.store)
  | _ => True

/-- A step of one call: what must be shown of that call, and of the rows that the
others know. -/
private theorem kept_update {s s' : System L Row ε α} (kept : s.Kept P phase)
    (threads : ∀ t', t' ≠ t → s'.threads t' = s.threads t')
    (locks : ∀ t' k, t' ≠ t → s.owner k = some t' →
      s'.owner k = some t' ∧ s'.store.row k = s.store.row k)
    (spares : ∀ h, P.apart (phase t) h → P.knows h s.store →
      P.knows h s'.store ∧ P.apart g' h)
    (knows : P.knows g' s'.store) (absent : s'.threads t = none → g' = P.outset)
    (own : ∀ thread, s'.threads t = some thread →
      (∀ write ∈ thread.buf, s'.owner write.1 = some t) ∧ s'.Ruled P t thread g') :
    s'.Kept P (Function.update phase t g') := by
  have spared := fun t' (other : t' ≠ t) =>
    spares (phase t') (kept.apart t t' other.symm) (kept.knows t')
  constructor
  · intro t' thread found
    by_cases same : t' = t
    · subst same
      exact (own thread found).1
    · rw [threads t' same] at found
      exact fun write member => (locks t' _ same (kept.owned t' thread found write member)).1
  · intro t'
    by_cases same : t' = t
    · subst same
      rwa [Function.update_self]
    · rw [Function.update_of_ne same]
      exact (spared t' same).1
  · intro first second different
    by_cases one : first = t
    · subst one
      rw [Function.update_self, Function.update_of_ne different.symm]
      exact (spared second different.symm).2
    · rw [Function.update_of_ne one]
      by_cases two : second = t
      · subst two
        rw [Function.update_self]
        exact P.symm (spared first one).2
      · rw [Function.update_of_ne two]
        exact kept.apart first second different
  · intro t' none
    by_cases same : t' = t
    · subst same
      rw [Function.update_self]
      exact absent none
    · rw [threads t' same] at none
      rw [Function.update_of_ne same]
      exact kept.absent t' none
  · intro t' thread found
    by_cases same : t' = t
    · subst same
      rw [Function.update_self]
      exact (own thread found).2
    · rw [threads t' same] at found
      rw [Function.update_of_ne same]
      exact ruled_other (kept.ruled t' thread found) (locks t' · same)

variable {code : L → Program Row ε α}

/-- One scheduling choice keeps every call obeying, and moves one of them. -/
theorem kept_act {s s' : System L Row ε α} (kept : s.Kept P phase)
    (obeys : ∀ label, (code label).Obeys P (fun _ _ _ _ => True) P.outset (fun _ => True) [])
    (allowed : s.Allows P phase action) (ran : s.act code action = some s') :
    ∃ g', s'.Kept P (Function.update phase action.thread g') ∧
      s.Choice P s'.store (phase action.thread) g' action := by
  cases action with
  | start t label =>
    simp only [act] at ran
    split at ran
    · rename_i free
      cases ran
      have outset := kept.absent t free
      refine ⟨P.outset, kept_update kept ?_ ?_ ?_ P.knows_outset (fun _ => rfl) ?_, rfl, rfl⟩
      · exact fun t' different => Function.update_of_ne different ..
      · exact fun _ _ _ held => ⟨held, rfl⟩
      · exact fun h apart known => ⟨known, outset ▸ apart⟩
      · intro thread found
        simp only [Action.thread, put_threads, Function.update_self, Option.some.injEq] at found
        subst found
        exact ⟨by simp, _, fun _ _ => trivial, obeys label⟩
    · cases ran
  | step t =>
    obtain ⟨thread, found, ran⟩ := Option.bind_eq_some_iff.mp ran
    have own := kept.owned t thread found
    obtain ⟨thread', found'⟩ := advance_present ran
    obtain ⟨g', moved, ruled⟩ := ruled_advance (kept.knows t) (kept.ruled t thread found)
      (allowed thread found) ran found'
    have spares := fun h (apart : P.apart (phase t) h) (known : P.knows h s.store) =>
      moves_spare moved apart (kept.knows t) known
    have knows : P.knows g' s'.store :=
      (spares P.outset (P.symm P.apart_outset) P.knows_outset).1
    refine ⟨g', kept_update kept ?_ ?_ ?_ knows ?_ ?_, thread, found, moved⟩
    · exact fun t' different => advance_threads ran different
    · exact fun t' k different held => advance_locks own ran different held
    · exact fun h apart known => (spares h apart known).2
    · intro none
      rw [Action.thread, found'] at none
      cases none
    · intro thread'' found''
      rw [Action.thread, found'] at found''
      cases found''
      exact ⟨advance_owned own ran found', ruled⟩
  | abort t =>
    obtain ⟨thread, found, rfl⟩ := Option.map_eq_some_iff.mp ran
    refine ⟨P.outset, kept_update kept ?_ ?_ ?_ P.knows_outset (fun _ => rfl) ?_, rfl, rfl⟩
    · exact fun t' different => Function.update_of_ne different ..
    · exact fun t' k different held => ⟨(unlock_owner_iff s different).mpr held, rfl⟩
    · exact fun h _ known => ⟨known, P.apart_outset⟩
    · intro thread' alive
      simp [Action.thread] at alive

end System

end Transactions
