import DriverMicroServices.Transactions.Footprint

/-! Calls one after another, each with the database to itself. `Returns` is the
total-correctness condition of such a call: it comes to its end, and its result
and the database it leaves satisfy the postcondition. -/
namespace Transactions

variable {K L : Type} {Row : K → Type} {ε ε' α β : Type} [DecidableEq K]

/-- The rows as the open transaction sees them. -/
def Program.Session.seen (session : Program.Session Row) : Store Row :=
  session.store.apply session.buf

namespace Program

/-- The call ends, and `post` holds of its result and the session it leaves. -/
def Returns (post : Except ε α → Session Row → Prop) : Program Row ε α → Session Row → Prop
  | .ret result, session => post result session
  | .observe next, session => (next session.store).Returns post session
  | .lock k next, session =>
    (next (session.view k)).Returns post { session with held := k :: session.held }
  | .write k v next, session =>
    k ∈ session.held ∧ next.Returns post { session with buf := session.buf ++ [⟨k, v⟩] }
  | .autosave k f next, session =>
    k ∉ session.held ∧
      (next (session.store.row k)).Returns post { session with store := session.store.autosave k f }
  | .commit next, session => next.Returns post { store := session.seen }
  | .rollback next, session => next.Returns post { store := session.store }
  | .log _ next, session => next.Returns post session

variable {session : Session Row}

/-- The condition is about the run itself. -/
theorem returns_iff {post : Except ε α → Session Row → Prop} (program : Program Row ε α) :
    program.Returns post session ↔
      ∃ result left, program.exec session = some (result, left) ∧ post result left := by
  induction program generalizing session with
  | ret result =>
    constructor
    · exact fun holds => ⟨result, session, rfl, holds⟩
    · rintro ⟨_, _, ran, holds⟩
      cases ran
      exact holds
  | observe next ih => exact ih _
  | lock k next ih => exact ih _
  | write k v next ih =>
    simp only [Returns, exec]
    split
    · rename_i held
      simpa [held] using ih
    · rename_i free
      simp [free]
  | autosave k f next ih =>
    simp only [Returns, exec]
    split
    · rename_i held
      simp [held]
    · rename_i free
      simpa [free] using ih _
  | commit next ih => exact ih
  | rollback next ih => exact ih
  | log line next ih => exact ih

theorem returns_mono {first second : Except ε α → Session Row → Prop} {program : Program Row ε α}
    (holds : program.Returns first session)
    (implies : ∀ result left, first result left → second result left) :
    program.Returns second session := by
  obtain ⟨result, left, ran, held⟩ := (returns_iff program).mp holds
  exact (returns_iff program).mpr ⟨result, left, ran, implies _ _ held⟩

/-- Two conditions of one run. -/
theorem returns_and {first second : Except ε α → Session Row → Prop} {program : Program Row ε α}
    (holds : program.Returns first session) (also : program.Returns second session) :
    program.Returns (fun result left => first result left ∧ second result left) session := by
  obtain ⟨result, left, ran, held⟩ := (returns_iff program).mp holds
  obtain ⟨result', left', ran', held'⟩ := (returns_iff program).mp also
  obtain ⟨rfl, rfl⟩ := Prod.mk.inj (Option.some.inj (ran.symm.trans ran'))
  exact (returns_iff program).mpr ⟨result, left, ran, held, held'⟩

theorem returns_onRet {post : Except ε' β → Session Row → Prop} (program : Program Row ε α)
    (f : Except ε α → Program Row ε' β) :
    (program.onRet f).Returns post session ↔
      program.Returns (fun result left => (f result).Returns post left) session := by
  induction program generalizing session with
  | ret result => rfl
  | observe next ih => exact ih _
  | lock k next ih => exact ih _
  | write k v next ih => exact and_congr_right fun _ => ih
  | autosave k g next ih => exact and_congr_right fun _ => ih _
  | commit next ih => exact ih
  | rollback next ih => exact ih
  | log line next ih => exact ih

/-- A call in sequence with another: the second runs where the first returned. -/
theorem returns_bind {post : Except ε β → Session Row → Prop} {program : Program Row ε α}
    {f : α → Program Row ε β}
    (first : program.Returns (fun result left =>
      match result with
      | .ok value => (f value).Returns post left
      | .error error => post (.error error) left) session) :
    (program.bind f).Returns post session := by
  rw [bind, returns_onRet]
  refine returns_mono first fun result left held => ?_
  cases result <;> exact held

/-- A loop keeps what its body keeps. -/
theorem returns_forEach {post : Except ε Unit → Session Row → Prop} (kept : Session Row → Prop)
    (items : List β) (body : β → Program Row ε Unit)
    (step : ∀ item ∈ items, ∀ session, kept session →
      (body item).Returns (fun result left =>
        match result with
        | .ok _ => kept left
        | .error error => post (.error error) left) session)
    (done : ∀ left, kept left → post (.ok ()) left) (start : kept session) :
    (forEach items body).Returns post session := by
  induction items generalizing session with
  | nil => exact done session start
  | cons item rest ih =>
    refine returns_bind (returns_mono (step item (by simp) session start) fun result left held => ?_)
    cases result with
    | error error => exact held
    | ok value => exact ih (fun later member => step later (by simp [member])) held

/-- A transaction leaves what its body saw when the body returns, and what its
single-row statements stored when it throws. -/
theorem returns_transaction {post : Except ε α → Session Row → Prop} {body : Program Row ε α}
    (holds : body.Returns (fun result left =>
      match result with
      | .ok value => post (.ok value) { store := left.seen }
      | .error error => post (.error error) { store := left.store }) session) :
    body.transaction.Returns post session := by
  rw [transaction, returns_onRet]
  refine returns_mono holds fun result left held => ?_
  cases result <;> exact held

/-- A piece within its footprint leaves the other rows. -/
theorem returns_within {allowed : K → Prop} {post : Except ε α → Session Row → Prop}
    {program : Program Row ε α} (within : program.Within allowed)
    (holds : program.Returns post session) :
    program.Returns (fun result left => post result left ∧ ∀ k, ¬ allowed k →
      left.store.row k = session.store.row k ∧ left.seen.row k = session.seen.row k) session := by
  obtain ⟨result, left, ran, held⟩ := (returns_iff program).mp holds
  exact (returns_iff program).mpr ⟨result, left, ran, held, fun k => exec_within within ran⟩

/-- A call leaves the rows that it does not touch. -/
theorem returns_touches {allowed : K → Prop} {post : Except ε α → Session Row → Prop}
    {program : Program Row ε α} {store : Store Row} (touches : program.Touches allowed)
    (holds : program.Returns post { store }) :
    program.Returns (fun result left => post result left ∧
      ∀ k, ¬ allowed k → left.store.row k = store.row k) { store } := by
  obtain ⟨result, left, ran, held⟩ := (returns_iff program).mp holds
  refine (returns_iff program).mpr ⟨result, left, ran, held, fun k outside => ?_⟩
  exact exec_touches touches ran (by simp) outside

end Program

/-! ## Histories -/

/-- One call of a history: the rows before it, its answer and the rows after. -/
structure Turn (L : Type) {K : Type} (Row : K → Type) (ε α : Type) where
  before : Store Row
  label : L
  answer : Except ε α
  after : Store Row

/-- The calls of a list, each begun when the one before it has ended. -/
def history (code : L → Program Row ε α) (store : Store Row) :
    List L → Option (List (Turn L Row ε α))
  | [] => some []
  | label :: rest => do
    let (answer, after) ← (code label).call store
    let later ← history code after rest
    return { before := store, label, answer, after } :: later

variable {code : L → Program Row ε α}

theorem history_cons {store : Store Row} {turns : List (Turn L Row ε α)} :
    history code store (label :: rest) = some turns ↔
      ∃ answer after later, (code label).call store = some (answer, after) ∧
        history code after rest = some later ∧
        turns = { before := store, label, answer, after } :: later := by
  simp only [history, bind, Option.bind_eq_some_iff, pure, Option.some.injEq]
  constructor
  · rintro ⟨⟨answer, after⟩, called, later, rests, rfl⟩
    exact ⟨answer, after, later, called, rests, rfl⟩
  · rintro ⟨answer, after, later, called, rests, rfl⟩
    exact ⟨(answer, after), called, later, rests, rfl⟩

/-- A history whose turns each satisfy `spec` and begin with the rows the turn
before left. -/
inductive Chain (spec : Turn L Row ε α → Prop) : Store Row → List (Turn L Row ε α) → Prop where
  | nil : Chain spec store []
  | cons (turn : Turn L Row ε α) (held : spec turn) (later : Chain spec turn.after turns) :
      Chain spec turn.before (turn :: turns)

/-- Calls that return from every store have a history from every store, and it
shows what each of them does. -/
theorem history_chain {spec : Turn L Row ε α → Prop}
    (labels : List L) (returns : ∀ label ∈ labels, ∀ store, (code label).Returns
      (fun answer left => spec { before := store, label, answer, after := left.store }) { store })
    (store : Store Row) :
    ∃ turns, history code store labels = some turns ∧ Chain spec store turns ∧
      turns.map Turn.label = labels := by
  induction labels generalizing store with
  | nil => exact ⟨[], rfl, .nil, rfl⟩
  | cons label rest ih =>
    obtain ⟨answer, left, ran, held⟩ :=
      (Program.returns_iff _).mp (returns label (by simp) store)
    obtain ⟨later, rests, chain, listed⟩ :=
      ih (fun later member => returns later (by simp [member])) left.store
    refine ⟨{ before := store, label, answer, after := left.store } :: later, ?_, .cons _ held chain,
      by simp [listed]⟩
    exact history_cons.mpr ⟨answer, left.store, later, by simp [Program.call, ran], rests, rfl⟩

omit [DecidableEq K] in
theorem Chain.forall {spec : Turn L Row ε α → Prop} (chain : Chain spec store turns) :
    ∀ turn ∈ turns, spec turn := by
  induction chain with
  | nil => simp
  | cons turn held later ih => exact List.forall_mem_cons.mpr ⟨held, ih⟩

omit [DecidableEq K] in
theorem Chain.mono {spec spec' : Turn L Row ε α → Prop} (chain : Chain spec store turns)
    (implies : ∀ turn ∈ turns, spec turn → spec' turn) : Chain spec' store turns := by
  induction chain with
  | nil => exact .nil
  | cons turn held later ih =>
    exact .cons turn (implies turn (by simp) held) (ih fun turn member =>
      implies turn (by simp [member]))

omit [DecidableEq K] in
/-- A history that stops earlier. -/
theorem Chain.initial {spec : Turn L Row ε α → Prop} (chain : Chain spec store turns)
    (earlier : done <+: turns) : Chain spec store done := by
  induction chain generalizing done with
  | nil =>
    rw [List.prefix_nil.mp earlier]
    exact .nil
  | cons turn held later ih =>
    rcases List.prefix_cons_iff.mp earlier with rfl | ⟨rest, rfl, shorter⟩
    · exact .nil
    · exact .cons turn held (ih shorter)

end Transactions
