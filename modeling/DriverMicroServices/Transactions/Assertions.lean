import DriverMicroServices.Transactions.Footprint

/-! Assertions between the steps of a call. Outside a transaction a call knows
of the shared rows only that they come after a store it has seen, so that store
is the precondition: `Ensures d label seen program post` starts the program on
any later store, and `post` holds of its result and of some store committed by
its end. What the program learned before stays known as far as the rely of the
discipline keeps it. -/
namespace Transactions

variable {K L : Type} {Row : K → Type} {ε ε' α β : Type} [DecidableEq K]

namespace Program

variable {d : Discipline L Row} {label : L}

/-- What a call knows to be committed only grows. -/
theorem wp_growth {post : Post Row ε α} (program : Program Row ε α)
    (holds : program.wp d label post past st buf) :
    program.wp d label (fun result past' st buf => d.rely past past' ∧ post result past' st buf)
      past st buf := by
  have extend {first second : Store Row} (growth : d.rely first second) :
      ∀ (result : Except ε α) past' st buf, (d.rely second past' ∧ post result past' st buf) →
        d.rely first past' ∧ post result past' st buf :=
    fun _ _ _ _ held => ⟨d.trans growth held.1, held.2⟩
  induction program generalizing past st buf with
  | ret result => exact ⟨d.refl _, holds⟩
  | observe next ih =>
    exact fun now kept before after => wp_mono (extend before) _ (ih now (holds now kept before after))
  | lock k next ih =>
    exact fun now kept before after same =>
      wp_mono (extend before) _ (ih _ (holds now kept before after same))
  | write k v next ih => exact ih holds
  | autosave k f next ih =>
    intro now kept before admitted
    obtain ⟨promised, rest⟩ := holds now kept before admitted
    have growth := d.trans before (d.keeps kept admitted promised).2
    exact ⟨promised, fun after => wp_mono (extend growth) _ (ih _ (rest after))⟩
  | commit next ih =>
    intro kept before admitted
    obtain ⟨promised, rest⟩ := holds kept before admitted
    have growth := d.trans before (d.keeps kept admitted promised).2
    exact ⟨promised, fun later after => wp_mono (extend growth) _ (ih (rest later after))⟩
  | rollback next ih => exact fun later after => ih (holds later after)
  | log line next ih =>
    exact fun now kept before after admitted =>
      wp_mono (extend before) _ (ih (holds now kept before after admitted))

/-- A call between transactions: from every store after `seen` it meets the
discipline and ends between transactions, and when it returns, `post` holds. -/
def Ensures (d : Discipline L Row) (label : L) (seen : Store Row) (post : α → Store Row → Prop)
    (program : Program Row ε α) : Prop :=
  ∀ past st, d.rely seen past →
    program.wp d label (fun result past _ buf =>
      buf = [] ∧ ∀ value, result = .ok value → post value past) past st []

variable {seen : Store Row} {post : α → Store Row → Prop}

theorem ensures_return {value : α} (holds : ∀ later, d.rely seen later → post value later) :
    (.ret (.ok value) : Program Row ε α).Ensures d label seen post := by
  rintro past st growth
  refine ⟨rfl, fun _ same => ?_⟩
  cases same
  exact holds past growth

theorem ensures_throw {error : ε} : (.ret (.error error) : Program Row ε α).Ensures d label seen post :=
  fun _ _ _ => ⟨rfl, fun _ same => by cases same⟩

/-- A program and what follows its end: it starts from a store after `seen`, and
from one where the first part's assertion held if that returned. -/
theorem ensures_onRet {post : β → Store Row → Prop} {middle : α → Store Row → Prop}
    {program : Program Row ε α} {f : Except ε α → Program Row ε' β}
    (first : program.Ensures d label seen middle)
    (rest : ∀ result later, d.rely seen later → (∀ value, result = .ok value → middle value later) →
      (f result).Ensures d label later post) :
    (program.onRet f).Ensures d label seen post := by
  intro past st growth
  rw [wp_onRet]
  refine wp_mono ?_ _ (wp_growth _ (first past st growth))
  rintro result later st' buf ⟨grown, rfl, held⟩
  exact rest result later (d.trans growth grown) held later st' (d.refl _)

/-- A call in sequence with another. -/
theorem ensures_bind {post : β → Store Row → Prop} {middle : α → Store Row → Prop}
    {program : Program Row ε α} {f : α → Program Row ε β}
    (first : program.Ensures d label seen middle)
    (rest : ∀ value later, d.rely seen later → middle value later →
      (f value).Ensures d label later post) :
    (program.bind f).Ensures d label seen post := by
  refine ensures_onRet first fun result later growth held => ?_
  cases result with
  | ok value => exact rest value later growth (held value rfl)
  | error error => exact ensures_throw

/-- `try ... catch`: the handler knows what was known before the body. -/
theorem ensures_tryCatch {program : Program Row ε α} {handler : ε → Program Row ε α}
    (body : program.Ensures d label seen post)
    (stable : ∀ value first second, d.rely first second → post value first → post value second)
    (caught : ∀ error later, d.rely seen later → (handler error).Ensures d label later post) :
    (tryCatch program handler).Ensures d label seen post := by
  refine ensures_onRet body fun result later growth held => ?_
  cases result with
  | ok value => exact ensures_return fun last grown => stable value _ _ grown (held value rfl)
  | error error => exact caught error later growth

/-- A read without a lock: the call goes on from the store it has read. -/
theorem ensures_observe {next : Store Row → Program Row ε α}
    (holds : ∀ now, d.inv now → d.rely seen now → (next now).Ensures d label now post) :
    (Program.observe next).Ensures d label seen post :=
  fun _ st growth now kept before _ => holds now kept (d.trans growth before) now st (d.refl _)

/-- A log line is written when the discipline admits it. -/
theorem ensures_log {next : Program Row ε α}
    (holds : ∀ now, d.inv now → d.rely seen now → d.cond label (.log line) now →
      next.Ensures d label now post) :
    (Program.log line next).Ensures d label seen post :=
  fun _ st growth now kept before _ admitted =>
    holds now kept (d.trans growth before) admitted now st (d.refl _)

/-- A statement of its own keeps its guarantee and goes on from what it left. -/
theorem ensures_autosave {next : Option (Row k) → Program Row ε α}
    (holds : ∀ now, d.inv now → d.rely seen now → d.cond label (.autosave k) now →
      d.guar label (.autosave k) now (now.autosave k f) ∧
        (next (now.row k)).Ensures d label (now.autosave k f) post) :
    (Program.autosave k f next).Ensures d label seen post := by
  intro past st growth now kept before admitted
  obtain ⟨promised, rest⟩ := holds now kept (d.trans growth before) admitted
  exact ⟨promised, fun _ => rest _ st (d.refl _)⟩

/-- A transaction: its body is followed to the commit, which keeps the guarantee
of the discipline. -/
theorem ensures_transaction {body : Program Row ε α}
    (holds : ∀ past st, d.rely seen past →
      body.wp d label (fun result past st buf => ∀ value, result = .ok value → d.inv st →
        d.rely past st → d.cond label .commit st →
          d.guar label .commit st (st.apply buf) ∧ post value (st.apply buf)) past st []) :
    body.transaction.Ensures d label seen post := by
  intro past st growth
  rw [transaction, wp_onRet]
  refine wp_mono ?_ _ (holds past st growth)
  intro result past st buf held
  cases result with
  | ok value =>
    intro kept before admitted
    obtain ⟨promised, ended⟩ := held value rfl kept before admitted
    exact ⟨promised, fun _ _ => ⟨rfl, fun _ same => by cases same; exact ended⟩⟩
  | error error => exact fun _ _ => ⟨rfl, fun _ same => by cases same⟩

/-- A piece that only reads ends where it began. -/
theorem ensures_reads {program : Program Row ε α} (reads : program.Within fun _ => False) :
    program.Ensures d label seen fun _ _ => True := by
  intro past st _
  refine wp_within program reads (fun _ _ _ never => never.elim) ?_
  intro result later writes none _
  have empty : writes = [] := List.eq_nil_iff_forall_not_mem.mpr none
  exact ⟨by simp [empty], fun _ _ => trivial⟩

/-- A program that ensures its result, from whatever store it starts, meets its
contract. -/
theorem ensures_meets {post : α → Store Row → Prop} {program : Program Row ε α}
    (stable : ∀ value first second, d.rely first second → post value first → post value second)
    (holds : ∀ seen, program.Ensures d label seen post) :
    program.Meets d label fun result store => ∀ value, result = .ok value → post value store := by
  intro past st _
  refine wp_mono ?_ _ (holds past past st (d.refl _))
  rintro result later _ buf ⟨_, held⟩ now _ growth value same
  exact stable value _ _ growth (held value same)

end Program

end Transactions
