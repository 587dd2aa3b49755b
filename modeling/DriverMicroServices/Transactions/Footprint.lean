import DriverMicroServices.Transactions.Contract

/-! Footprints: the rows a piece of a call may write. A piece that neither
commits nor rolls back leaves every row outside its footprint as it was, both in
a contract and in a run; a call with transactions does so at each effect. -/
namespace Transactions.Program

variable {K L : Type} {Row : K → Type} {ε ε' α β : Type} {allowed : K → Prop}

/-- Every write names an allowed row, and the open transaction stays open. -/
def Within (allowed : K → Prop) : Program Row ε α → Prop
  | .ret _ => True
  | .observe next => ∀ seen, (next seen).Within allowed
  | .lock _ next => ∀ row, (next row).Within allowed
  | .write k _ next => allowed k ∧ next.Within allowed
  | .autosave k _ next => allowed k ∧ ∀ row, (next row).Within allowed
  | .commit _ => False
  | .rollback _ => False
  | .log _ next => next.Within allowed

theorem within_onRet {program : Program Row ε α} {f : Except ε α → Program Row ε' β}
    (first : program.Within allowed) (rest : ∀ result, (f result).Within allowed) :
    (program.onRet f).Within allowed := by
  induction program with
  | ret result => exact rest result
  | observe next ih => exact fun seen => ih seen (first seen)
  | lock k next ih => exact fun row => ih row (first row)
  | write k v next ih => exact ⟨first.1, ih first.2⟩
  | autosave k g next ih => exact ⟨first.1, fun row => ih row (first.2 row)⟩
  | commit next => exact first.elim
  | rollback next => exact first.elim
  | log line next ih => exact ih first

theorem within_bind {program : Program Row ε α} {f : α → Program Row ε β}
    (first : program.Within allowed) (rest : ∀ value, (f value).Within allowed) :
    (program.bind f).Within allowed := by
  refine within_onRet first fun result => ?_
  cases result with
  | ok value => exact rest value
  | error error => trivial

theorem within_mono {inner : K → Prop} {program : Program Row ε α} (within : program.Within inner)
    (sub : ∀ k, inner k → allowed k) : program.Within allowed := by
  induction program with
  | ret result => trivial
  | observe next ih => exact fun seen => ih seen (within seen)
  | lock k next ih => exact fun row => ih row (within row)
  | write k v next ih => exact ⟨sub k within.1, ih within.2⟩
  | autosave k f next ih => exact ⟨sub k within.1, fun row => ih row (within.2 row)⟩
  | commit next => exact within.elim
  | rollback next => exact within.elim
  | log line next ih => exact ih within

theorem within_forEach (items : List β) {body : β → Program Row ε Unit}
    (within : ∀ item, (body item).Within allowed) : (forEach items body).Within allowed := by
  induction items with
  | nil => trivial
  | cons item rest ih => exact within_bind (within item) fun _ => ih

variable [DecidableEq K]

/-- In a contract, a piece within its footprint adds only writes of allowed
rows, provided the label may store those rows at once. -/
theorem wp_within {d : Discipline L Row} {label : L} {post : Post Row ε α}
    (program : Program Row ε α) (within : program.Within allowed)
    (stores : ∀ k f now, allowed k → d.inv now → d.cond label (.autosave k) now →
      d.guar label (.autosave k) now (now.autosave k f))
    (ends : ∀ result past' writes, (∀ write ∈ writes, allowed write.1) → d.rely past past' →
      post result past' st (buf ++ writes)) : program.wp d label post past st buf := by
  induction program generalizing past buf with
  | ret result =>
    have ended := ends result past [] (by simp) (d.refl past)
    rwa [List.append_nil] at ended
  | observe next ih =>
    intro now kept before after
    exact ih now (within now) fun result past' writes named grown =>
      ends result past' writes named (d.trans before grown)
  | lock k next ih =>
    intro now kept before after same
    exact ih _ (within _) fun result past' writes named grown =>
      ends result past' writes named (d.trans before grown)
  | write k v next ih =>
    refine ih within.2 fun result past' writes named grown => ?_
    have ended := ends result past' (⟨k, v⟩ :: writes)
      (List.forall_mem_cons.mpr ⟨within.1, named⟩) grown
    simpa using ended
  | autosave k f next ih =>
    intro now kept before admitted
    have promised := stores k f now within.1 kept admitted
    refine ⟨promised, fun after => ih _ (within.2 _) fun result past' writes named grown => ?_⟩
    have stored := d.trans before (d.keeps kept admitted promised).2
    exact ends result past' writes named (d.trans stored grown)
  | commit next => exact within.elim
  | rollback next => exact within.elim
  | log line next ih =>
    intro now kept before after admitted
    exact ih within fun result past' writes named grown =>
      ends result past' writes named (d.trans before grown)

/-- In a run alone, a piece within its footprint leaves the other rows. -/
theorem exec_within {program : Program Row ε α} (within : program.Within allowed)
    (ran : program.exec session = some (result, left)) (outside : ¬ allowed k) :
    left.store.row k = session.store.row k ∧ left.view k = session.view k := by
  induction program generalizing session with
  | ret answer =>
    cases ran
    exact ⟨rfl, rfl⟩
  | observe next ih => exact ih _ (within _) ran
  | lock k' next ih =>
    obtain ⟨store, view⟩ := ih _ (within _) (show (next (session.view k')).exec _ = _ from ran)
    exact ⟨store, view⟩
  | write k' v next ih =>
    simp only [exec] at ran
    split at ran
    · obtain ⟨store, view⟩ := ih within.2 ran
      refine ⟨store, view.trans ?_⟩
      have other : k ≠ k' := fun same => outside (same ▸ within.1)
      simp [Session.view, Store.set_row_ne _ _ other]
    · cases ran
  | autosave k' f next ih =>
    simp only [exec] at ran
    split at ran
    · cases ran
    · obtain ⟨store, view⟩ := ih _ (within.2 _) ran
      have other : k ≠ k' := fun same => outside (same ▸ within.1)
      have row := Store.autosave_row_ne session.store f other
      exact ⟨store.trans row, view.trans (Store.apply_row_congr _ _ _ row)⟩
  | commit next => exact within.elim
  | rollback next => exact within.elim
  | log line next ih => exact ih within ran

/-! ## Whole calls -/

/-- Every write of the call names an allowed row, transactions included. -/
def Touches (allowed : K → Prop) : Program Row ε α → Prop
  | .ret _ => True
  | .observe next => ∀ seen, (next seen).Touches allowed
  | .lock _ next => ∀ row, (next row).Touches allowed
  | .write k _ next => allowed k ∧ next.Touches allowed
  | .autosave k _ next => allowed k ∧ ∀ row, (next row).Touches allowed
  | .commit next => next.Touches allowed
  | .rollback next => next.Touches allowed
  | .log _ next => next.Touches allowed

omit [DecidableEq K] in
theorem touches_of_within {program : Program Row ε α} (within : program.Within allowed) :
    program.Touches allowed := by
  induction program with
  | ret result => trivial
  | observe next ih => exact fun seen => ih seen (within seen)
  | lock k next ih => exact fun row => ih row (within row)
  | write k v next ih => exact ⟨within.1, ih within.2⟩
  | autosave k f next ih => exact ⟨within.1, fun row => ih row (within.2 row)⟩
  | commit next => exact within.elim
  | rollback next => exact within.elim
  | log line next ih => exact ih within

omit [DecidableEq K] in
theorem touches_onRet {program : Program Row ε α} {f : Except ε α → Program Row ε' β}
    (first : program.Touches allowed) (rest : ∀ result, (f result).Touches allowed) :
    (program.onRet f).Touches allowed := by
  induction program with
  | ret result => exact rest result
  | observe next ih => exact fun seen => ih seen (first seen)
  | lock k next ih => exact fun row => ih row (first row)
  | write k v next ih => exact ⟨first.1, ih first.2⟩
  | autosave k g next ih => exact ⟨first.1, fun row => ih row (first.2 row)⟩
  | commit next ih => exact ih first
  | rollback next ih => exact ih first
  | log line next ih => exact ih first

omit [DecidableEq K] in
theorem touches_bind {program : Program Row ε α} {f : α → Program Row ε β}
    (first : program.Touches allowed) (rest : ∀ value, (f value).Touches allowed) :
    (program.bind f).Touches allowed := by
  refine touches_onRet first fun result => ?_
  cases result with
  | ok value => exact rest value
  | error error => trivial

omit [DecidableEq K] in
theorem touches_transaction {body : Program Row ε α} (touches : body.Touches allowed) :
    body.transaction.Touches allowed := by
  refine touches_onRet touches fun result => ?_
  cases result <;> trivial

/-- In a run alone, a call leaves the rows that it does not touch. -/
theorem exec_touches {program : Program Row ε α} (touches : program.Touches allowed)
    (ran : program.exec session = some (result, left))
    (start : ∀ write ∈ session.buf, allowed write.1) (outside : ¬ allowed k) :
    left.store.row k = session.store.row k := by
  induction program generalizing session with
  | ret answer =>
    cases ran
    rfl
  | observe next ih => exact ih _ (touches _) ran start
  | lock k' next ih =>
    have kept := ih _ (touches _) ran start
    exact kept
  | write k' v next ih =>
    simp only [exec] at ran
    split at ran
    · have kept := ih touches.2 ran fun write member => by
        rcases List.mem_append.mp member with member | member
        · exact start write member
        · rw [List.mem_singleton.mp member]
          exact touches.1
      exact kept
    · cases ran
  | autosave k' f next ih =>
    simp only [exec] at ran
    split at ran
    · cases ran
    · have other : k ≠ k' := fun same => outside (same ▸ touches.1)
      have kept := ih _ (touches.2 _) ran start
      exact kept.trans (Store.autosave_row_ne session.store f other)
  | commit next ih =>
    have seen : (session.store.apply session.buf).row k = session.store.row k :=
      Store.apply_row_untouched _ _ fun write member same => outside (same ▸ start write member)
    have kept := ih touches ran (by simp)
    exact kept.trans seen
  | rollback next ih =>
    have kept := ih touches ran (by simp)
    exact kept
  | log line next ih => exact ih touches ran start

/-- A call meets any promise that allows a change of the rows it touches. -/
theorem wp_touches {d : Discipline L Row} {label : L} {post : Post Row ε α}
    (program : Program Row ε α) (touches : program.Touches allowed)
    (guarantee : ∀ effect before after, (∀ k, ¬ allowed k → after.row k = before.row k) →
      d.guar label effect before after)
    (ends : ∀ result past st buf, (∀ write ∈ buf, allowed write.1) → post result past st buf)
    (start : ∀ write ∈ buf, allowed write.1) : program.wp d label post past st buf := by
  induction program generalizing past st buf with
  | ret result => exact ends result past st buf start
  | observe next ih => exact fun now _ _ _ => ih now (touches now) start
  | lock k next ih => exact fun now _ _ _ _ => ih _ (touches _) start
  | write k v next ih =>
    refine ih touches.2 fun write member => ?_
    rcases List.mem_append.mp member with member | member
    · exact start write member
    · rw [List.mem_singleton.mp member]
      exact touches.1
  | autosave k f next ih =>
    refine fun now _ _ _ => ⟨guarantee _ _ _ fun k' outside => ?_, fun _ => ih _ (touches.2 _) start⟩
    exact Store.autosave_row_ne _ _ fun same => outside (same ▸ touches.1)
  | commit next ih =>
    refine fun _ _ _ => ⟨guarantee _ _ _ fun k outside => ?_, fun _ _ => ih touches (by simp)⟩
    exact Store.apply_row_untouched _ _ fun write member same => outside (same ▸ start write member)
  | rollback next ih => exact fun _ _ => ih touches (by simp)
  | log line next ih => exact fun now _ _ _ _ => ih touches start

/-- A call meets any promise that all its effects keep, whatever they write. -/
theorem wp_always {d : Discipline L Row} {label : L} {post : Post Row ε α} (program : Program Row ε α)
    (stores : ∀ k f now, d.guar label (.autosave k) now (now.autosave k f))
    (commits : ∀ st writes, d.guar label .commit st (st.apply writes))
    (ends : ∀ result past st buf, post result past st buf) : program.wp d label post past st buf := by
  induction program generalizing past st buf with
  | ret result => exact ends result past st buf
  | observe next ih => exact fun now _ _ _ => ih now
  | lock k next ih => exact fun now _ _ _ _ => ih _
  | write k v next ih => exact ih
  | autosave k f next ih => exact fun now _ _ _ => ⟨stores k f now, fun _ => ih _⟩
  | commit next ih => exact fun _ _ _ => ⟨commits st buf, fun _ _ => ih⟩
  | rollback next ih => exact fun _ _ => ih
  | log line next ih => exact fun now _ _ _ _ => ih

end Transactions.Program
