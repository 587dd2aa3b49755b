import DriverMicroServices.ColumnPhases

/-! The phases of a list of column operations, performed one after the other, against the list
itself: they end in the same schema just when every column survives them. -/
namespace DriverMicroServices
open Texts.Tokens Tables.PerKey
namespace PlacedOp

variable {τ : Type} {typeOf : List Token → Option τ} {schema schema' start finish : TableSchema τ} {name : String}
  {op : PlacedOp} {ops : List PlacedOp}

/-! ## What EXPAND asks for -/

theorem created {column : String} {type : List Token} {nullable : Bool}
    (ran : applyAll [⟨column, ColumnStep.create typeOf type nullable⟩] schema = some schema') :
    (schema column = none ∧ schema' column ≠ none ∧ (typeOf type).isSome) ∧
      ∀ name, schema' name = none → schema name = none := by
  rw [applyAll_single] at ran
  have after (name) := stands_of_change name ran
  obtain ⟨_, stepped, here⟩ := after column
  obtain ⟨free, named, known, rfl⟩ := ColumnStep.create_eq_some.mp stepped
  refine ⟨⟨free, by simp [here], by simp [known]⟩, ?_⟩
  intro name gone
  by_cases same : column = name
  · subst same
    exact free
  · obtain ⟨_, _, there⟩ := after name
    rwa [there, if_neg same] at gone

/-- A step that leaves a column where there was one. -/
theorem column_kept {column : String} {step : Option (ColumnDef τ) → Option (Option (ColumnDef τ))}
    (keeps : ∀ found after, step found = some after → after ≠ none)
    (ran : applyAll [⟨column, step⟩] schema = some schema') (gone : schema' name = none) : schema name = none := by
  rw [applyAll_single] at ran
  obtain ⟨after, stepped, there⟩ := stands_of_change name ran
  rw [gone] at there
  by_cases same : column = name
  · rw [if_pos same] at there
    exact absurd there.symm (keeps _ _ stepped)
  · rw [if_neg same] at there
    exact there.symm

private theorem retype_keeps {type : List Token} {found after : Option (ColumnDef τ)}
    (stepped : ColumnStep.retype typeOf type found = some after) : after ≠ none := by
  obtain ⟨_, _, _, _, rfl⟩ := ColumnStep.retype_eq_some.mp stepped
  simp

private theorem setNotNull_keeps {found after : Option (ColumnDef τ)}
    (stepped : ColumnStep.setNotNull found = some after) : after ≠ none := by
  obtain ⟨_, _, rfl⟩ := ColumnStep.setNotNull_eq_some.mp stepped
  simp

/-- EXPAND finds the names it adds free, and no column is gone after it. -/
theorem expand_step (ran : applyAll (op.expandChanges typeOf) schema = some schema') :
    (∀ added ∈ op.added?, schema added.1 = none ∧ schema' added.1 ≠ none ∧ (typeOf added.2).isSome) ∧
      ∀ name, schema' name = none → schema name = none := by
  cases op with
  | add | rename | replace =>
    obtain ⟨fresh, kept⟩ := created ran
    exact ⟨fun added same => Option.some.inj same ▸ fresh, kept⟩
  | drop column early =>
    cases ran
    simp [added?]
  | retype column type =>
    exact ⟨by simp [added?], fun name => column_kept (fun _ _ => retype_keeps) ran⟩
  | setNotNull column phase =>
    cases phase with
    | EXPAND => exact ⟨by simp [added?], fun name => column_kept (fun _ _ => setNotNull_keeps) ran⟩
    | _ =>
      cases ran
      simp [added?]

/-- A run of EXPAND has added names that were free, each once. -/
theorem expand_run (ran : applyAll (ops.flatMap (expandChanges typeOf)) schema = some schema') :
    ((ops.filterMap added?).map Prod.fst).Nodup ∧
      (∀ added ∈ ops.filterMap added?, schema added.1 = none ∧ (typeOf added.2).isSome) ∧
      ∀ name, schema' name = none → schema name = none := by
  induction ops generalizing schema with
  | nil =>
    cases ran
    simp
  | cons op rest ih =>
    rw [List.flatMap_cons, applyAll_append] at ran
    obtain ⟨middle, first, ran⟩ := Option.bind_eq_some_iff.mp ran
    obtain ⟨distinct, fresh, stays⟩ := ih ran
    obtain ⟨adds, kept⟩ := expand_step first
    have all_kept : ∀ name, schema' name = none → schema name = none := fun name gone => kept name (stays name gone)
    have later : ∀ added ∈ rest.filterMap added?, schema added.1 = none ∧ (typeOf added.2).isSome :=
      fun added member => ⟨kept _ (fresh added member).1, (fresh added member).2⟩
    cases added : op.added? with
    | none =>
      rw [List.filterMap_cons_none added]
      exact ⟨distinct, later, all_kept⟩
    | some entry =>
      obtain ⟨free, there, known⟩ := adds entry added
      rw [List.filterMap_cons_some added, List.map_cons, List.nodup_cons]
      refine ⟨⟨?_, distinct⟩, List.forall_mem_cons.mpr ⟨⟨free, known⟩, later⟩, all_kept⟩
      rintro again
      obtain ⟨other, member, same⟩ := List.mem_map.mp again
      exact there (same ▸ (fresh other member).1)

/-! ## Statements as changes -/

private theorem performAll_expand (op : PlacedOp) (schema : TableSchema τ) :
    ColumnStatement.performAll typeOf op.expand schema = applyAll (op.expandChanges typeOf) schema := by
  cases op with
  | setNotNull column phase => cases phase <;> rfl
  | _ => rfl

private theorem performAll_migrate (op : PlacedOp) (schema : TableSchema τ) :
    ColumnStatement.performAll typeOf op.migrate schema = applyAll op.migrateChanges schema := by
  cases op with
  | drop column early => cases early <;> rfl
  | setNotNull column phase => cases phase <;> rfl
  | rename | replace =>
    show Option.bind _ some = _
    exact Option.bind_fun_some ..
  | _ => rfl

theorem second_ne (column : String) : column ++ "_v2" ≠ column := by
  intro same
  have length := congrArg String.length same
  simp at length

/-- The second column is renamed as EXPAND has added it, so that the rename is the change that
it stands for. -/
theorem performAll_replaced {column : String} {type captured : List Token} {named : τ}
    (known : typeOf captured = some named) (there : schema (column ++ "_v2") = some ⟨named, true⟩) :
    ColumnStatement.performAll typeOf (replace column type captured).contract schema =
      applyAll ((replace column type captured).contractChanges typeOf) schema := by
  have apart := second_ne column
  cases found : schema column with
  | none =>
    simp [contract, contractChanges, ColumnStatement.performAll, ColumnStatement.perform, applyAll, Change.apply,
      ColumnStep.remove, ColumnStep.replace, found]
  | some first =>
    have same (renamed : Option (ColumnDef τ)) :
        Function.update (Function.update (Function.update schema column none) (column ++ "_v2") none) column renamed =
          Function.update (Function.update schema column renamed) (column ++ "_v2") none := by
      rw [Function.update_comm apart.symm, Function.update_idem]
      exact Function.update_comm apart ..
    simpa [contract, contractChanges, ColumnStatement.performAll, ColumnStatement.perform, applyAll, Change.apply,
      ColumnStep.remove, ColumnStep.replace, found, known, there] using same _

/-- Every second column is as EXPAND has added it, and only its own operation touches it. -/
def Held (typeOf : List Token → Option τ) (ops : List PlacedOp) (schema : TableSchema τ) : Prop :=
  ∀ before column type captured after, ops = before ++ replace column type captured :: after →
    ∃ named, typeOf captured = some named ∧ schema (column ++ "_v2") = some ⟨named, true⟩ ∧
      ∀ op ∈ before, Spares (column ++ "_v2") op

theorem held_step (held : Held typeOf (op :: ops) schema)
    (ran : applyAll (op.contractChanges typeOf) schema = some schema') : Held typeOf ops schema' := by
  intro before column type captured after split
  obtain ⟨named, known, there, spares⟩ := held (op :: before) column type captured after (by rw [split]; rfl)
  obtain ⟨here, later⟩ := List.forall_mem_cons.mp spares
  have still := applyAll_iff.mp ran (column ++ "_v2")
  rw [(along_spared here _).2.2, there] at still
  exact ⟨named, known, (Option.some.inj still).symm, later⟩

private theorem performAll_contract (held : Held typeOf ops schema) :
    ColumnStatement.performAll typeOf (ops.flatMap contract) schema =
      applyAll (ops.flatMap (contractChanges typeOf)) schema := by
  induction ops generalizing schema with
  | nil => rfl
  | cons op rest ih =>
    have first : ColumnStatement.performAll typeOf op.contract schema =
        applyAll (op.contractChanges typeOf) schema := by
      cases op with
      | drop column early => cases early <;> rfl
      | setNotNull column phase => cases phase <;> rfl
      | replace column type captured =>
        obtain ⟨named, known, there, -⟩ := held [] column type captured rest rfl
        exact performAll_replaced known there
      | _ => rfl
    rw [List.flatMap_cons, List.flatMap_cons, ColumnStatement.performAll_append, applyAll_append, first]
    refine Option.bind_congr fun middle ran => ?_
    exact ih (held_step held ran)

theorem along_expand_spared (spares : ∀ op ∈ ops, Spares name op) (found : Option (ColumnDef τ)) :
    along name (ops.flatMap (expandChanges typeOf)) found = some found := by
  induction ops with
  | nil => rfl
  | cons op rest ih =>
    obtain ⟨here, later⟩ := List.forall_mem_cons.mp spares
    rw [List.flatMap_cons, along_append, (along_spared here found).1]
    exact ih later

theorem along_migrate_spared (spares : ∀ op ∈ ops, Spares name op) (found : Option (ColumnDef τ)) :
    along name (ops.flatMap migrateChanges) found = some found := by
  induction ops with
  | nil => rfl
  | cons op rest ih =>
    obtain ⟨here, later⟩ := List.forall_mem_cons.mp spares
    rw [List.flatMap_cons, along_append, (@along_spared _ (fun _ => none) _ _ here found).2.1]
    exact ih later

/-- Only the operation that adds a second column is about its name. -/
theorem second_spared {before after : List PlacedOp} {column : String} {type captured : List Token}
    (split : ops = before ++ replace column type captured :: after)
    (distinct : ((ops.filterMap added?).map Prod.fst).Nodup)
    (stood : standsAll (column ++ "_v2") ops false = some there) :
    ∀ op ∈ before ++ after, Spares (column ++ "_v2") op := by
  subst split
  rw [List.filterMap_append, List.filterMap_cons_some (by rfl), List.map_append, List.map_cons, List.nodup_middle,
    List.nodup_cons, ← List.map_append, ← List.filterMap_append] at distinct
  have others : ∀ op ∈ before ++ after, ∀ added ∈ op.added?, added.1 ≠ column ++ "_v2" := by
    intro op member added finds same
    exact distinct.1 (List.mem_map.mpr ⟨added, List.mem_filterMap.mpr ⟨op, member, finds⟩, same⟩)
  have unborn : ∀ op ∈ before ++ replace column type captured :: after, op.born? ≠ some (column ++ "_v2") := by
    intro op member born
    rcases List.mem_append.mp member with earlier | here
    · obtain ⟨type, added⟩ := born_added born
      exact others op (List.mem_append_left _ earlier) _ added rfl
    · rcases List.mem_cons.mp here with rfl | later
      · cases born
      · obtain ⟨type, added⟩ := born_added born
        exact others op (List.mem_append_right _ later) _ added rfl
  intro op member
  refine ⟨others op member, unmentioned stood unborn op ?_⟩
  rcases List.mem_append.mp member with earlier | later
  · exact List.mem_append_left _ earlier
  · exact List.mem_append_right _ (List.mem_cons_of_mem _ later)

/-- After EXPAND and DATA the second columns are held for CONTRACT. -/
theorem held_migrated {expanded migrated : TableSchema τ}
    (stood : ∀ name, ∃ there, standsAll name ops (start name).isSome = some there)
    (expands : applyAll (ops.flatMap (expandChanges typeOf)) start = some expanded)
    (migrates : applyAll (ops.flatMap migrateChanges) expanded = some migrated) : Held typeOf ops migrated := by
  obtain ⟨distinct, fresh, -⟩ := expand_run expands
  intro before column type captured after split
  have free := fresh (column ++ "_v2", captured)
    (List.mem_filterMap.mpr ⟨replace column type captured, by simp [split], rfl⟩)
  obtain ⟨there, stands⟩ := stood (column ++ "_v2")
  rw [free.1] at stands
  have spares := second_spared split distinct stands
  have early := fun op member => spares op (List.mem_append_left _ member)
  have late := fun op member => spares op (List.mem_append_right _ member)
  obtain ⟨named, known⟩ : ∃ named, typeOf captured = some named := Option.isSome_iff_exists.mp free.2
  have adds := applyAll_iff.mp expands (column ++ "_v2")
  have copies := applyAll_iff.mp migrates (column ++ "_v2")
  subst split
  rw [List.flatMap_append, List.flatMap_cons, along_append, along_expand_spared early, Option.bind_some, along_append,
    expandChanges, along_self, free.1, ColumnStep.create, known, Option.map_some, Option.bind_some,
    along_expand_spared late] at adds
  rw [List.flatMap_append, List.flatMap_cons, along_append, along_migrate_spared early, Option.bind_some, along_append,
    migrateChanges, along_first (second_ne column).symm, ← Option.some.inj adds, ColumnStep.mention, Option.bind_some,
    along_migrate_spared late] at copies
  exact ⟨named, known, (Option.some.inj copies).symm, early⟩

/-! ## The phases and the list -/

private theorem performAll_expand_run (ops : List PlacedOp) (schema : TableSchema τ) :
    ColumnStatement.performAll typeOf (ops.flatMap expand) schema =
      applyAll (ops.flatMap (expandChanges typeOf)) schema := by
  induction ops generalizing schema with
  | nil => rfl
  | cons op rest ih =>
    rw [List.flatMap_cons, List.flatMap_cons, ColumnStatement.performAll_append, applyAll_append, performAll_expand]
    exact Option.bind_congr fun middle _ => ih middle

private theorem performAll_migrate_run (ops : List PlacedOp) (schema : TableSchema τ) :
    ColumnStatement.performAll typeOf (ops.flatMap migrate) schema =
      applyAll (ops.flatMap migrateChanges) schema := by
  induction ops generalizing schema with
  | nil => rfl
  | cons op rest ih =>
    rw [List.flatMap_cons, List.flatMap_cons, ColumnStatement.performAll_append, applyAll_append, performAll_migrate]
    exact Option.bind_congr fun middle _ => ih middle

/-- The phases end in a schema just when their changes do. -/
theorem performAll_phased_eq (stood : ∀ name, ∃ there, standsAll name ops (start name).isSome = some there) :
    ColumnStatement.performAll typeOf (phased ops) start =
      applyAll (ops.flatMap (expandChanges typeOf) ++
        (ops.flatMap migrateChanges ++ ops.flatMap (contractChanges typeOf))) start := by
  rw [phased, ColumnStatement.performAll_append, applyAll_append, performAll_expand_run]
  refine Option.bind_congr fun expanded expands => ?_
  rw [ColumnStatement.performAll_append, applyAll_append, performAll_migrate_run]
  refine Option.bind_congr fun migrated migrates => ?_
  exact performAll_contract (held_migrated stood expands migrates)

/-- Under each name, the changes do what follows from the list. -/
theorem underName_followed (stood : standsAll name ops (start name).isSome = some there)
    (distinct : ((ops.filterMap added?).map Prod.fst).Nodup)
    (fresh : ∀ added ∈ ops.filterMap added?, start added.1 = none)
    (known : ∀ added ∈ ops.filterMap added?, (typeOf added.2).isSome) :
    underName typeOf name ops some some (start name) =
      (followAll typeOf name ops ((start name).map (⟨·, .nothing⟩))).map (·.map FollowedColumn.column) := by
  have knows : ∀ op ∈ ops, ∀ added ∈ op.added?, (typeOf added.2).isSome :=
    fun op member added finds => known added (List.mem_filterMap.mpr ⟨op, member, finds⟩)
  cases found : start name with
  | none =>
    rw [found] at stood
    exact underName_absent stood distinct knows
  | some column =>
    rw [found] at stood
    have others : ∀ op ∈ ops, ∀ added ∈ op.added?, added.1 ≠ name := by
      rintro op member added finds rfl
      rw [fresh added (List.mem_filterMap.mpr ⟨op, member, finds⟩)] at found
      cases found
    exact underName_alive (.begin column) stood others knows

/-- The phases of a list that can be executed lead where the list leads just when every column
survives them. -/
theorem performAll_phased (ran : ColumnStatement.performAll typeOf (ops.map statement) start = some finish) :
    ColumnStatement.performAll typeOf (phased ops) start = some finish ↔ Survives typeOf ops start finish := by
  have stood : ∀ name, ∃ there, standsAll name ops (start name).isSome = some there :=
    fun name => ⟨_, standsAll_of_perform ran⟩
  have eachName : applyAll (ops.flatMap (expandChanges typeOf) ++
      (ops.flatMap migrateChanges ++ ops.flatMap (contractChanges typeOf))) start = some finish ↔
        ∀ name, underName typeOf name ops some some (start name) = some (finish name) := by
    simp only [applyAll_iff, along_append, underName, Option.bind_some]
  rw [performAll_phased_eq stood]
  constructor
  · intro done
    have ran := done
    rw [applyAll_append] at ran
    obtain ⟨expanded, expands, -⟩ := Option.bind_eq_some_iff.mp ran
    obtain ⟨distinct, fresh, -⟩ := expand_run expands
    refine ⟨distinct, fun added member => (fresh added member).1, fun added member => (fresh added member).2, ?_⟩
    intro name
    obtain ⟨there, stands⟩ := stood name
    have under := eachName.mp done name
    rw [underName_followed stands distinct (fun added member => (fresh added member).1)
      (fun added member => (fresh added member).2)] at under
    exact Option.map_eq_some_iff.mp under
  · intro survives
    refine eachName.mpr fun name => ?_
    obtain ⟨there, stands⟩ := stood name
    rw [underName_followed stands survives.distinct survives.new survives.known]
    exact Option.map_eq_some_iff.mpr (survives.kept name)

end PlacedOp
end DriverMicroServices
