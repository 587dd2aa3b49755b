import DriverMicroServices.ColumnStatements
import Mathlib.Data.List.Count
import Mathlib.Data.List.Nodup

/-! The column operations of a migration in three phases. An operation either goes to a phase
as it is, or other statements stand for it: a rename adds a column of its own and drops the
old one at the end, a change of type adds a second column that takes the place of the first.
What becomes of each column can be followed through the list of operations, name by name. -/
namespace DriverMicroServices
open Texts.Tokens Tables.PerKey

/-- An operation on columns, with the place that the splitter gives to it. -/
inductive PlacedOp where
  | add (column : String) (type : List Token) (nullable : Bool)
  /-- In DATA or in CONTRACT. -/
  | drop (column : String) (early : Bool)
  | rename (oldCol newCol : String)
  /-- As it is, in EXPAND. -/
  | retype (column : String) (type : List Token)
  /-- By a second column of the captured type. -/
  | replace (column : String) (type captured : List Token)
  | setNotNull (column : String) (phase : PhaseName)

namespace PlacedOp

/-- What the operation asks for. -/
def statement : PlacedOp → ColumnStatement
  | add column type nullable => .add column type nullable
  | drop column _ => .drop column
  | rename oldCol newCol => .rename oldCol newCol
  | retype column type | replace column type _ => .retype column type
  | setNotNull column _ => .setNotNull column

/-- The type that a renamed column gets when nobody knows its type. -/
def varchar : List Token := [.word "VARCHAR"]

/-- The column that EXPAND adds, and its type. -/
def added? : PlacedOp → Option (String × List Token)
  | add column type _ => some (column, type)
  | rename _ newCol => some (newCol, varchar)
  | replace column _ captured => some (column ++ "_v2", captured)
  | _ => none

def expand : PlacedOp → List ColumnStatement
  | add column type nullable => [.add column type nullable]
  | rename _ newCol => [.add newCol varchar true]
  | retype column type => [.retype column type]
  | replace column _ captured => [.add (column ++ "_v2") captured true]
  | setNotNull column .EXPAND => [.setNotNull column]
  | _ => []

def migrate : PlacedOp → List ColumnStatement
  | drop column true => [.drop column]
  | rename oldCol newCol => [.copy newCol oldCol]
  | replace column _ _ => [.copy (column ++ "_v2") column]
  | setNotNull column .DATA => [.setNotNull column]
  | _ => []

def contract : PlacedOp → List ColumnStatement
  | drop column false => [.drop column]
  | rename oldCol _ => [.drop oldCol]
  | replace column _ _ => [.drop column, .rename (column ++ "_v2") column]
  | setNotNull _ .EXPAND | setNotNull _ .DATA => []
  | setNotNull column _ => [.setNotNull column]
  | _ => []

/-- The statements of the three phases. -/
def phased (ops : List PlacedOp) : List ColumnStatement :=
  ops.flatMap expand ++ (ops.flatMap migrate ++ ops.flatMap contract)

end PlacedOp

/-! ## What becomes of a column -/

/-- What CONTRACT still does to a column. -/
inductive Awaits where
  | nothing
  | change
  | replacement
deriving DecidableEq

structure FollowedColumn (τ : Type) where
  column : ColumnDef τ
  awaits : Awaits

namespace PlacedOp

variable {τ : Type} (typeOf : List Token → Option τ) (name : String)

/-- What becomes of the column of a name. A rename begins a nullable column of the fallback
type, and a replacement one of the captured type. Statements that come before CONTRACT have no
effect on a column that will be replaced, and do not find one that CONTRACT needs. -/
def follow : PlacedOp → Option (FollowedColumn τ) → Option (Option (FollowedColumn τ))
  | add column type nullable, found =>
    if column = name then begins type nullable found else some found
  | drop column early, found =>
    if column = name then
      found.bind fun followed => if early && followed.awaits ≠ .nothing then none else some none
    else some found
  | rename oldCol newCol, found =>
    if oldCol = name then found.map fun _ => none
    else if newCol = name then begins varchar true found
    else some found
  | retype column type, found =>
    if column = name then
      found.bind fun followed =>
        (typeOf type).map fun type =>
          some (if followed.awaits = .replacement then followed else { followed with column.type := type })
    else some found
  | replace column _ captured, found =>
    if column = name then
      found.bind fun _ => (typeOf captured).map fun type => some ⟨⟨type, true⟩, .replacement⟩
    else some found
  | setNotNull column phase, found =>
    if column = name then
      found.map fun followed =>
        if phase = .EXPAND ∨ phase = .DATA then
          some
            (if followed.awaits = .replacement then followed
              else { followed with column.nullable := false })
        else
          some
            { column := { followed.column with nullable := false }
              awaits := if followed.awaits = .nothing then .change else followed.awaits }
    else some found
where
  begins (type : List Token) (nullable : Bool) : Option (FollowedColumn τ) → Option (Option (FollowedColumn τ))
    | none => (typeOf type).map fun type => some ⟨⟨type, nullable⟩, .nothing⟩
    | some _ => none

def followAll : List PlacedOp → Option (FollowedColumn τ) → Option (Option (FollowedColumn τ))
  | [], found => some found
  | op :: rest, found => (op.follow typeOf name found).bind (followAll rest)

end PlacedOp

/-- What survives the split: every name that EXPAND adds is new, with a type that the database
has, and each column, followed through the list, ends as the schema has it. -/
structure Survives (typeOf : List Token → Option τ) (ops : List PlacedOp) (start finish : TableSchema τ) :
    Prop where
  distinct : ((ops.filterMap PlacedOp.added?).map Prod.fst).Nodup
  new : ∀ added ∈ ops.filterMap PlacedOp.added?, start added.1 = none
  known : ∀ added ∈ ops.filterMap PlacedOp.added?, (typeOf added.2).isSome
  kept : ∀ name, ∃ followed,
    PlacedOp.followAll typeOf name ops ((start name).map (⟨·, .nothing⟩)) = some followed ∧
      followed.map FollowedColumn.column = finish name

/-! ## The phases under one name

The statements of the phases change single columns, but for the rename of a second column,
which stands for a change of the column it replaces as long as it holds what EXPAND put there. -/

namespace ColumnStep

variable {τ : Type} (typeOf : List Token → Option τ)

/-- The second column takes the place of the first. -/
def replace (captured : List Token) : Option (ColumnDef τ) → Option (Option (ColumnDef τ))
  | some _ => (typeOf captured).map fun type => some ⟨type, true⟩
  | none => none

variable {typeOf} {type : List Token} {nullable : Bool} {found after : Option (ColumnDef τ)}

theorem create_eq_some : create typeOf type nullable found = some after ↔
    found = none ∧ ∃ named, typeOf type = some named ∧ after = some ⟨named, nullable⟩ := by
  cases found with
  | none => simp [create, eq_comm]
  | some column => simp [create]

private theorem remove_eq_some : remove found = some after ↔ found.isSome ∧ after = none := by
  cases found with
  | none => simp [remove]
  | some column => simp [remove, eq_comm]

theorem retype_eq_some : retype typeOf type found = some after ↔ ∃ column named,
    found = some column ∧ typeOf type = some named ∧ after = some { column with type := named } := by
  cases found with
  | none => simp [retype]
  | some column => simp [retype, eq_comm]

theorem setNotNull_eq_some : setNotNull found = some after ↔
    ∃ column, found = some column ∧ after = some { column with nullable := false } := by
  cases found with
  | none => simp [setNotNull]
  | some column => simp [setNotNull, eq_comm]

end ColumnStep

namespace PlacedOp

variable {τ : Type} (typeOf : List Token → Option τ)

abbrev ColumnChange (τ : Type) := Change String (Option (ColumnDef τ))

def expandChanges : PlacedOp → List (ColumnChange τ)
  | add column type nullable => [⟨column, ColumnStep.create typeOf type nullable⟩]
  | rename _ newCol => [⟨newCol, ColumnStep.create typeOf varchar true⟩]
  | retype column type => [⟨column, ColumnStep.retype typeOf type⟩]
  | replace column _ captured => [⟨column ++ "_v2", ColumnStep.create typeOf captured true⟩]
  | setNotNull column .EXPAND => [⟨column, ColumnStep.setNotNull⟩]
  | _ => []

def migrateChanges : PlacedOp → List (ColumnChange τ)
  | drop column true => [⟨column, ColumnStep.remove⟩]
  | rename oldCol newCol => [⟨newCol, ColumnStep.mention⟩, ⟨oldCol, ColumnStep.mention⟩]
  | replace column _ _ => [⟨column ++ "_v2", ColumnStep.mention⟩, ⟨column, ColumnStep.mention⟩]
  | setNotNull column .DATA => [⟨column, ColumnStep.setNotNull⟩]
  | _ => []

def contractChanges : PlacedOp → List (ColumnChange τ)
  | drop column false => [⟨column, ColumnStep.remove⟩]
  | rename oldCol _ => [⟨oldCol, ColumnStep.remove⟩]
  | replace column _ captured =>
    [⟨column, ColumnStep.replace typeOf captured⟩, ⟨column ++ "_v2", ColumnStep.remove⟩]
  | setNotNull _ .EXPAND | setNotNull _ .DATA => []
  | setNotNull column _ => [⟨column, ColumnStep.setNotNull⟩]
  | _ => []

/-- The column that the operation finds. -/
def subject? : PlacedOp → Option String
  | add _ _ _ => none
  | drop column _ | rename column _ | retype column _ | replace column _ _ | setNotNull column _ => some column

/-- Whether a column of the name is there after the operation. -/
def stands (name : String) (op : PlacedOp) (there : Bool) : Option Bool :=
  match op with
  | add column _ _ => if column = name then (if there then none else some true) else some there
  | drop column _ => if column = name then (if there then some false else none) else some there
  | rename oldCol newCol =>
    if oldCol = name then (if there then some false else none)
    else if newCol = name then (if there then none else some true)
    else some there
  | retype column _ | replace column _ _ | setNotNull column _ =>
    if column = name then (if there then some true else none) else some there

def standsAll (name : String) : List PlacedOp → Bool → Option Bool
  | [], there => some there
  | op :: rest, there => (op.stands name there).bind (standsAll name rest)

variable {typeOf} {schema schema' : TableSchema τ} {name : String} {op : PlacedOp} {ops : List PlacedOp}

theorem stands_of_change (name : String) {step : Option (ColumnDef τ) → Option (Option (ColumnDef τ))}
    {column : String}
    (ran : Change.apply ⟨column, step⟩ schema = some schema') :
    ∃ after, step (schema column) = some after ∧ schema' name = if column = name then after else schema name := by
  obtain ⟨after, stepped, rfl⟩ := Option.map_eq_some_iff.mp ran
  refine ⟨after, stepped, ?_⟩
  split
  · rename_i same
    subst same
    exact Function.update_self ..
  · rename_i other
    exact Function.update_of_ne (Ne.symm other) ..

/-- A list of operations that can be executed says of each name when it stands. -/
theorem stands_of_perform (ran : op.statement.perform typeOf schema = some schema') :
    op.stands name (schema name).isSome = some (schema' name).isSome := by
  cases op with
  | add column type nullable =>
    obtain ⟨after, stepped, now⟩ := stands_of_change name ran
    obtain ⟨absent, _, _, rfl⟩ := ColumnStep.create_eq_some.mp stepped
    by_cases same : column = name
    · subst same
      simp [stands, now, absent]
    · simp [stands, now, same]
  | drop column early =>
    obtain ⟨after, stepped, now⟩ := stands_of_change name ran
    obtain ⟨there, rfl⟩ := ColumnStep.remove_eq_some.mp stepped
    by_cases same : column = name
    · subst same
      simp [stands, now, there]
    · simp [stands, now, same]
  | rename oldCol newCol =>
    simp only [statement, ColumnStatement.perform] at ran
    split at ran
    · rename_i column there absent
      cases ran
      by_cases old : oldCol = name
      · subst old
        have apart : oldCol ≠ newCol := by
          rintro rfl
          rw [there] at absent
          cases absent
        simp [stands, there, Function.update_of_ne apart]
      · by_cases new : newCol = name
        · subst new
          simp [stands, old, absent]
        · simp [stands, old, new, Function.update_of_ne (Ne.symm new), Function.update_of_ne (Ne.symm old)]
    · cases ran
  | retype column type | replace column type captured =>
    obtain ⟨after, stepped, now⟩ := stands_of_change name ran
    obtain ⟨before, named, there, _, rfl⟩ := ColumnStep.retype_eq_some.mp stepped
    by_cases same : column = name
    · subst same
      simp [stands, now, there]
    · simp [stands, now, same]
  | setNotNull column phase =>
    obtain ⟨after, stepped, now⟩ := stands_of_change name ran
    obtain ⟨before, there, rfl⟩ := ColumnStep.setNotNull_eq_some.mp stepped
    by_cases same : column = name
    · subst same
      simp [stands, now, there]
    · simp [stands, now, same]

theorem standsAll_of_perform
    (ran : ColumnStatement.performAll typeOf (ops.map statement) schema = some schema') :
    standsAll name ops (schema name).isSome = some (schema' name).isSome := by
  induction ops generalizing schema with
  | nil =>
    cases ran
    rfl
  | cons op rest ih =>
    obtain ⟨middle, first, ran⟩ := Option.bind_eq_some_iff.mp ran
    rw [standsAll, stands_of_perform first]
    exact ih ran

/-- Nothing is done to columns of the name. -/
def Spares (name : String) (op : PlacedOp) : Prop :=
  (∀ added ∈ op.added?, added.1 ≠ name) ∧ op.subject? ≠ some name

theorem stands_spares (spares : Spares name op) : op.stands name there = some there := by
  obtain ⟨others, apart⟩ := spares
  cases op <;> simp_all [stands, subject?, added?]

/-- The name that stands after the operation and did not before. -/
def born? : PlacedOp → Option String
  | add column _ _ => some column
  | rename _ newCol => some newCol
  | _ => none

theorem born_added (born : op.born? = some name) : ∃ type, op.added? = some (name, type) := by
  cases op <;> cases born <;> exact ⟨_, rfl⟩

/-- A name that does not stand and is not born is not mentioned. -/
theorem unmentioned (stood : standsAll name ops false = some there)
    (unborn : ∀ op ∈ ops, op.born? ≠ some name) : ∀ op ∈ ops, op.subject? ≠ some name := by
  induction ops with
  | nil => simp
  | cons op rest ih =>
    obtain ⟨here, later⟩ := List.forall_mem_cons.mp unborn
    obtain ⟨still, stood, rest_stood⟩ := Option.bind_eq_some_iff.mp stood
    have apart : op.subject? ≠ some name := by
      intro same
      cases op <;> cases same <;> simp [stands] at stood
    have down : still = false := by
      cases op <;> simp_all [stands, subject?, born?]
    subst down
    exact List.forall_mem_cons.mpr ⟨apart, ih rest_stood later⟩

/-- A column that is gone, and whose name is not added again, is spared. -/
theorem spared (stood : standsAll name ops false = some there)
    (others : ∀ op ∈ ops, ∀ added ∈ op.added?, added.1 ≠ name) : ∀ op ∈ ops, Spares name op := by
  have unborn : ∀ op ∈ ops, op.born? ≠ some name := by
    intro op member born
    obtain ⟨type, added⟩ := born_added born
    exact others op member _ added rfl
  exact fun op member => ⟨others op member, unmentioned stood unborn op member⟩

theorem along_spared (spares : Spares name op) (found : Option (ColumnDef τ)) :
    along name (op.expandChanges typeOf) found = some found ∧
      along name (op.migrateChanges (τ := τ)) found = some found ∧
      along name (op.contractChanges typeOf) found = some found := by
  obtain ⟨others, apart⟩ := spares
  refine ⟨along_untouched ?_ _, along_untouched ?_ _, along_untouched ?_ _⟩
  · cases op with
    | setNotNull column phase => cases phase <;> simp_all [expandChanges, subject?]
    | _ => simp_all [expandChanges, added?, subject?]
  · cases op with
    | drop column early => cases early <;> simp_all [migrateChanges, subject?]
    | setNotNull column phase => cases phase <;> simp_all [migrateChanges, subject?]
    | _ => simp_all [migrateChanges, added?, subject?]
  · cases op with
    | drop column early => cases early <;> simp_all [contractChanges, subject?]
    | setNotNull column phase => cases phase <;> simp_all [contractChanges, subject?]
    | _ => simp_all [contractChanges, added?, subject?]

theorem follow_spared (spares : Spares name op) (found : Option (FollowedColumn τ)) :
    op.follow typeOf name found = some found := by
  obtain ⟨others, apart⟩ := spares
  cases op <;> simp_all [follow, added?, subject?]

/-- What the three phases do under a name, where `data` and `contract` have been done there
by the operations before. -/
def underName (typeOf : List Token → Option τ) (name : String) (ops : List PlacedOp)
    (data contract : Option (ColumnDef τ) → Option (Option (ColumnDef τ))) (found : Option (ColumnDef τ)) :
    Option (Option (ColumnDef τ)) :=
  (along name (ops.flatMap (expandChanges typeOf)) found).bind fun expanded =>
    (data expanded).bind fun changed =>
      (along name (ops.flatMap migrateChanges) changed).bind fun migrated =>
        (contract migrated).bind (along name (ops.flatMap (contractChanges typeOf)))

variable {data contract : Option (ColumnDef τ) → Option (Option (ColumnDef τ))}
  {found : Option (ColumnDef τ)}

theorem underName_nil : underName typeOf name [] data contract found = (data found).bind contract := by
  simp only [underName, List.flatMap_nil, along_nil, Option.bind_some]
  congr 1
  funext changed
  cases contract changed <;> rfl

theorem underName_cons : underName typeOf name (op :: ops) data contract found =
    (along name (op.expandChanges typeOf) found).bind
      (underName typeOf name ops (fun v => (data v).bind (along name op.migrateChanges))
        fun v => (contract v).bind (along name (op.contractChanges typeOf))) := by
  simp only [underName, List.flatMap_cons, along_append, Option.bind_assoc]
  congr 1
  funext expanded
  simp only [underName, Option.bind_assoc]

theorem underName_spares (spares : Spares name op) :
    underName typeOf name (op :: ops) data contract found = underName typeOf name ops data contract found := by
  have still := fun found => @along_spared τ typeOf name op spares found
  have migrates : (fun v => (data v).bind (along name op.migrateChanges)) = data := by
    funext v
    cases data v with
    | none => rfl
    | some changed => exact (still changed).2.1
  have contracts : (fun v => (contract v).bind (along name (op.contractChanges typeOf))) = contract := by
    funext v
    cases contract v with
    | none => rfl
    | some changed => exact (still changed).2.2
  rw [underName_cons, (still found).1, Option.bind_some, migrates, contracts]

/-- Operations that spare the name leave what was done before. -/
theorem underName_spared (spares : ∀ op ∈ ops, Spares name op) :
    underName typeOf name ops data contract found = (data found).bind contract := by
  induction ops with
  | nil => exact underName_nil
  | cons op rest ih =>
    obtain ⟨here, later⟩ := List.forall_mem_cons.mp spares
    rw [underName_spares here]
    exact ih later

theorem followAll_spared (spares : ∀ op ∈ ops, Spares name op) (found : Option (FollowedColumn τ)) :
    followAll typeOf name ops found = some found := by
  induction ops with
  | nil => rfl
  | cons op rest ih =>
    obtain ⟨here, later⟩ := List.forall_mem_cons.mp spares
    rw [followAll, follow_spared here, Option.bind_some]
    exact ih later

/-- What has been done so far to a column that stands: EXPAND has left `expanded`, DATA may
have taken its nullability, and CONTRACT makes the followed column of it. -/
structure Alive (expanded : ColumnDef τ) (data contract : Option (ColumnDef τ) → Option (Option (ColumnDef τ)))
    (followed : FollowedColumn τ) : Prop where
  changes : ∃ keeps : Bool, ∀ column : ColumnDef τ,
    data (some column) = some (some { column with nullable := column.nullable && keeps })
  awaited :
    match followed.awaits with
    | .nothing => ∀ found, contract found = some found
    | .change => contract none = none ∧ ∀ column : ColumnDef τ,
        contract (some column) = some (some { column with nullable := false })
    | .replacement => contract none = none ∧ ∀ column : ColumnDef τ,
        contract (some column) = some (some followed.column)
  whole : (data (some expanded)).bind contract = some (some followed.column)

section Alive

variable {expanded : ColumnDef τ} {followed : FollowedColumn τ}

theorem Alive.mention (alive : Alive expanded data contract followed) :
    Alive expanded (fun v => (data v).bind ColumnStep.mention) contract followed := by
  obtain ⟨⟨keeps, changes⟩, awaited, whole⟩ := alive
  refine ⟨⟨keeps, fun column => ?_⟩, awaited, ?_⟩
  · simp [changes, ColumnStep.mention]
  · simpa [changes, ColumnStep.mention] using whole

/-- A change in EXPAND that does not depend on whether the column is nullable. -/
theorem Alive.altered (alive : Alive expanded data contract followed) (change : ColumnDef τ → ColumnDef τ)
    (blind : ∀ column keeps, change { column with nullable := column.nullable && keeps } =
      { change column with nullable := (change column).nullable && keeps }) :
    Alive (change expanded) data contract
      (if followed.awaits = .replacement then followed
        else { followed with column := change followed.column }) := by
  obtain ⟨⟨keeps, changes⟩, awaited, whole⟩ := alive
  obtain ⟨column, awaits⟩ := followed
  rw [changes, Option.bind_some] at whole
  cases awaits with
  | nothing =>
    rw [awaited] at whole
    cases whole
    exact ⟨⟨keeps, changes⟩, awaited, by simp [changes, awaited _, blind]⟩
  | change =>
    rw [awaited.2] at whole
    cases whole
    exact ⟨⟨keeps, changes⟩, awaited, by simpa [changes, awaited.2] using (blind expanded false).symm⟩
  | replacement => exact ⟨⟨keeps, changes⟩, awaited, by simp [changes, awaited.2]⟩

/-- SET NOT NULL in EXPAND. -/
theorem Alive.expandNotNull (alive : Alive expanded data contract followed) :
    Alive { expanded with nullable := false } data contract
      (if followed.awaits = .replacement then followed
        else { followed with column.nullable := false }) :=
  alive.altered ({ · with nullable := false }) fun _ _ => rfl

/-- SET NOT NULL in DATA. -/
theorem Alive.dataNotNull (alive : Alive expanded data contract followed) :
    Alive expanded (fun v => (data v).bind ColumnStep.setNotNull) contract
      (if followed.awaits = .replacement then followed
        else { followed with column.nullable := false }) := by
  obtain ⟨⟨keeps, changes⟩, awaited, whole⟩ := alive
  obtain ⟨column, awaits⟩ := followed
  have later : ∃ keeps : Bool, ∀ column : ColumnDef τ, (data (some column)).bind ColumnStep.setNotNull =
      some (some { column with nullable := column.nullable && keeps }) :=
    ⟨false, fun column => by simp [changes, ColumnStep.setNotNull]⟩
  rw [changes, Option.bind_some] at whole
  cases awaits with
  | nothing =>
    rw [awaited] at whole
    cases whole
    exact ⟨later, awaited, by simp [changes, awaited _, ColumnStep.setNotNull]⟩
  | change =>
    rw [awaited.2] at whole
    cases whole
    exact ⟨later, awaited, by simp [changes, awaited.2, ColumnStep.setNotNull]⟩
  | replacement => exact ⟨later, awaited, by simp [changes, awaited.2, ColumnStep.setNotNull]⟩

/-- SET NOT NULL in CONTRACT. -/
theorem Alive.contractNotNull (alive : Alive expanded data contract followed) :
    Alive expanded data (fun v => (contract v).bind ColumnStep.setNotNull)
      { column := { followed.column with nullable := false }
        awaits := if followed.awaits = .nothing then .change else followed.awaits } := by
  obtain ⟨changes, awaited, whole⟩ := alive
  obtain ⟨column, awaits⟩ := followed
  have ends : (data (some expanded)).bind (fun v => (contract v).bind ColumnStep.setNotNull) =
      some (some { column with nullable := false }) := by
    rw [← Option.bind_assoc, whole]
    rfl
  cases awaits with
  | nothing => exact ⟨changes, ⟨by simp [awaited _, ColumnStep.setNotNull],
      fun column => by simp [awaited _, ColumnStep.setNotNull]⟩, ends⟩
  | change | replacement => exact ⟨changes, ⟨by simp [awaited.1],
      fun column => by simp [awaited.2, ColumnStep.setNotNull]⟩, ends⟩

/-- ALTER COLUMN … TYPE in EXPAND. -/
theorem Alive.retyped (alive : Alive expanded data contract followed) (type : τ) :
    Alive { expanded with type } data contract
      (if followed.awaits = .replacement then followed else { followed with column.type := type }) :=
  alive.altered ({ · with type }) fun _ _ => rfl

/-- Another column takes its place. -/
theorem Alive.replaced (alive : Alive expanded data contract followed) {captured : List Token}
    (known : typeOf captured = some type) :
    Alive expanded (fun v => (data v).bind ColumnStep.mention)
      (fun v => (contract v).bind (ColumnStep.replace typeOf captured)) ⟨⟨type, true⟩, .replacement⟩ := by
  obtain ⟨changes, _, mentioned⟩ := alive.mention
  obtain ⟨-, awaited, -⟩ := alive
  obtain ⟨column, awaits⟩ := followed
  have ends : ((data (some expanded)).bind ColumnStep.mention).bind
      (fun v => (contract v).bind (ColumnStep.replace typeOf captured)) = some (some ⟨type, true⟩) := by
    rw [← Option.bind_assoc, mentioned]
    simp [ColumnStep.replace, known]
  cases awaits with
  | nothing => exact ⟨changes, ⟨by simp [awaited _, ColumnStep.replace],
      fun column => by simp [awaited _, ColumnStep.replace, known]⟩, ends⟩
  | change | replacement => exact ⟨changes, ⟨by simp [awaited.1],
      fun column => by simp [awaited.2, ColumnStep.replace, known]⟩, ends⟩

/-- A column that is dropped in CONTRACT. -/
theorem Alive.removed (alive : Alive expanded data contract followed) :
    (data (some expanded)).bind (fun v => (contract v).bind ColumnStep.remove) = some none := by
  rw [← Option.bind_assoc, alive.whole]
  rfl

/-- A column that is dropped in DATA is not found in CONTRACT. -/
theorem Alive.missed (alive : Alive expanded data contract followed) :
    ((data (some expanded)).bind ColumnStep.remove).bind contract =
      if followed.awaits = .nothing then some none else none := by
  obtain ⟨⟨keeps, changes⟩, awaited, -⟩ := alive
  obtain ⟨column, awaits⟩ := followed
  rw [changes]
  cases awaits with
  | nothing => simpa [ColumnStep.remove] using awaited none
  | change | replacement => simpa [ColumnStep.remove] using awaited.1

end Alive

/-- Under the name of a column that stands, the phases do what follows from the list. -/
theorem underName_alive {expanded : ColumnDef τ} {followed : FollowedColumn τ}
    (alive : Alive expanded data contract followed) (stood : standsAll name ops true = some there)
    (others : ∀ op ∈ ops, ∀ added ∈ op.added?, added.1 ≠ name)
    (known : ∀ op ∈ ops, ∀ added ∈ op.added?, (typeOf added.2).isSome) :
    underName typeOf name ops data contract (some expanded) =
      (followAll typeOf name ops (some followed)).map (·.map FollowedColumn.column) := by
  induction ops generalizing expanded data contract followed with
  | nil => simpa [underName_nil, followAll] using alive.whole
  | cons op rest ih =>
    obtain ⟨apart, elsewhere⟩ := List.forall_mem_cons.mp others
    obtain ⟨typed, knows⟩ := List.forall_mem_cons.mp known
    obtain ⟨still, first, stands⟩ := Option.bind_eq_some_iff.mp stood
    clear others known stood
    by_cases subject : op.subject? = some name
    case neg =>
      have spares : Spares name op := ⟨apart, subject⟩
      rw [stands_spares spares] at first
      cases first
      rw [underName_spares spares, followAll, follow_spared spares, Option.bind_some]
      exact ih alive stands elsewhere knows
    -- the operation is about the column
    rw [underName_cons, followAll]
    cases op with
    | add column type nullable => cases subject
    | drop column early =>
      cases subject
      have gone : still = false := by simpa [PlacedOp.stands, eq_comm] using first
      subst gone
      have spares := spared stands elsewhere
      simp only [follow, if_true, Option.bind_some]
      cases early with
      | false =>
        simp only [expandChanges, migrateChanges, contractChanges, along_nil, along_self, Option.bind_some,
          Option.bind_fun_some, underName_spared spares, alive.removed]
        simp [followAll_spared spares]
      | true =>
        simp only [expandChanges, migrateChanges, contractChanges, along_nil, along_self, Option.bind_some,
          Option.bind_fun_some, underName_spared spares, alive.missed]
        by_cases idle : followed.awaits = .nothing <;> simp [idle, followAll_spared spares]
    | rename oldCol newCol =>
      cases subject
      have gone : still = false := by simpa [PlacedOp.stands, eq_comm] using first
      subst gone
      have spares := spared stands elsewhere
      have fresh : newCol ≠ name := apart _ rfl
      simp only [expandChanges, migrateChanges, contractChanges, along_other fresh, along_second fresh, along_self,
        Option.bind_some, underName_spared spares, alive.mention.removed, follow, if_true]
      simp [followAll_spared spares]
    | retype column type =>
      cases subject
      have stays : still = true := by simpa [PlacedOp.stands, eq_comm] using first
      subst stays
      simp only [expandChanges, migrateChanges, contractChanges, along_nil, along_self, Option.bind_some,
        Option.bind_fun_some, follow, if_true, ColumnStep.retype]
      cases typeOf type with
      | none => rfl
      | some named => exact ih (alive.retyped named) stands elsewhere knows
    | replace column type captured =>
      cases subject
      have stays : still = true := by simpa [PlacedOp.stands, eq_comm] using first
      subst stays
      have other : name ++ "_v2" ≠ name := apart _ rfl
      obtain ⟨named, found⟩ := Option.isSome_iff_exists.mp (typed _ rfl)
      have found : typeOf captured = some named := found
      simp only [expandChanges, migrateChanges, contractChanges, along_other other, along_second other,
        along_first other, Option.bind_some, follow, if_true, found, Option.map_some]
      exact ih (alive.replaced found) stands elsewhere knows
    | setNotNull column phase =>
      cases subject
      have stays : still = true := by simpa [PlacedOp.stands, eq_comm] using first
      subst stays
      cases phase with
      | EXPAND =>
        simp only [expandChanges, migrateChanges, contractChanges, along_nil, along_self, Option.bind_some,
          Option.bind_fun_some, follow, if_true, ColumnStep.setNotNull, true_or, Option.map_some]
        exact ih alive.expandNotNull stands elsewhere knows
      | DATA =>
        simp only [expandChanges, migrateChanges, contractChanges, along_nil, along_self, Option.bind_some,
          Option.bind_fun_some, follow, if_true, or_true, Option.map_some]
        exact ih alive.dataNotNull stands elsewhere knows
      | _ =>
        simp only [expandChanges, migrateChanges, contractChanges, along_nil, along_self, Option.bind_some,
          Option.bind_fun_some, follow, if_true, reduceCtorEq, or_self, if_false, Option.map_some]
        exact ih alive.contractNotNull stands elsewhere knows

/-- A column as EXPAND finds or adds it. -/
theorem Alive.begin (column : ColumnDef τ) : Alive column some some ⟨column, .nothing⟩ :=
  ⟨⟨true, fun column => by simp⟩, fun _ => rfl, rfl⟩

/-- Under a name that does not stand at the start. -/
theorem underName_absent (stood : standsAll name ops false = some there)
    (distinct : ((ops.filterMap added?).map Prod.fst).Nodup)
    (known : ∀ op ∈ ops, ∀ added ∈ op.added?, (typeOf added.2).isSome) :
    underName typeOf name ops some some none =
      (followAll typeOf name ops none).map (·.map FollowedColumn.column) := by
  induction ops with
  | nil => rfl
  | cons op rest ih =>
    obtain ⟨typed, knows⟩ := List.forall_mem_cons.mp known
    obtain ⟨still, first, stands⟩ := Option.bind_eq_some_iff.mp stood
    have apart : op.subject? ≠ some name := by
      intro same
      cases op <;> cases same <;> simp [PlacedOp.stands] at first
    cases added : op.added? with
    | none =>
      have spares : Spares name op := ⟨by simp [added], apart⟩
      rw [stands_spares spares] at first
      cases first
      rw [List.filterMap_cons_none added] at distinct
      rw [underName_spares spares, followAll, follow_spared spares, Option.bind_some]
      exact ih stands distinct knows
    | some entry =>
      rw [List.filterMap_cons_some added, List.map_cons, List.nodup_cons] at distinct
      by_cases same : entry.1 = name
      case neg =>
        have spares : Spares name op := ⟨by simpa [added] using same, apart⟩
        rw [stands_spares spares] at first
        cases first
        rw [underName_spares spares, followAll, follow_spared spares, Option.bind_some]
        exact ih stands distinct.2 knows
      -- EXPAND adds the column here
      have elsewhere : ∀ op ∈ rest, ∀ added ∈ op.added?, added.1 ≠ name := by
        intro other member found finds again
        refine distinct.1 (List.mem_map.mpr ⟨found, List.mem_filterMap.mpr ⟨other, member, finds⟩, ?_⟩)
        rw [again, same]
      obtain ⟨named, found⟩ := Option.isSome_iff_exists.mp (typed entry added)
      rw [underName_cons, followAll]
      cases op with
      | add column type nullable =>
        cases added
        cases same
        have found : typeOf type = some named := found
        have stays : still = true := by simpa [PlacedOp.stands, eq_comm] using first
        subst stays
        simp only [expandChanges, migrateChanges, contractChanges, along_nil, along_self, Option.bind_some,
          ColumnStep.create, follow, follow.begins, if_true, found, Option.map_some]
        exact underName_alive (.begin _) stands elsewhere knows
      | rename oldCol newCol =>
        cases added
        cases same
        have found : typeOf varchar = some named := found
        have other : oldCol ≠ newCol := fun same => apart (congrArg some same)
        have stays : still = true := by simpa [PlacedOp.stands, eq_comm, other] using first
        subst stays
        simp only [expandChanges, migrateChanges, contractChanges, along_other other, along_first other, along_self,
          Option.bind_some,
          ColumnStep.create, follow, follow.begins, if_true, other, if_false, found, Option.map_some]
        exact underName_alive (Alive.begin _).mention stands elsewhere knows
      | replace column type captured =>
        cases added
        cases same
        have found : typeOf captured = some named := found
        have other : column ≠ column ++ "_v2" := fun same => apart (congrArg some same)
        have gone : still = false := by simpa [PlacedOp.stands, eq_comm, other] using first
        subst gone
        have spares := spared stands elsewhere
        simp only [expandChanges, migrateChanges, contractChanges, along_first other, along_second other, along_self,
          Option.bind_some, ColumnStep.create, found, Option.map_some, follow, if_neg other,
          underName_spared spares, followAll_spared spares]
        rfl
      | _ => cases added

end PlacedOp

end DriverMicroServices
