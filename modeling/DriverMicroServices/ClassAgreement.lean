import DriverMicroServices.RuntimeClasses
import DriverMicroServices.SplitMeaning

/-! Three classifications of one statement. The engine and the runtime have rules of their own, and the
splitter chooses a phase by its own patterns. -/
namespace DriverMicroServices.SchemaClassification
open Texts.Regex Texts.Regex.Pattern Texts.Tokens LifecycleSplitter

/-! ## What a statement does -/

/-- A parenthesis, and then one of the words. -/
def opensWith (list : List String) : List Token → Bool
  | .symbol '(' :: .word text :: rest => text ∈ list || opensWith list rest
  | _ :: rest => opensWith list rest
  | [] => false

def mutations : List String := ["UPDATE", "INSERT", "DELETE"]

/-- The statement is an `UPDATE`, an `INSERT` or a `DELETE`. -/
def isMutation (statement : List Token) : Bool := (verb statement).any (· ∈ mutations)

/-- The statement works on rows, in itself or in a query before it. -/
def isRowLevel (statement : List Token) : Bool :=
  (verb statement).any (· ∈ mutations ++ ["MERGE", "COPY"]) ||
    begins ["WITH"] statement && opensWith (mutations ++ ["MERGE"]) statement

/-! ## What agrees -/

/-- The splitter puts other statements in the place of the operation. -/
def Rewrites (typeMap : TypeMap) (operation : SchemaOperation) : Prop :=
  (place typeMap operation).safe ++ (place typeMap operation).data ++ (place typeMap operation).breaking ≠ [operation]

/-- The three classifications of the statement agree with each other and with what it does. -/
structure Agree (upper : UpperCase) (typeMap : TypeMap) (operation : SchemaOperation) : Prop where
  same : (classifyOperation upper operation.sql).category = (classifySqlStatement operation.sql).1
  mutation : isMutation (tokens operation.sql) →
    (classifyOperation upper operation.sql).category = .DATA ∧ (classifySqlStatement operation.sql).1 = .DATA
  rowLevel : (classifyOperation upper operation.sql).category = .DATA ∨ (classifySqlStatement operation.sql).1 = .DATA →
    isRowLevel (tokens operation.sql)
  contract : (classifySqlStatement operation.sql).1 = .BREAKING → ¬ Rewrites typeMap operation →
    place typeMap operation = { breaking := [operation] }

/-! ## The condition -/

/-- One of the rules matches. -/
def reads (rules : List SqlRule) (sql : String) : Bool := rules.any fun rule => rule.pattern.test sql

/-- The rules for breaking statements that engine and runtime share. -/
def breakingRules : List SqlRule := rules.take 3

def dataRules : List SqlRule := (rules.drop 3).take 4

/-- Those that only the engine has. -/
def engineRules : List SqlRule := (SqlRule.all.drop 2).take 5

/-- The shared rules say the same of the statement and of its text in capitals. -/
def SameReading (upper : UpperCase) (sql : String) : Prop :=
  (reads breakingRules sql → reads breakingRules (upper.text sql)) ∧
    (reads breakingRules (upper.text sql) → reads breakingRules sql ∨ reads engineRules sql) ∧
    (reads breakingRules (upper.text sql) ∨ reads dataRules (upper.text sql) = reads dataRules sql)

/-- The splitter leaves the statement as it is, in one of the first two phases: it finds a kind of
statement but not its names, or words of an addition or of a statement on rows. -/
def staysEarly (sql : String) : Bool :=
  if isNotNullViolation sql then (readWithTable SplitPattern.addedColumn sql).isNone
  else if isColumnRename sql then (readWithTable SplitPattern.renamedColumn sql).isNone
  else if isTypeChange sql then (readWithTable SplitPattern.retypedColumn sql).isNone
  else if isEnumIndexDependency sql then !rebuildsEnum sql
  else SplitPattern.additive.test sql && !SplitPattern.notNull.test sql || SplitPattern.rowLevel.test sql

/-- What a statement must be like for the classifications to agree. -/
structure Plain (upper : UpperCase) (sql : String) : Prop where
  known : reads engineRules sql → reads breakingRules (upper.text sql)
  capitals : (∀ c ∈ sql.toList, upper.keeps c) ∨ SameReading upper sql
  mutation : isMutation (tokens sql) → reads dataRules sql ∧ ¬ reads breakingRules sql ∧ ¬ reads engineRules sql
  rowLevel : reads dataRules sql → isRowLevel (tokens sql) ∨ reads breakingRules sql ∨ reads engineRules sql
  contract : reads breakingRules sql ∨ reads engineRules sql → staysEarly sql = false

/-! ## The text in capitals -/

section Capitals

variable {upper : UpperCase} {sql : String}

theorem text_kept (kept : ∀ c ∈ sql.toList, upper.keeps c) :
    upper.text sql = String.ofList (strip (sql.toList.map upper.capital)) := by
  apply String.toList_injective
  rw [UpperCase.text, MigrationGenerator.toList_trim, String.toList_ofList, String.toList_ofList,
    UpperCase.chars_kept kept, strip]

private theorem test_kept {pattern : Pattern} (kept : ∀ c ∈ sql.toList, upper.keeps c)
    (respects : pattern.Respects upper.capital) (free : pattern.loose) (opens : Opens pattern)
    (closes : Closes pattern) : pattern.test (upper.text sql) = pattern.test sql := by
  rw [text_kept kept, test_strip free opens closes, test_map respects, String.ofList_toList]

theorem test_kept_line {pattern : Pattern} (kept : ∀ c ∈ sql.toList, upper.keeps c)
    (respects : pattern.Respects upper.capital) (free : pattern.loose) (opens : Opens pattern)
    (closes : Closes pattern) :
    (SqlRule.atLine pattern).test (upper.text sql) = (SqlRule.atLine pattern).test sql := by
  have alike := upper.alike_capital
  have line : (SqlRule.atLine pattern).Respects upper.capital := ⟨alike.lineEnd, alike.space, respects⟩
  rw [text_kept kept, SqlRule.atLine, test_strip_line free opens closes, ← SqlRule.atLine, test_map line,
    String.ofList_toList]

/-- Two words of a breaking statement. -/
theorem test_kept_whole (kept : ∀ c ∈ sql.toList, upper.keeps c) {first second : String} {next : Pattern}
    (plain : [first, second].all fun word => word.toList.all (·.val < 128))
    (dark : first.toList.head?.any fun c => !isSpace c.toLower) (respects : next.Respects upper.capital)
    (free : next.loose) (closes : Closes (Pattern.text second (seq boundary next))) :
    (SqlRule.whole [first, second] next).test (upper.text sql) = (SqlRule.whole [first, second] next).test sql := by
  have alike := upper.alike_capital
  refine test_kept kept ⟨alike.word, respects_words alike plain ⟨alike.word, respects⟩⟩ ?_ ?_ ?_
  · exact (loose_words [first, second]).trans free
  · exact opens_boundary (opens_text dark)
  · exact closes_seq (closes_text (closes_seq closes))

/-- Shared rules for breaking statements match the text in capitals just where they match the text. -/
theorem reads_breaking_kept (kept : ∀ c ∈ sql.toList, upper.keeps c) :
    reads breakingRules (upper.text sql) = reads breakingRules sql := by
  have alike := upper.alike_capital
  have tables : (SqlRule.whole ["DROP", "TABLE"] empty).test (upper.text sql) = _ :=
    test_kept_whole kept (by decide) (by decide) (fun _ => rfl) rfl (closes_text_word (by decide))
  have columns : (SqlRule.whole ["DROP", "COLUMN"] empty).test (upper.text sql) = _ :=
    test_kept_whole kept (by decide) (by decide) (fun _ => rfl) rfl (closes_text_word (by decide))
  have dots (c : Char) : isDot (upper.capital c) = isDot c := congrArg Bool.not (alike.lineEnd c)
  have types : (SqlRule.whole ["ALTER", "COLUMN"] (seq (many isDot) (Pattern.text "TYPE" (seq boundary empty)))).test
      (upper.text sql) = _ :=
    test_kept_whole kept (by decide) (by decide)
      ⟨dots, respects_text alike (by decide) ⟨alike.word, fun _ => rfl⟩⟩ (loose_text "TYPE")
      (closes_text (closes_seq (closes_seq (closes_text_word (by decide)))))
  simp only [reads, breakingRules, rules, List.take, List.any_cons, List.any_nil, tables, columns, types]

theorem reads_data_kept (kept : ∀ c ∈ sql.toList, upper.keeps c) :
    reads dataRules (upper.text sql) = reads dataRules sql := by
  have alike := upper.alike_capital
  have letter := dark_one fun c (word : isWord c) => Bool.eq_false_iff.mpr fun blank =>
    Bool.false_ne_true ((not_isWord_of_isSpace blank).symm.trans word)
  have named {word : String} (plain : word.toList.all (·.val < 128))
      (dark : word.toList.head?.any fun c => !isSpace c.toLower) :
      (SqlRule.atLine (Pattern.text word (seq (plus isSpace) (one isWord)))).test (upper.text sql) =
        (SqlRule.atLine (Pattern.text word (seq (plus isSpace) (one isWord)))).test sql := by
    have respects : (Pattern.text word (seq (plus isSpace) (one isWord))).Respects upper.capital :=
      respects_text alike plain ⟨⟨alike.space, alike.space⟩, alike.word⟩
    exact test_kept_line kept respects (loose_text word) (opens_text dark) (closes_text (closes_seq letter.2))
  have paired {word second : String} (plain : [word, second].all fun word => word.toList.all (·.val < 128))
      (dark : word.toList.head?.any fun c => !isSpace c.toLower)
      (dark' : second.toList.getLast?.any fun c => !isSpace c.toLower) :
      (SqlRule.atLine (words [word, second] (seq boundary empty))).test (upper.text sql) =
        (SqlRule.atLine (words [word, second] (seq boundary empty))).test sql := by
    have respects : (words [word, second] (seq boundary empty)).Respects upper.capital :=
      respects_words alike plain ⟨alike.word, fun _ => rfl⟩
    exact test_kept_line kept respects (loose_words [word, second]) (opens_text dark)
      (closes_text (closes_seq (closes_text_word dark')))
  have updates := @named "UPDATE" (by decide) (by decide)
  have inserts := @paired "INSERT" "INTO" (by decide) (by decide) (by decide)
  have deletes := @paired "DELETE" "FROM" (by decide) (by decide) (by decide)
  have copies := @named "COPY" (by decide) (by decide)
  simp only [reads, dataRules, rules, List.take, List.drop, List.any_cons, List.any_nil, updates, inserts, deletes, copies]

private theorem sameReading_of_kept (kept : ∀ c ∈ sql.toList, upper.keeps c) : SameReading upper sql := by
  refine ⟨fun found => ?_, fun found => .inl ?_, .inr (reads_data_kept kept)⟩
  · rwa [reads_breaking_kept kept]
  · rwa [reads_breaking_kept kept] at found

end Capitals

/-! ## The categories -/

/-- Rules in the order of their categories. -/
theorem category_ordered {breaking data safe : List SqlRule} (sql : String)
    (ordered : ∀ rule ∈ breaking, rule.category = .BREAKING) (ordered' : ∀ rule ∈ data, rule.category = .DATA)
    (ordered'' : ∀ rule ∈ safe, rule.category = .SAFE) :
    (((breaking ++ (data ++ safe)).find? fun rule => rule.pattern.test sql).map (·.category)).getD .SAFE =
      if reads breaking sql then .BREAKING else if reads data sql then .DATA else .SAFE := by
  have found {list : List SqlRule} {category : SqlCategory} (all : ∀ rule ∈ list, rule.category = category) :
      (list.find? fun rule => rule.pattern.test sql).map (·.category) = if reads list sql then some category else none := by
    cases first : list.find? fun rule => rule.pattern.test sql with
    | none =>
      have unread : reads list sql = false := by
        simpa [reads] using first
      simp [unread]
    | some rule =>
      have member := List.mem_of_find?_eq_some first
      have here : rule.pattern.test sql := by simpa using List.find?_some first
      have read : reads list sql = true := List.any_eq_true.mpr ⟨rule, member, here⟩
      simp [read, all rule member]
  rw [List.find?_append, List.find?_append, Option.map_or, Option.map_or, found ordered, found ordered', found ordered'']
  cases reads breaking sql <;> cases reads data sql <;> cases reads safe sql <;> rfl

section Category

variable {breaking data breaking' data' : Prop} [Decidable breaking] [Decidable data] [Decidable breaking']
  [Decidable data']

theorem category_breaking_iff :
    (if breaking then SqlCategory.BREAKING else if data then .DATA else .SAFE) = .BREAKING ↔ breaking := by
  by_cases breaking <;> by_cases data <;> simp [*]

private theorem category_data_iff :
    (if breaking then SqlCategory.BREAKING else if data then .DATA else .SAFE) = .DATA ↔ ¬ breaking ∧ data := by
  by_cases breaking <;> by_cases data <;> simp [*]

private theorem category_eq_iff :
    ((if breaking then SqlCategory.BREAKING else if data then .DATA else .SAFE) =
        if breaking' then .BREAKING else if data' then .DATA else .SAFE) ↔
      (breaking ↔ breaking') ∧ (¬ breaking → (data ↔ data')) := by
  by_cases breaking <;> by_cases data <;> by_cases breaking' <;> by_cases data' <;> simp [*]

end Category

private theorem classifyOperation_category (upper : UpperCase) (sql : String) :
    (classifyOperation upper sql).category =
      if reads breakingRules (upper.text sql) then .BREAKING
      else if reads dataRules (upper.text sql) then .DATA else .SAFE := by
  have ordered := @category_ordered breakingRules dataRules (rules.drop 7) (upper.text sql) (by decide) (by decide)
    (by decide)
  rw [← ordered]
  show _ = ((rules.find? fun rule => rule.pattern.test (upper.text sql)).map (·.category)).getD .SAFE
  unfold classifyOperation
  cases rules.find? fun rule => rule.pattern.test (upper.text sql) <;> rfl

theorem classifySqlStatement_category (sql : String) :
    (classifySqlStatement sql).1 =
      if reads breakingRules sql ∨ reads engineRules sql then .BREAKING
      else if reads dataRules sql then .DATA else .SAFE := by
  have ordered := @category_ordered (SqlRule.all.take 8) dataRules (SqlRule.all.drop 12) sql (by decide) (by decide)
    (by decide)
  have breaking : reads (SqlRule.all.take 8) sql ↔ reads breakingRules sql ∨ reads engineRules sql := by
    -- the engine's own rules stand between the shared ones
    have between : reads (SqlRule.all.take 8) sql =
        reads (breakingRules.take 2 ++ (engineRules ++ breakingRules.drop 2)) sql := rfl
    have shared : reads breakingRules sql = reads (breakingRules.take 2 ++ breakingRules.drop 2) sql := rfl
    rw [between, shared]
    simp only [reads, List.any_append, Bool.or_eq_true, or_assoc]
    rw [or_left_comm, or_comm (b := engineRules.any _ = true), or_left_comm]
  rw [← if_congr breaking rfl rfl, ← ordered]
  show _ = ((SqlRule.all.find? fun rule => rule.pattern.test sql).map (·.category)).getD .SAFE
  unfold classifySqlStatement
  cases SqlRule.all.find? fun rule => rule.pattern.test sql <;> rfl

/-! ## The phase -/

section Phase

variable {typeMap : TypeMap} {operation : SchemaOperation}

/-- A rewrite leaves the operation as it is, where it reads no names. Otherwise there are several operations. -/
def Rewritten (unread : Bool) (operation : SchemaOperation) (set : MigrationLifecycleSet) : Prop :=
  if unread then set = asItIs operation else 1 < (set.safe ++ set.data ++ set.breaking).length

private theorem rewriteNotNull_rewritten (operation : SchemaOperation) :
    Rewritten (readWithTable SplitPattern.addedColumn operation.sql).isNone operation
      (rewriteNotNullViolation operation) := by
  unfold rewriteNotNullViolation
  cases found : readWithTable SplitPattern.addedColumn operation.sql with
  | none => exact (rfl : asItIs operation = asItIs operation)
  | some names =>
    obtain ⟨table, captures⟩ := names
    obtain ⟨-, column, type, rfl, -⟩ := addedColumn_sound found
    simp [Rewritten]

private theorem rewriteRename_rewritten (typeMap : TypeMap) (operation : SchemaOperation) :
    Rewritten (readWithTable SplitPattern.renamedColumn operation.sql).isNone operation
      (rewriteColumnRename typeMap operation) := by
  unfold rewriteColumnRename
  cases found : readWithTable SplitPattern.renamedColumn operation.sql with
  | none => exact (rfl : asItIs operation = asItIs operation)
  | some names =>
    obtain ⟨table, captures⟩ := names
    obtain ⟨-, oldCol, newCol, rfl, -⟩ := renamedColumn_sound found
    simp [Rewritten]

private theorem rewriteType_rewritten (operation : SchemaOperation) :
    Rewritten (readWithTable SplitPattern.retypedColumn operation.sql).isNone operation
      (rewriteTypeChange operation) := by
  unfold rewriteTypeChange
  cases found : readWithTable SplitPattern.retypedColumn operation.sql with
  | none => exact (rfl : asItIs operation = asItIs operation)
  | some names =>
    obtain ⟨table, captures⟩ := names
    obtain ⟨-, column, newType, rfl, -⟩ := retypedColumn_sound found
    simp [Rewritten]

private theorem rewriteEnum_rewritten (operation : SchemaOperation) :
    Rewritten (!rebuildsEnum operation.sql) operation (rewriteEnumIndexDependency operation) := by
  rcases rewriteEnum_cases operation with ⟨stays, same⟩ | ⟨rebuilt, enumType, word, same⟩
  · rw [stays, same]
    exact (rfl : asItIs operation = asItIs operation)
  · rw [rebuilt, same]
    simp [Rewritten, aroundIndexes]

/-- The operation stays as it is in one of the first two phases, or it goes to the last one, or other
operations replace it. -/
theorem place_cases (typeMap : TypeMap) (operation : SchemaOperation) :
    if staysEarly operation.sql then
      place typeMap operation = { safe := [operation] } ∨ place typeMap operation = { data := [operation] }
    else place typeMap operation = { breaking := [operation] } ∨ Rewrites typeMap operation := by
  have placed {unread : Bool} {set : MigrationLifecycleSet} (same : place typeMap operation = set)
      (rewritten : Rewritten unread operation set) :
      if unread then
        place typeMap operation = { safe := [operation] } ∨ place typeMap operation = { data := [operation] }
      else place typeMap operation = { breaking := [operation] } ∨ Rewrites typeMap operation := by
    cases unread with
    | true => exact .inl (same.trans rewritten)
    | false =>
      refine .inr fun alone => ?_
      have more : 1 < (set.safe ++ set.data ++ set.breaking).length := rewritten
      rw [← same, alone] at more
      exact absurd more (Nat.lt_irrefl 1)
  unfold staysEarly
  split
  · rename_i violation
    exact placed (if_pos violation) (rewriteNotNull_rewritten operation)
  · rename_i violation
    split
    · rename_i rename
      refine placed ?_ (rewriteRename_rewritten typeMap operation)
      rw [place, if_neg violation, if_pos rename]
    · rename_i rename
      split
      · rename_i retyped
        refine placed ?_ (rewriteType_rewritten operation)
        rw [place, if_neg violation, if_neg rename, if_pos retyped]
      · rename_i retyped
        split
        · rename_i enum
          refine placed ?_ (rewriteEnum_rewritten operation)
          rw [place, if_neg violation, if_neg rename, if_neg retyped, if_pos enum]
        · rename_i enum
          rw [place, if_neg violation, if_neg rename, if_neg retyped, if_neg enum, classify]
          cases SplitPattern.additive.test operation.sql && !SplitPattern.notNull.test operation.sql <;>
            cases SplitPattern.rowLevel.test operation.sql <;> simp

end Phase

/-! ## When they agree -/

/-- The classifications agree on a statement if and only if it is plain. -/
theorem classifiers_agree_iff (upper : UpperCase) (typeMap : TypeMap) (operation : SchemaOperation) :
    Agree upper typeMap operation ↔ Plain upper operation.sql := by
  have runtime := classifyOperation_category upper operation.sql
  have engine := classifySqlStatement_category operation.sql
  have placed := place_cases typeMap operation
  have same : (classifyOperation upper operation.sql).category = (classifySqlStatement operation.sql).1 ↔
      (reads breakingRules (upper.text operation.sql) ↔
          reads breakingRules operation.sql ∨ reads engineRules operation.sql) ∧
        (reads breakingRules (upper.text operation.sql) ∨
          reads dataRules (upper.text operation.sql) = reads dataRules operation.sql) := by
    rw [runtime, engine, category_eq_iff, ← Bool.eq_iff_iff, ← or_iff_not_imp_left]
  have breaking : (classifySqlStatement operation.sql).1 = .BREAKING ↔
      reads breakingRules operation.sql ∨ reads engineRules operation.sql := by
    rw [engine]
    exact category_breaking_iff
  have data : (classifySqlStatement operation.sql).1 = .DATA ↔
      ¬ (reads breakingRules operation.sql ∨ reads engineRules operation.sql) ∧ reads dataRules operation.sql := by
    rw [engine]
    exact category_data_iff
  constructor
  · intro agree
    obtain ⟨both, rows⟩ := same.mp agree.same
    refine ⟨fun own => both.mpr (.inr own), .inr ⟨fun shared => both.mpr (.inl shared), both.mp, rows⟩, ?_, ?_, ?_⟩
    · intro mutation
      obtain ⟨unbroken, found⟩ := data.mp (agree.mutation mutation).2
      exact ⟨found, not_or.mp unbroken⟩
    · intro found
      by_cases broken : reads breakingRules operation.sql ∨ reads engineRules operation.sql
      · exact .inr broken
      · exact .inl (agree.rowLevel (.inr (data.mpr ⟨broken, found⟩)))
    · intro broken
      by_contra early
      rw [Bool.not_eq_false] at early
      rw [if_pos early] at placed
      have stays : ¬ Rewrites typeMap operation := by
        rcases placed with placed | placed <;> simp [Rewrites, placed]
      have last := agree.contract (breaking.mpr broken) stays
      rcases placed with placed | placed <;> simp [last] at placed
  · intro plain
    have capitals : SameReading upper operation.sql := plain.capitals.elim sameReading_of_kept id
    have agreed := same.mpr ⟨⟨capitals.2.1, fun broken => broken.elim capitals.1 plain.known⟩, capitals.2.2⟩
    refine ⟨agreed, fun mutation => ?_, fun found => ?_, fun broken stays => ?_⟩
    · obtain ⟨found, shared, own⟩ := plain.mutation mutation
      have row := data.mpr ⟨not_or.mpr ⟨shared, own⟩, found⟩
      exact ⟨agreed.trans row, row⟩
    · obtain ⟨unbroken, found⟩ := data.mp (found.elim agreed.symm.trans id)
      exact (plain.rowLevel found).resolve_right unbroken
    · rw [plain.contract (breaking.mp broken), if_neg Bool.false_ne_true] at placed
      exact placed.resolve_right stays

def given (sql : String) : SchemaOperation where
  sql := sql
  category := .SAFE
  reason := ""

/-- The runtime does not know `DROP TYPE`, both miss an `UPDATE` of a quoted table, and a change of type
without quotes is breaking for both and stays in the first phase. -/
theorem classifiers_disagree :
    let drop := given "DROP TYPE \"mood\""
    let update := given "UPDATE \"users\" SET \"active\" = true"
    let retype := given "ALTER TABLE users ALTER COLUMN name TYPE text"
    ((classifySqlStatement drop.sql).1 = .BREAKING ∧ (classifyOperation .basic drop.sql).category = .SAFE ∧
        ¬ Agree .basic [] drop) ∧
      ((classifySqlStatement update.sql).1 = .SAFE ∧ (classifyOperation .basic update.sql).category = .SAFE ∧
        ¬ Agree .basic [] update) ∧
      (classifySqlStatement retype.sql).1 = .BREAKING ∧ place [] retype = { safe := [retype] } ∧
        ¬ Agree .basic [] retype := by
  intro drop update retype
  have dropped : (classifySqlStatement drop.sql).1 = .BREAKING := by decide
  have unknown : (classifyOperation .basic drop.sql).category = .SAFE := by decide
  have missed : (classifySqlStatement update.sql).1 = .SAFE := by decide
  have missed' : (classifyOperation .basic update.sql).category = .SAFE := by decide
  have retyped : (classifySqlStatement retype.sql).1 = .BREAKING := by decide
  have early : place [] retype = { safe := [retype] } := by decide
  refine ⟨⟨dropped, unknown, fun agree => ?_⟩, ⟨missed, missed', fun agree => ?_⟩, retyped, early, fun agree => ?_⟩
  · exact absurd (unknown.symm.trans (agree.same.trans dropped)) (by decide)
  · have row := (agree.mutation (by decide)).2
    exact absurd (missed.symm.trans row) (by decide)
  · have last := agree.contract retyped (by simp [Rewrites, early])
    rw [early] at last
    cases last

end DriverMicroServices.SchemaClassification
