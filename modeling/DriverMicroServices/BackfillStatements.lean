import DriverMicroServices.BackfillWorkers

/-! What a backfill job stores and what the worker executes of it. The planner stores the whole
statement, and the worker puts the stored text after the `SET` of a statement of its own. Only a job
whose estimate is 0 is completed, without a batch. -/
namespace DriverMicroServices.Backfill
open Texts.Regex Texts.Regex.Pattern Texts.Tokens

def batchOpening (tableName : String) : String :=
  "WITH batch AS (\n" ++ "SELECT id\n" ++ "FROM \"" ++ tableName ++ "\"\n" ++
    "WHERE id > $1\n" ++ "ORDER BY id\n" ++ "LIMIT $2\n" ++ ")\n" ++
    "UPDATE \"" ++ tableName ++ "\" t\n" ++ "SET "

def batchEnding : String :=
  "\nFROM batch\nWHERE t.id = batch.id\nRETURNING t.id\n"

/-- The statement of `executeBatchWithAtomicCheckpoint`, without the white space before its lines. -/
def batchStatement (job : BackfillJob) : String := batchOpening job.tableName ++ job.sqlStatement ++ batchEnding

/-- A list of columns, or a column and then an assignment, a field or an index. -/
def beginsTarget : List Token → Bool
  | .symbol c :: _ => c = '('
  | _ :: .symbol c :: _ => c ∈ ['=', '.', '[']
  | _ => false

/-- The database, for one table with rows of any kind. A statement that does not parse is refused, and
what comes after the `SET` of an `UPDATE` with a query before it is a target of an assignment. -/
structure Postgres (Row : Type) where
  parses : List Token → Bool
  /-- The rows after the statement and the ids that it returns; `$1` and `$2` are the two numbers. -/
  execute : List Token → Option Int → Nat → List Row → Option (List Row × List Int)
  refuses : ∀ statement lastProcessedId batchSize rows, parses statement = false →
    execute statement lastProcessedId batchSize rows = none
  target : ∀ name query table rest, (∀ token ∈ query, token ≠ .symbol '(' ∧ token ≠ .symbol ')') →
    parses ([.word "WITH", name, .word "AS", .symbol '('] ++ query ++
      [.symbol ')', .word "UPDATE", .name table, .word "T", .word "SET"] ++ rest) = true → beginsTarget rest = true

/-- An `UPDATE` of a table. -/
def isUpdate : List Token → Bool
  | .word "UPDATE" :: rest =>
    match readName (skip ["ONLY"] rest) with
    | some (_, rest) => mentions ["SET"] (outer rest)
    | none => false
  | _ => false

section Statement

variable {Row : Type}

/-- The loop of the worker with batches of these sizes, until the count has reached the estimate or a
batch counts no row. A batch that is refused each time fails the job. -/
def runBatches (pg : Postgres Row) (job : BackfillJob) : List Nat → Nat → Option Int → List Row → Option (List Row)
  | sizes, processedRows, lastProcessedId, rows =>
    if processedRows < job.totalRows then
      match sizes with
      | [] => none
      | batchSize :: sizes => do
        let (after, ids) ← pg.execute (tokens (batchStatement job)) lastProcessedId batchSize rows
        let result := batchResult lastProcessedId ids
        if result.processedRows = 0 then some after
        else runBatches pg job sizes (processedRows + result.processedRows) result.lastProcessedId after
    else some rows

/-- Each batch that the worker executes is a statement, and all batches do to the rows of the table what
the stored statement does. -/
structure Faithful (pg : Postgres Row) (job : BackfillJob) (rows : List Row) : Prop where
  valid : job.processedRows < job.totalRows → pg.parses (tokens (batchStatement job)) = true
  effect : ∀ sizes, (∀ batchSize ∈ sizes, 0 < batchSize) → job.totalRows ≤ sizes.length →
    runBatches pg job sizes job.processedRows job.lastProcessedId rows =
      (pg.execute (tokens job.sqlStatement) none 0 rows).map (·.1)

/-! ## What is stored -/

variable {rows : String → Nat} {migrationId sql table : String} {plan : MigrationExecutionPlan} {job : BackfillJob}

private theorem extractTableName_unquoted (found : extractTableName sql = some table) : Unquoted table := by
  obtain ⟨captures, named, rfl⟩ := Option.map_eq_some_iff.mp found
  obtain ⟨list, -, searched⟩ := List.exists_of_findSome?_eq_some named
  have parsed := search_sound searched
  simp only [namedAfter, bareName, captures_words, captures_plus] at parsed
  obtain ⟨early, late, rfl, quote, parsed⟩ := parsed
  have silent : early = [] := by
    rcases quote with none | none <;> exact none
  rw [captures_group_plus] at parsed
  obtain ⟨text, rest, rfl, ⟨-, all⟩, -⟩ := parsed
  subst silent
  intro quoted
  exact absurd (all '"' quoted) (by decide)

/-- A job stores the statement of an operation, and a table without quotes. -/
theorem createBackfillJobs_stored (made : job ∈ createBackfillJobs rows migrationId plan) :
    (∃ phase ∈ plan.phases, ∃ operation ∈ phase.operations, operation.category = .DATA ∧
      job.sqlStatement = operation.sql) ∧ Unquoted job.tableName := by
  obtain ⟨phase, inPlan, made⟩ := List.mem_flatMap.mp made
  obtain ⟨operation, inPhase, made⟩ := List.mem_filterMap.mp made
  unfold backfillJob at made
  split at made
  · rename_i data
    obtain ⟨table, named, rfl⟩ := Option.map_eq_some_iff.mp made
    exact ⟨⟨phase, (List.mem_filter.mp inPlan).1, operation, inPhase, data, rfl⟩, extractTableName_unquoted named⟩
  · cases made

/-! ## What is executed -/

/-- What stands between the parentheses. -/
def batchQuery (tableName : String) : List Token :=
  [.word "SELECT", .word "ID", .word "FROM", .name tableName, .word "WHERE", .word "ID", .symbol '>', .word "$1",
    .word "ORDER", .word "BY", .word "ID", .word "LIMIT", .word "$2"]

private theorem lex_batchOpening (clean : Unquoted table) (rest : List Char) :
    lex .plain ((batchOpening table).toList ++ rest) =
      [.word "WITH", .word "BATCH", .word "AS", .symbol '('] ++ batchQuery table ++
        [.symbol ')', .word "UPDATE", .name table, .word "T", .word "SET"] ++ lex .plain rest := by
  have opening : scan .plain "WITH batch AS (\n".toList =
      ([.word "WITH", .word "BATCH", .word "AS", .symbol '('], .plain) := rfl
  have select : scan .plain "SELECT id\n".toList = ([.word "SELECT", .word "ID"], .plain) := rfl
  have source : scan .plain "FROM \"".toList = ([.word "FROM"], .name []) := rfl
  have named (r : List Char) : scan (.name r) "\"\n".toList = ([.name (spelled r)], .plain) := rfl
  have cursor : scan .plain "WHERE id > $1\n".toList =
      ([.word "WHERE", .word "ID", .symbol '>', .word "$1"], .plain) := rfl
  have order : scan .plain "ORDER BY id\n".toList = ([.word "ORDER", .word "BY", .word "ID"], .plain) := rfl
  have limit : scan .plain "LIMIT $2\n".toList = ([.word "LIMIT", .word "$2"], .plain) := rfl
  have closing : scan .plain ")\n".toList = ([.symbol ')'], .plain) := rfl
  have update : scan .plain "UPDATE \"".toList = ([.word "UPDATE"], .name []) := rfl
  have aliased (r : List Char) : scan (.name r) "\" t\n".toList = ([.name (spelled r), .word "T"], .plain) := rfl
  have set : scan .plain "SET ".toList = ([.word "SET"], .plain) := rfl
  unfold batchOpening
  simp only [String.toList_append, List.append_assoc, lex_append, opening, select, source, named, cursor,
    order, limit, closing, update, aliased, set, scan_name clean, List.append_nil, spelled_reverse, batchQuery,
    List.cons_append, List.nil_append, -String.reduceAppend]

/-- The stored text comes right after `SET`. -/
theorem tokens_batchStatement (clean : Unquoted job.tableName) :
    tokens (batchStatement job) = [.word "WITH", .word "BATCH", .word "AS", .symbol '('] ++ batchQuery job.tableName ++
      [.symbol ')', .word "UPDATE", .name job.tableName, .word "T", .word "SET"] ++
        lex .plain (job.sqlStatement.toList ++ batchEnding.toList) := by
  rw [tokens, batchStatement, String.toList_append, String.toList_append, List.append_assoc, lex_batchOpening clean]

/-- No token ends in more than one. -/
theorem stop_length (mode : Mode) : mode.stop.length ≤ 1 := by
  cases mode <;> simp [Mode.stop]

/-- What is read as a name, and has something after it, does not begin with a symbol. -/
theorem readName_begins {list after : List Token} (read : readName list = some (table, after)) (more : after ≠ []) :
    ∃ first second rest, list = first :: second :: rest ∧ ∀ c, first ≠ .symbol c := by
  have bare {token : Token} {name : String} (named : token.name? = some name) (c : Char) : token ≠ .symbol c := by
    rintro rfl
    cases named
  unfold readName at read
  split at read
  · obtain ⟨name, named, -⟩ := Option.bind_eq_some_iff.mp read
    exact ⟨_, _, _, rfl, bare named⟩
  · rename_i first rest _
    obtain ⟨name, named, same⟩ := Option.map_eq_some_iff.mp read
    obtain ⟨-, rfl⟩ := Prod.mk.inj same
    obtain ⟨second, rest, rfl⟩ := List.exists_cons_of_ne_nil more
    exact ⟨first, second, rest, rfl, bare named⟩
  · cases read

/-- An `UPDATE` has a name after its first word, and is longer than that. -/
theorem isUpdate_begins {statement : List Token} (update : isUpdate statement) :
    ∃ second third more, statement = .word "UPDATE" :: second :: third :: more ∧ ∀ c, second ≠ .symbol c := by
  unfold isUpdate at update
  split at update
  · rename_i rest
    split at update
    · rename_i table after read
      have more : after ≠ [] := by
        rintro rfl
        cases update
      obtain ⟨first, second, tail, split, bare⟩ := readName_begins read more
      unfold skip at split
      split at split
      · rename_i only
        cases rest with
        | nil => cases split
        | cons word tail' =>
          have begun : [word] = [.word "ONLY"] := of_decide_eq_true only
          cases begun
          exact ⟨_, first, second :: tail, by rw [show tail' = first :: second :: tail from split], by simp⟩
      · exact ⟨first, second, tail, by rw [split], bare⟩
    · cases update
  · cases update

/-- Two tokens and a third one: the first two have ended within the text. -/
theorem lex_begun {second third : Token} {more : List Token}
    (split : tokens sql = .word "UPDATE" :: second :: third :: more) (rest : List Char) :
    ∃ more', lex .plain (sql.toList ++ rest) = .word "UPDATE" :: second :: more' := by
  have whole := lex_append .plain sql.toList []
  have short := stop_length (scan .plain sql.toList).2
  rw [List.append_nil, show lex .plain sql.toList = tokens sql from rfl, split] at whole
  rw [lex_append]
  cases ended : (scan .plain sql.toList).1 with
  | nil =>
    rw [ended] at whole
    have long := congrArg List.length whole
    simp only [lex, List.nil_append, List.length_cons] at long
    omega
  | cons first ending =>
    cases ending with
    | nil =>
      rw [ended] at whole
      have long := congrArg List.length whole
      simp only [lex, List.cons_append, List.nil_append, List.length_cons] at long
      omega
    | cons next ending =>
      rw [ended] at whole
      obtain ⟨rfl, tails⟩ := List.cons.inj whole
      obtain ⟨rfl, -⟩ := List.cons.inj tails
      exact ⟨_, rfl⟩

/-- The text after `SET` begins with `UPDATE` and a table, and that is no target of an assignment. -/
theorem batch_unparsed (pg : Postgres Row) (clean : Unquoted job.tableName)
    (update : isUpdate (tokens job.sqlStatement)) : pg.parses (tokens (batchStatement job)) = false := by
  by_contra parsed
  rw [Bool.not_eq_false] at parsed
  obtain ⟨second, third, more, split, bare⟩ := isUpdate_begins update
  obtain ⟨more', spliced⟩ := lex_begun split batchEnding.toList
  rw [tokens_batchStatement clean, spliced] at parsed
  have target := pg.target _ _ _ _ (by simp [batchQuery]) parsed
  cases second with
  | symbol c => exact bare c rfl
  | word text | name text => cases target
  | literal => cases target

/-- A new job has no processed rows. -/
theorem createBackfillJobs_unprocessed (made : job ∈ createBackfillJobs rows migrationId plan) :
    job.processedRows = 0 := by
  obtain ⟨phase, -, made⟩ := List.mem_flatMap.mp made
  obtain ⟨operation, -, made⟩ := List.mem_filterMap.mp made
  unfold backfillJob at made
  split at made
  · obtain ⟨table, -, rfl⟩ := Option.map_eq_some_iff.mp made
    rfl
  · cases made

/-- Each batch of an `UPDATE` statement with a job is refused. The worker does what the planner has stored
if and only if the estimate is 0, so that there is no batch, and the statement changes no row. -/
theorem faithful_iff (pg : Postgres Row) (made : job ∈ createBackfillJobs rows migrationId plan)
    (update : isUpdate (tokens job.sqlStatement)) :
    (∀ lastProcessedId batchSize table, pg.execute (tokens (batchStatement job)) lastProcessedId batchSize table = none) ∧
      ∀ table, Faithful pg job table ↔
        job.totalRows = 0 ∧ (pg.execute (tokens job.sqlStatement) none 0 table).map (·.1) = some table := by
  have unparsed := batch_unparsed pg (createBackfillJobs_stored made).2 update
  have fresh := createBackfillJobs_unprocessed made
  have idle (none : job.totalRows = 0) (sizes : List Nat) (table : List Row) :
      runBatches pg job sizes job.processedRows job.lastProcessedId table = some table := by
    unfold runBatches
    rw [if_neg (by omega)]
  refine ⟨fun lastProcessedId batchSize table => pg.refuses _ _ _ _ unparsed, fun table => ⟨?_, ?_⟩⟩
  · intro faithful
    have none : job.totalRows = 0 := by
      by_contra some_row
      have parsed := faithful.valid (by omega)
      exact Bool.false_ne_true (unparsed.symm.trans parsed)
    have effect := faithful.effect [] (List.forall_mem_nil _) (by simp [none])
    exact ⟨none, effect.symm.trans (idle none [] table)⟩
  · rintro ⟨none, unchanged⟩
    refine ⟨fun more => ?_, fun sizes _ _ => ?_⟩
    · omega
    · rw [idle none, unchanged]

end Statement

/-! ## A statement with a condition -/

/-- What follows the first `)`. -/
def afterQuery (list : List Token) : List Token := (list.dropWhile (· ≠ .symbol ')')).drop 1

/-- Where there is a query before an `UPDATE`, the target is looked at. -/
def parsesTarget : List Token → Bool
  | .word "WITH" :: _ :: .word "AS" :: .symbol '(' :: rest =>
    match afterQuery rest with
    | .word "UPDATE" :: .name _ :: .word "T" :: .word "SET" :: rest => beginsTarget rest
    | _ => true
  | _ => true

private theorem parsesTarget_query {name : Token} {query rest : List Token}
    (flat : ∀ token ∈ query, token ≠ .symbol '(' ∧ token ≠ .symbol ')')
    (parsed : parsesTarget ([.word "WITH", name, .word "AS", .symbol '('] ++ query ++
      [.symbol ')', .word "UPDATE", .name table, .word "T", .word "SET"] ++ rest) = true) :
    beginsTarget rest = true := by
  have after (tail : List Token) : afterQuery (query ++ .symbol ')' :: tail) = tail := by
    have open' : ∀ token ∈ query, decide (token ≠ .symbol ')') = true := fun token member =>
      decide_eq_true (flat token member).2
    rw [afterQuery, List.dropWhile_append_of_pos open']
    rfl
  have parted : [.word "WITH", name, .word "AS", .symbol '('] ++ query ++
      [.symbol ')', .word "UPDATE", .name table, .word "T", .word "SET"] ++ rest =
        .word "WITH" :: name :: .word "AS" :: .symbol '(' :: (query ++ .symbol ')' ::
          (.word "UPDATE" :: .name table :: .word "T" :: .word "SET" :: rest)) := by simp
  rw [parted] at parsed
  simpa only [parsesTarget, after] using parsed

def laterActive : String := "UPDATE users SET active = true WHERE id > 5"

/-- Users with an id and an active flag, and a database for one statement on them. -/
def users : Postgres (Int × Bool) where
  parses := parsesTarget
  execute statement _ _ rows :=
    if parsesTarget statement ∧ statement = tokens laterActive then
      some (rows.map fun row => if 5 < row.1 then (row.1, true) else row, [])
    else none
  refuses _ _ _ _ unparsed := by simp [unparsed]
  target _ _ _ _ flat parsed := parsesTarget_query flat parsed

def activation : SchemaOperation where
  sql := laterActive
  category := .DATA
  reason := "Data update / backfill"

def activationPlan : MigrationExecutionPlan where
  operations := [activation]
  phases := [{ phase := .DATA, operations := [activation], order := [laterActive] }]
  executionOrder := [laterActive]

/-- The job of the statement. -/
def activationJob (totalRows : Nat) : BackfillJob where
  tableName := "users"
  migrationName := "runtime_1"
  sqlStatement := laterActive
  totalRows
  phase := .DATA
  operationCategory := .DATA

theorem activation_created (totalRows : Nat) :
    activationJob totalRows ∈ createBackfillJobs (fun _ => totalRows) "runtime_1" activationPlan ∧
      isUpdate (tokens (activationJob totalRows).sqlStatement) = true := by
  have update : isUpdate (tokens laterActive) = true := by decide
  refine ⟨?_, update⟩
  have named : extractTableName laterActive = some "users" := by decide
  simp [createBackfillJobs, activationPlan, activation, backfillJob, named, activationJob, calculateOptimalBatchSize]

/-- The job of an empty table is faithful. -/
theorem activation_faithful : Faithful users (activationJob 0) [] :=
  ((faithful_iff users (activation_created 0).1 (activation_created 0).2).2 []).mpr ⟨rfl, by decide⟩

/-- The worker executes `SET UPDATE users SET …`, and the database refuses it. The statement itself
activates one of two users. -/
theorem spliced_update_refused :
    users.parses (tokens (batchStatement (activationJob 2))) = false ∧
      users.execute (tokens laterActive) none 0 [(3, false), (7, false)] = some ([(3, false), (7, true)], []) ∧
      runBatches users (activationJob 2) [1000, 1000] 0 (some 0) [(3, false), (7, false)] = none ∧
      ¬ Faithful users (activationJob 2) [(3, false), (7, false)] := by
  have refused : users.parses (tokens (batchStatement (activationJob 2))) = false := by decide +kernel
  have batches : runBatches users (activationJob 2) [1000, 1000] 0 (some 0) [(3, false), (7, false)] = none := by
    rw [runBatches, if_pos (by decide), users.refuses _ _ _ _ refused]
    rfl
  refine ⟨refused, by decide, batches, fun faithful => ?_⟩
  exact Bool.false_ne_true (refused.symm.trans (faithful.valid (by decide)))

end DriverMicroServices.Backfill
