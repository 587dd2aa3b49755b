import DriverMicroServices.MigrationFiles
import DriverMicroServices.OperationClasses
import DriverMicroServices.Texts.Lazy
import Mathlib.Data.List.DropRight

/-! Generated files read back. The reader takes what stands between the backticks of a call, and
cuts it at semicolons; a statement comes back as it was where it has neither the one nor the other
in a place that counts. -/
namespace DriverMicroServices.MigrationGenerator
open Texts.Regex Texts.Regex.Pattern Texts.Units LifecycleSplitter

structure ClassifiedStatement where
  sql : String
  category : SqlCategory
  reason : String

/-- What `classifyMigrationFile` returns. -/
structure FileClassification where
  categories : List SqlCategory
  statements : List ClassifiedStatement
  dominantPrefix : Prefix
  needsPhaseDecomposition : Bool
  phases : List SqlCategory

/-- A backtick, white space, and a comma or a parenthesis. -/
def closing : Pattern :=
  seq (one (· = '\x60')) (seq (many isSpace) (one fun c => c = ',' || c = ')'))

def opening : List Char := "queryRunner.query(".toList

/-- The pattern of a call, from its name to the closing after its text. -/
def queryCalls : Pattern :=
  exactly opening (seq (many isSpace) (seq (one (· = '\x60')) (upTo closing)))

/-- The parts of a captured text that are long enough to be statements. -/
def partsOf (captured : String) : List String :=
  ((captured.toList.splitOn ';').map fun part => trim (String.ofList part)).filter fun trimmed =>
    5 < length trimmed

def sqlBlocks (content : String) : List String :=
  (queryCalls.allMatches content).flatMap fun captures => partsOf (captures.headD "")

def dominantPrefix (categories : List SqlCategory) : Prefix :=
  if .BREAKING ∈ categories then .BREAKING_
  else if .DATA ∈ categories then .DATA_
  else .SAFE_

def classifyContent (content : String) : FileClassification :=
  let statements := (sqlBlocks content).map fun sql =>
    { sql, category := (classifySqlStatement sql).1, reason := (classifySqlStatement sql).2 }
  let categories := (statements.map (·.category)).eraseDups
  { categories
    statements
    dominantPrefix := dominantPrefix categories
    needsPhaseDecomposition := .BREAKING ∈ categories && (.SAFE ∈ categories || .DATA ∈ categories)
    phases := [.SAFE, .DATA, .BREAKING].filter (· ∈ categories) }

def classifyMigrationFile (disk : Disk) (filePath : String) : Option FileClassification :=
  (disk.readFileSync filePath).map classifyContent

/-! ## Statements that come back -/

/-- The statement has no semicolon and no closing, no white space around it, and is not too short. -/
def Survives (sql : String) : Prop :=
  ';' ∉ sql.toList ∧ closing.test sql = false ∧ trim sql = sql ∧ 5 < length sql

instance (sql : String) : Decidable (Survives sql) := inferInstanceAs (Decidable (_ ∧ _ ∧ _ ∧ _))

variable {text read rest gap : List Char} {sql : String} {statements : List String}

theorem toList_trim (sql : String) :
    (trim sql).toList = (sql.toList.dropWhile isSpace).rdropWhile isSpace := by
  rw [trim, String.toList_ofList, List.rdropWhile]

private theorem trim_infix (sql : String) : (trim sql).toList <:+: sql.toList := by
  rw [toList_trim]
  exact (List.rdropWhile_prefix _ _).isInfix.trans (List.dropWhile_suffix _).isInfix

private theorem trim_trim (sql : String) : trim (trim sql) = trim sql := by
  apply String.toList_injective
  have kept : ((sql.toList.dropWhile isSpace).rdropWhile isSpace).dropWhile isSpace =
      (sql.toList.dropWhile isSpace).rdropWhile isSpace := by
    rw [List.dropWhile_eq_self_iff]
    intro nonempty
    have front := List.rdropWhile_prefix isSpace (sql.toList.dropWhile isSpace)
    have longer : 0 < (sql.toList.dropWhile isSpace).length := Nat.lt_of_lt_of_le nonempty front.length_le
    rw [front.getElem nonempty]
    exact List.dropWhile_get_zero_not _ _ longer
  rw [toList_trim, toList_trim, kept, List.rdropWhile_idempotent]

/-- White space around a text does not count. -/
theorem trim_padded {front back : List Char} (blank : ∀ c ∈ front, isSpace c = true)
    (blank' : ∀ c ∈ back, isSpace c = true) (sql : String) :
    trim (String.ofList (front ++ (sql.toList ++ back))) = trim sql := by
  apply String.toList_injective
  rw [toList_trim, toList_trim, String.toList_ofList, List.dropWhile_append_of_pos blank, List.dropWhile_append]
  split
  · rename_i empty
    rw [List.isEmpty_iff] at empty
    rw [List.dropWhile_eq_nil_iff.mpr blank', empty]
  · rw [List.rdropWhile, List.reverse_append, List.dropWhile_append_of_pos, List.rdropWhile]
    exact fun c member => blank' c (List.mem_reverse.mp member)

/-! ## Closings -/

theorem closing_plain : closing.anchorless := rfl

private theorem queryCalls_plain : queryCalls.anchorless := rfl

def isEnd (c : Char) : Bool := c = ',' || c = ')'

private theorem not_isSpace_of_isEnd {c : Char} (last : isEnd c = true) : isSpace c = false := by
  simp only [isEnd, Bool.or_eq_true, decide_eq_true_eq] at last
  rcases last with rfl | rfl <;> decide

/-- A closing is a backtick before an end, white space apart. -/
theorem starts_closing : closing.Starts text ↔
    ∃ rest, text = '\x60' :: rest ∧ (rest.dropWhile isSpace).head?.any isEnd = true := by
  constructor
  · rintro ⟨read, after, rfl, start, more, rfl, ⟨mark, rfl, same⟩, spaces, finish, rfl, blank, last, rfl, isLast⟩
    obtain rfl := of_decide_eq_true same
    refine ⟨spaces ++ ([last] ++ after), by simp, ?_⟩
    rw [List.dropWhile_append_of_pos blank]
    have stops := not_isSpace_of_isEnd isLast
    simpa [stops, isEnd] using isLast
  · rintro ⟨rest, rfl, ends⟩
    cases stop : rest.dropWhile isSpace with
    | nil =>
      rw [stop] at ends
      cases ends
    | cons last after =>
      rw [stop] at ends
      refine ⟨'\x60' :: (rest.takeWhile isSpace ++ [last]), after, ?_, ['\x60'], _, rfl, ⟨'\x60', rfl, rfl⟩,
        rest.takeWhile isSpace, [last], rfl, fun c member => List.mem_takeWhile_imp member, last, rfl, ends⟩
      have whole := List.takeWhile_append_dropWhile (p := isSpace) (l := rest)
      rw [stop] at whole
      simp [whole]

/-- What follows a text ends no closing in it, unless there is an end at once. -/
theorem starts_of_append (nonempty : text ≠ []) (endless : (rest.dropWhile isSpace).head?.any isEnd = false)
    (starts : closing.Starts (text ++ rest)) : closing.Starts text := by
  obtain ⟨c, cs, rfl⟩ := List.exists_cons_of_ne_nil nonempty
  obtain ⟨more, split, ends⟩ := starts_closing.mp starts
  obtain ⟨rfl, rfl⟩ := List.cons.inj split
  refine starts_closing.mpr ⟨cs, rfl, ?_⟩
  rw [List.append_eq] at ends
  rw [List.dropWhile_append] at ends
  split at ends
  · rw [endless] at ends
    cases ends
  · rename_i further
    cases stop : cs.dropWhile isSpace with
    | nil => exact absurd (by rw [stop]; rfl) further
    | cons d ds =>
      rw [stop] at ends
      exact ends

private theorem closing_nonempty (spelled : closing.Spells read) : read ≠ [] := by
  obtain ⟨start, more, rfl, ⟨mark, rfl, -⟩, -⟩ := spelled
  simp

private theorem absent_closing (survives : closing.test sql = false) : Absent closing sql.toList := by
  have unfound : closing.searchFrom none sql.toList = none := by
    simpa [Pattern.test, Pattern.search] using survives
  exact absent_of_search closing_plain unfound

private theorem test_closing (absent : Absent closing sql.toList) : closing.test sql = false := by
  simp [Pattern.test, Pattern.search, searchFrom_absent absent]

/-! ## All that is read survives -/

private theorem infix_intercalate {parts : List (List Char)} {part sep : List Char} (member : part ∈ parts) :
    part <:+: sep.intercalate parts := by
  induction parts with
  | nil => cases member
  | cons first others ih =>
    cases others with
    | nil =>
      have same : part = sep.intercalate [first] :=
        (List.mem_singleton.mp member).trans List.intercalate_singleton.symm
      exact same ▸ List.infix_rfl
    | cons second others =>
      rw [List.intercalate_cons_cons]
      rcases List.mem_cons.mp member with rfl | later
      · rw [List.append_assoc]
        exact (List.prefix_append _ _).isInfix
      · exact (ih later).trans (List.suffix_append _ _).isInfix

private theorem not_mem_of_mem_splitOn {part : List Char} (member : part ∈ text.splitOn ';') : ';' ∉ part := by
  induction text generalizing part with
  | nil =>
    simp only [List.splitOn_nil, List.mem_singleton] at member
    simp [member]
  | cons c cs ih =>
    rw [List.splitOn_cons_eq_if_modifyHead] at member
    split at member
    · rcases List.mem_cons.mp member with rfl | later
      · simp
      · exact ih later
    · rename_i other
      obtain ⟨first, others, split⟩ := List.exists_cons_of_ne_nil (List.splitOn_ne_nil ';' cs)
      rw [split, List.modifyHead_cons] at member
      rcases List.mem_cons.mp member with rfl | later
      · have clean : ';' ∉ first := ih (by simp [split])
        have apart : ';' ≠ c := fun same => other (by simp [← same])
        simp [clean, apart]
      · exact ih (by rw [split]; exact List.mem_cons_of_mem _ later)

private theorem survives_of_mem_partsOf {captured : String} (absent : Absent closing captured.toList)
    (member : sql ∈ partsOf captured) : Survives sql := by
  obtain ⟨member, long⟩ := List.mem_filter.mp member
  obtain ⟨part, held, rfl⟩ := List.mem_map.mp member
  have inside := trim_infix (String.ofList part)
  rw [String.toList_ofList] at inside
  have whole : part <:+: captured.toList := by
    have infix' : part <:+: [';'].intercalate (captured.toList.splitOn ';') := infix_intercalate held
    rwa [List.intercalate_splitOn] at infix'
  refine ⟨fun there => not_mem_of_mem_splitOn held (inside.subset there), ?_, trim_trim _, of_decide_eq_true long⟩
  exact test_closing (absent_part absent (inside.trans whole))

/-- The first way of a call captures a text without a closing. -/
theorem captured_call {place : Place} {way : Place × List String}
    (head : (queryCalls.ways place).head? = some way) :
    ∃ captured rest, way.2 = captured :: rest ∧ Absent closing captured.toList := by
  have letters (cs : List Char) (next : Pattern) {place : Place} {way : Place × List String}
      (head : ((exactly cs next).ways place).head? = some way) :
      ∃ place, (next.ways place).head? = some way := by
    induction cs generalizing place way with
    | nil => exact ⟨place, head⟩
    | cons c cs ih =>
      obtain ⟨early, member, late, first, rfl⟩ := head_seq head
      obtain ⟨read, -, -, nothing⟩ := ways_sound member
      obtain ⟨place, found⟩ := ih first
      exact ⟨place, by rw [show early.2 = [] from nothing]; exact found⟩
  obtain ⟨place, head⟩ := letters opening _ head
  obtain ⟨early, member, late, first, rfl⟩ := head_seq head
  obtain ⟨-, -, -, nothing⟩ := ways_sound member
  obtain ⟨early', member', late', first', rfl⟩ := head_seq first
  obtain ⟨-, -, -, nothing'⟩ := ways_sound member'
  obtain ⟨read, rest, captures, -, captured, none⟩ := upTo_first closing_plain first'
  have silent : early.2 = [] := nothing
  have silent' : early'.2 = [] := nothing'
  refine ⟨String.ofList read, captures, by simp [silent, silent', captured], ?_⟩
  rw [String.toList_ofList]
  rintro before inner after rfl spelled
  have longer := closing_nonempty spelled
  exact none before (inner ++ after) rfl (by simp [longer]) ⟨inner, after ++ rest, by simp, spelled⟩

private theorem survives_of_mem_sqlBlocks {content : String} (member : sql ∈ sqlBlocks content) : Survives sql := by
  obtain ⟨captures, held, member⟩ := List.mem_flatMap.mp member
  have each := forall_allMatches
    (fun captures => ∃ captured rest, captures = captured :: rest ∧ Absent closing captured.toList)
    (fun place way head => captured_call head) content captures held
  obtain ⟨captured, rest, rfl, absent⟩ := each
  exact survives_of_mem_partsOf absent member

/-! ## What survives is read -/

def callIndent : List Char := "    await ".toList

def padBefore : List Char := "\n      ".toList

def padAfter : List Char := "\n    ".toList

/-- What stands between the backticks of a call. -/
def called (sql : String) : List Char := padBefore ++ (sql.toList ++ padAfter)

theorem mark_opens : isSpace '\x60' = false ∧ isEnd '\x60' = false := by decide

/-- No closing begins in a part that is followed by the white space of a call. -/
theorem no_closing_in_part (survives : Survives sql) {front part : List Char} (split : sql.toList = front ++ part)
    (starts : closing.Starts (part ++ padAfter)) : False := by
  have nonempty : part ≠ [] := by
    rintro rfl
    obtain ⟨more, marked, -⟩ := starts_closing.mp starts
    cases marked
  obtain ⟨read, after, rfl, spelled⟩ := starts_of_append nonempty (by decide) starts
  exact absent_closing survives.2.1 front read after split spelled

private theorem no_closing_in_called (survives : Survives sql) (early late : List Char)
    (split : called sql = early ++ late) (nonempty : late ≠ []) :
    ¬ closing.Starts (late ++ '\x60' :: ')' :: rest) := by
  intro starts
  have here := starts_of_append nonempty
    (by rw [List.dropWhile_cons_of_neg (by simp [mark_opens.1])]; simp [mark_opens.2]) starts
  obtain ⟨more, marked, -⟩ := starts_closing.mp here
  rcases List.append_eq_append_iff.mp split with ⟨between, -, longer⟩ | ⟨between, pad, longer⟩
  · rcases List.append_eq_append_iff.mp longer with ⟨between', -, blank⟩ | ⟨part, parts, tail⟩
    · have held : '\x60' ∈ padAfter := by simp [blank, marked]
      exact absurd held (by decide)
    · exact no_closing_in_part survives parts (tail ▸ here)
  · cases between with
    | nil => exact no_closing_in_part survives (List.nil_append _).symm (longer ▸ here)
    | cons c cs =>
      have held : '\x60' ∈ padBefore := by
        have first := List.cons.inj (longer.symm.trans marked)
        simp [pad, first.1]
      exact absurd held (by decide)

/-- A call is a match, and its text is captured as it was written. -/
theorem ways_call (survives : Survives sql) (before : Option Char) :
    (queryCalls.ways ⟨before, opening ++ '\x60' :: (called sql ++ '\x60' :: ')' :: rest)⟩).head? =
      some (⟨some ')', rest⟩, [String.ofList (called sql)]) := by
  obtain ⟨before', letters⟩ := ways_exactly (seq (many isSpace) (seq (one (· = '\x60')) (upTo closing))) before
    opening ('\x60' :: (called sql ++ '\x60' :: ')' :: rest))
  have closed (before : Option Char) :
      (closing.ways ⟨before, '\x60' :: ')' :: rest⟩).head? = some (⟨some ')', rest⟩, []) := by
    rw [closing, ways_one (by decide), ways_stopped (by decide)]
    rfl
  obtain ⟨before'', enclosed⟩ := @upTo_head closing (fun _ => (⟨some ')', rest⟩, [])) closing_plain
    (some '\x60') (called sql) ('\x60' :: ')' :: rest) (no_closing_in_called survives) closed
  rw [queryCalls, letters, ways_stopped mark_opens.1, ways_one (by decide), enclosed]

/-- Between two calls no match begins. -/
theorem no_call_in_gap (clean : '\x60' ∉ gap) (early late : List Char) (split : gap = early ++ late)
    (nonempty : late ≠ []) : ¬ queryCalls.Starts (late ++ (opening ++ '\x60' :: rest)) := by
  rintro ⟨read, after, whole, spelled⟩
  obtain ⟨more, rfl, spaces, further, rfl, blank, start, enclosed, rfl, ⟨mark, rfl, same⟩, -⟩ :=
    spells_exactly spelled
  obtain rfl := of_decide_eq_true same
  have clean' : '\x60' ∉ late ++ opening := by
    have unmarked : '\x60' ∉ opening := by decide
    have later : '\x60' ∉ late := fun there => clean (by simp [split, there])
    simp [later, unmarked]
  have clean'' : '\x60' ∉ opening ++ spaces := by
    have unmarked : '\x60' ∉ opening := by decide
    have dark : '\x60' ∉ spaces := fun there => by simpa [mark_opens.1] using blank _ there
    simp [dark, unmarked]
  have left := List.splitOn_append_cons_self_of_not_mem clean' rest
  have right := List.splitOn_append_cons_self_of_not_mem clean'' (enclosed ++ after)
  have sides : (late ++ opening) ++ '\x60' :: rest = (opening ++ spaces) ++ '\x60' :: (enclosed ++ after) := by
    simpa using whole
  rw [sides, right] at left
  have same := (List.cons.inj left).1
  have lengths := congrArg List.length same
  rw [List.length_append, List.length_append] at lengths
  cases spaces using List.reverseRecOn with
  | nil => exact nonempty (List.eq_nil_of_length_eq_zero (by simpa using lengths))
  | append_singleton others last =>
    have ends := congrArg List.getLast? same
    have lastSpace := blank last (by simp)
    have shape : opening.getLast? = some '(' := by decide
    rw [← List.append_assoc, List.getLast?_concat, List.getLast?_append, shape] at ends
    obtain rfl := Option.some.inj ends
    exact absurd lastSpace (by decide)

private theorem spells_queryCalls (spelled : queryCalls.Spells read) : '\x60' ∈ read := by
  obtain ⟨more, rfl, spaces, further, rfl, -, start, enclosed, rfl, ⟨mark, rfl, same⟩, -⟩ :=
    spells_exactly spelled
  simp [of_decide_eq_true same]

private theorem call_front : "    await queryRunner.query(\x60\n      ".toList =
    callIndent ++ (opening ++ '\x60' :: padBefore) := by decide

private theorem call_back : "\n    \x60);".toList = padAfter ++ ['\x60', ')', ';'] := by decide

theorem toList_queryCall (sql : String) :
    (queryCall sql).toList =
      callIndent ++ (opening ++ '\x60' :: (called sql ++ '\x60' :: ')' :: [';'])) := by
  unfold queryCall called
  rw [String.toList_append, String.toList_append, call_front, call_back]
  generalize callIndent = a, opening = b, padBefore = c, padAfter = d
  simp only [List.append_assoc, List.cons_append]

theorem match_call (survives : Survives sql) (clean : '\x60' ∉ gap) (before : Option Char) (fuel : Nat) :
    queryCalls.matchesFrom (fuel + 1) ⟨before, gap ++ ((queryCall sql).toList ++ rest)⟩ =
      [String.ofList (called sql)] :: queryCalls.matchesFrom fuel ⟨some ')', ';' :: rest⟩ := by
  have shape : gap ++ ((queryCall sql).toList ++ rest) =
      (gap ++ callIndent) ++
        (opening ++ '\x60' :: (called sql ++ '\x60' :: ')' :: ';' :: rest)) := by
    rw [toList_queryCall]
    simp only [List.append_assoc, List.cons_append, List.nil_append]
  have clean' : '\x60' ∉ gap ++ callIndent := by
    have indent : '\x60' ∉ callIndent := by decide
    simp [clean, indent]
  obtain ⟨before', skipped⟩ := firstFrom_skip queryCalls_plain before (gap ++ callIndent)
    (opening ++ '\x60' :: (called sql ++ '\x60' :: ')' :: ';' :: rest)) (no_call_in_gap clean')
  have here := firstFrom_here (@ways_call (';' :: rest) sql survives before')
  rw [matchesFrom, shape, skipped, here]

/-- What comes back of calls that are written one after the other. -/
theorem matches_of_calls {first : String} (survive : ∀ sql ∈ first :: statements, Survives sql) {ending : List Char}
    (unmarked : '\x60' ∉ ending) (clean : '\x60' ∉ gap) (before : Option Char) {fuel : Nat}
    (enough : statements.length < fuel) :
    queryCalls.matchesFrom (fuel + 1) ⟨before,
        gap ++ (("\n\n".intercalate ((first :: statements).map queryCall)).toList ++ ending)⟩ =
      (first :: statements).map fun sql => [String.ofList (called sql)] := by
  obtain ⟨fuel, rfl⟩ := Nat.exists_eq_succ_of_ne_zero (Nat.ne_of_gt (Nat.lt_of_le_of_lt (Nat.zero_le _) enough))
  induction statements generalizing first gap before fuel with
  | nil =>
    have ended : queryCalls.firstFrom (some ')') (';' :: ending) = none := by
      refine firstFrom_absent ?_ _
      rintro early read late split spelled
      have marked : '\x60' ∈ ';' :: ending := by
        rw [split]
        simp [spells_queryCalls spelled]
      simp [unmarked] at marked
    rw [List.map_singleton, String.intercalate_singleton, match_call (survive first (by simp)) clean, matchesFrom,
      ended]
    rfl
  | cons next others ih =>
    obtain ⟨fuel, rfl⟩ := Nat.exists_eq_succ_of_ne_zero (show fuel ≠ 0 by simp at enough; omega)
    have later := @ih ";\n\n".toList next (fun sql member => survive sql (List.mem_cons_of_mem _ member))
      (by decide) (some ')') fuel (by simpa using enough)
    have shape : ("\n\n".intercalate ((first :: next :: others).map queryCall)).toList ++ ending =
        (queryCall first).toList ++
          ("\n\n".toList ++ (("\n\n".intercalate ((next :: others).map queryCall)).toList ++ ending)) := by
      rw [List.map_cons, List.map_cons, String.intercalate_cons_cons]
      simp
    rw [shape, match_call (survive first (by simp)) clean, List.map_cons]
    exact congrArg _ later

private theorem partsOf_called (survives : Survives sql) : partsOf (String.ofList (called sql)) = [sql] := by
  have whole : (called sql).splitOn ';' = [called sql] := by
    refine List.splitOn_eq_singleton ?_
    have pads : ';' ∉ padBefore ∧ ';' ∉ padAfter := by decide
    simp [called, survives.1, pads]
  have trimmed : trim (String.ofList (called sql)) = sql := by
    have blank : padBefore.all isSpace ∧ padAfter.all isSpace := by decide
    rw [called, trim_padded (List.all_eq_true.mp blank.1) (List.all_eq_true.mp blank.2), survives.2.2.1]
  rw [partsOf, String.toList_ofList, whole, List.map_singleton, trimmed, List.filter_singleton]
  simp [survives.2.2.2]

/-- The text has no backtick. -/
def Unmarked (text : String) : Prop := '\x60' ∉ text.toList

private theorem unmarked_append (a b : String) : Unmarked (a ++ b) ↔ Unmarked a ∧ Unmarked b := by
  simp [Unmarked]

theorem unmarked_ofList {chars : List Char} (clean : chars.all (· ≠ '\x60') = true) :
    Unmarked (String.ofList chars) := by
  intro there
  rw [String.toList_ofList] at there
  simpa using List.all_eq_true.mp clean _ there

theorem Unmarked.append {a b : String} (first : Unmarked a) (second : Unmarked b) : Unmarked (a ++ b) :=
  (unmarked_append a b).mpr ⟨first, second⟩

private theorem unmarked_fileEnd : Unmarked fileEnd :=
  ((unmarked_ofList rfl).append (unmarked_ofList rfl)).append (unmarked_ofList rfl)

private theorem calls_longer (statements : List String) :
    statements.length ≤ ("\n\n".intercalate (statements.map queryCall)).toList.length := by
  have some (sql : String) : 1 ≤ (queryCall sql).toList.length := by
    rw [toList_queryCall, List.length_append, List.length_append, List.length_cons]
    omega
  induction statements with
  | nil => exact Nat.zero_le _
  | cons sql rest ih =>
    have here := some sql
    cases rest with
    | nil =>
      rw [List.map_singleton, String.intercalate_singleton]
      exact here
    | cons next others =>
      rw [List.map_cons] at ih ⊢
      rw [List.map_cons, String.intercalate_cons_cons, String.toList_append, String.toList_append,
        List.length_append, List.length_append, List.length_cons]
      omega

/-- The statements of a file come back just if each of them survives. -/
theorem sqlBlocks_buildMigrationFile {className header : String}
    (clean : Unmarked (fileStart className header)) (nonempty : statements ≠ []) :
    sqlBlocks (buildMigrationFile className statements header) = statements ↔
      ∀ sql ∈ statements, Survives sql := by
  constructor
  · intro same sql member
    rw [← same] at member
    exact survives_of_mem_sqlBlocks member
  · intro survive
    obtain ⟨sql, others, rfl⟩ := List.exists_cons_of_ne_nil nonempty
    have shape : (buildMigrationFile className (sql :: others) header).toList =
        (fileStart className header).toList ++
          (("\n\n".intercalate ((sql :: others).map queryCall)).toList ++ fileEnd.toList) := by
      rw [buildMigrationFile, String.toList_append, String.toList_append, List.append_assoc]
    have enough : others.length < (buildMigrationFile className (sql :: others) header).toList.length := by
      have longer := calls_longer (sql :: others)
      rw [shape, List.length_append, List.length_append]
      rw [List.length_cons] at longer
      omega
    have found := matches_of_calls survive unmarked_fileEnd clean none enough
    rw [← shape] at found
    rw [sqlBlocks, allMatches, found, List.flatMap_map]
    have each : ∀ sql' ∈ sql :: others, partsOf (([String.ofList (called sql')] : List String).headD "") = [sql'] :=
      fun sql' member => partsOf_called (survive sql' member)
    rw [List.flatMap_congr each, List.flatMap_singleton']

end DriverMicroServices.MigrationGenerator
