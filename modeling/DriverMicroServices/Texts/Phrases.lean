import DriverMicroServices.Texts.Reads

/-! What a pattern finds on the rest of the line behind a phrase of two words. As much as it can of the line is
passed over first, so a word that is captured there is the last one; a word that is asked for may be any. -/
namespace Texts.Regex.Pattern

variable {pattern next : Pattern} {before : Option Char} {rest : List Char} {place : Place}

/-! ## Places behind a phrase -/

/-- Behind the letters of a word, in either case. -/
def afterLetters : List Char → Place → Option Place
  | [], place => some place
  | _ :: _, ⟨_, []⟩ => none
  | c :: cs, ⟨_, d :: ds⟩ => if d.toLower = c.toLower then afterLetters cs ⟨some d, ds⟩ else none

def skipSpaces : Option Char → List Char → Place
  | before, [] => ⟨before, []⟩
  | before, c :: cs => if isSpace c then skipSpaces (some c) cs else ⟨before, c :: cs⟩

/-- Behind white space, which there is. -/
def afterSpaces : Place → Option Place
  | ⟨_, []⟩ => none
  | ⟨_, c :: cs⟩ => if isSpace c then some (skipSpaces (some c) cs) else none

def afterPair (word second : String) (place : Place) : Option Place :=
  ((afterLetters word.toList place).bind afterSpaces).bind (afterLetters second.toList)

def places : Option Char → List Char → List Place
  | before, [] => [⟨before, []⟩]
  | before, c :: cs => ⟨before, c :: cs⟩ :: places (some c) cs

/-- The places behind the phrase, from the left. -/
def behind (word second text : String) : List Place :=
  (places none text.toList).filterMap (afterPair word second)

/-- The words that begin on the rest of the line. -/
def lineWords : Option Char → List Char → List (List Char)
  | _, [] => []
  | before, c :: cs =>
    if isDot c then
      (if isWord c && !before.any isWord then [(c :: cs).takeWhile isWord] else []) ++ lineWords (some c) cs
    else []

theorem afterLetters_spec {cs : List Char} {finish : Place} (found : afterLetters cs place = some finish) :
    ∃ letters, place.rest = letters ++ finish.rest ∧ letters.map Char.toLower = cs.map Char.toLower ∧
      finish.before = letters.getLast?.or place.before := by
  induction cs generalizing place with
  | nil =>
    cases found
    exact ⟨[], rfl, rfl, rfl⟩
  | cons c cs ih =>
    obtain ⟨before, _ | ⟨d, ds⟩⟩ := place
    · cases found
    · rw [afterLetters] at found
      split at found
      · rename_i same
        obtain ⟨letters, split, alike, last⟩ := ih found
        refine ⟨d :: letters, congrArg (d :: ·) split, ?_, ?_⟩
        · rw [List.map_cons, List.map_cons, same, alike]
        · rw [last, last_cons]
      · cases found

theorem afterLetters_append {cs letters late : List Char} (alike : letters.map Char.toLower = cs.map Char.toLower)
    (before : Option Char) :
    afterLetters cs ⟨before, letters ++ late⟩ = some ⟨letters.getLast?.or before, late⟩ := by
  induction cs generalizing letters before with
  | nil =>
    obtain rfl := List.map_eq_nil_iff.mp alike
    rfl
  | cons c cs ih =>
    obtain ⟨d, ds, rfl, same, further⟩ := List.map_eq_cons_iff.mp alike
    rw [List.cons_append, afterLetters, if_pos same, ih further, last_cons]

/-! ## The ways behind a phrase -/

theorem ways_followed (cs : List Char) (next : Pattern) (place : Place) :
    (followed cs next).ways place = (afterLetters cs place).elim [] next.ways := by
  induction cs generalizing place with
  | nil => rfl
  | cons c cs ih =>
    obtain ⟨before, _ | ⟨d, ds⟩⟩ := place
    · simp [followed, letter, ways, afterLetters]
    · rw [afterLetters, followed, letter]
      split
      · rename_i same
        rw [ways_one (decide_eq_true same), ih]
      · rename_i other
        simp [ways, other]

theorem ways_many_nil (test : Char → Bool) (next : Pattern) (before : Option Char) :
    (seq (many test) next).ways ⟨before, []⟩ = next.ways ⟨before, []⟩ := by
  simp [ways, stretch]

/-- The ways that pass over a character come before those that do not. -/
theorem ways_many_cons (test : Char → Bool) (next : Pattern) (before : Option Char) (c : Char) (cs : List Char) :
    (seq (many test) next).ways ⟨before, c :: cs⟩ =
      if test c then (seq (many test) next).ways ⟨some c, cs⟩ ++ next.ways ⟨before, c :: cs⟩
      else next.ways ⟨before, c :: cs⟩ := by
  by_cases passes : test c
  · simp [ways, stretch, passes]
  · simp [ways, stretch, passes]

/-- Before what does not begin with white space, all of it is passed over. -/
theorem ways_spaces (solid : ∀ before c cs, isSpace c → next.ways ⟨before, c :: cs⟩ = []) (place : Place) :
    (seq (plus isSpace) next).ways place = (afterSpaces place).elim [] next.ways := by
  have skipped (before : Option Char) (cs : List Char) :
      (seq (many isSpace) next).ways ⟨before, cs⟩ = next.ways (skipSpaces before cs) := by
    induction cs generalizing before with
    | nil => exact ways_many_nil isSpace next before
    | cons c cs ih =>
      rw [ways_many_cons, skipSpaces]
      split
      · rename_i space
        rw [ih, solid before c cs space, List.append_nil]
      · rfl
  obtain ⟨before, _ | ⟨c, cs⟩⟩ := place
  · simp [plus, ways, afterSpaces]
  · rw [afterSpaces]
    split
    · rename_i space
      have opened : (seq (plus isSpace) next).ways ⟨before, c :: cs⟩ =
          (seq (many isSpace) next).ways ⟨some c, cs⟩ := by
        simp [plus, ways, space, Function.comp_def]
      rw [opened, skipped]
      rfl
    · rename_i dark
      simp [plus, ways, dark]

/-- The first character of a word is no white space. -/
def solidWord (word : String) : Bool := word.toList.head?.any fun c => !isSpace c.toLower

theorem ways_pair {word second : String} (solid : solidWord second) (next : Pattern) (place : Place) :
    (words [word, second] next).ways place = (afterPair word second place).elim [] next.ways := by
  have begins (before : Option Char) (c : Char) (cs : List Char) (space : isSpace c) :
      (text second next).ways ⟨before, c :: cs⟩ = [] := by
    obtain ⟨d, head, lit⟩ := (Option.any_eq_true _ _).mp solid
    obtain ⟨ds, split⟩ := List.head?_eq_some_iff.mp head
    rw [Bool.not_eq_true'] at lit
    have other : c.toLower ≠ d.toLower := by
      intro same
      rw [← same, toLower_of_isSpace space, space] at lit
      cases lit
    rw [text, ways_followed, split, afterLetters, if_neg other]
    rfl
  show (text word (seq (plus isSpace) (text second next))).ways place = _
  unfold afterPair
  rw [text, ways_followed]
  cases afterLetters word.toList place with
  | none => rfl
  | some late =>
    rw [Option.elim_some, Option.bind_some, ways_spaces begins]
    cases afterSpaces late with
    | none => rfl
    | some spaced =>
      rw [Option.elim_some, Option.bind_some, text, ways_followed]

/-- A search behind a phrase goes on until something is found. -/
theorem searchFrom_pair {word second : String} (solid : solidWord second) (next : Pattern) (before : Option Char)
    (rest : List Char) :
    (words [word, second] next).searchFrom before rest =
      ((places before rest).filterMap (afterPair word second)).findSome? fun place =>
        (next.ways place).head?.map Prod.snd := by
  induction rest generalizing before with
  | nil =>
    rw [searchFrom_nil, ways_pair solid, places]
    cases found : afterPair word second ⟨before, []⟩ with
    | none => simp [found]
    | some place => cases ways : (next.ways place).head? <;> simp [found, ways]
  | cons c cs ih =>
    rw [searchFrom_cons, ways_pair solid, ih, places]
    cases found : afterPair word second ⟨before, c :: cs⟩ with
    | none => simp [found]
    | some place => cases ways : (next.ways place).head? <;> simp [found, ways]

theorem search_pair {word second : String} (solid : solidWord second) (next : Pattern) (text : String) :
    (words [word, second] next).search text =
      (behind word second text).findSome? fun place => (next.ways place).head?.map Prod.snd :=
  searchFrom_pair solid next none text.toList

/-! ## The words of a line -/

/-- The word that begins at a place. -/
def wordAt : Option Char → List Char → Option (List Char)
  | _, [] => none
  | before, c :: cs => if isWord c && !before.any isWord then some ((c :: cs).takeWhile isWord) else none

theorem lineWords_cons (before : Option Char) {c : Char} (dot : isDot c) (cs : List Char) :
    lineWords before (c :: cs) = (wordAt before (c :: cs)).toList ++ lineWords (some c) cs := by
  rw [lineWords, if_pos dot, wordAt]
  split <;> rfl

theorem not_isWord_of_not_isDot {c : Char} (line : isDot c = false) : isWord c = false :=
  not_isWord_of_isSpace (isSpace_of_isLineEnd (by simpa [isDot] using line))

theorem wordAt_lineEnd (before : Option Char) {c : Char} (line : isDot c = false) (cs : List Char) :
    wordAt before (c :: cs) = none := by
  simp [wordAt, not_isWord_of_not_isDot line]

theorem stretch_head (test : Char → Bool) (before : Option Char) (cs : List Char) :
    (stretch test before cs).head? =
      some ⟨(cs.takeWhile test).getLast?.or before, cs.dropWhile test⟩ := by
  induction cs generalizing before with
  | nil => rfl
  | cons c cs ih =>
    rw [stretch, List.takeWhile_cons, List.dropWhile_cons]
    split
    · rw [List.head?_append, ih, Option.some_or, last_cons]
    · rfl

theorem atBoundary_nil (before : Option Char) : atBoundary ⟨before, []⟩ = before.any isWord := by
  simp [atBoundary]

theorem atBoundary_cons (before : Option Char) (c : Char) (cs : List Char) :
    atBoundary ⟨before, c :: cs⟩ = (before.any isWord != isWord c) := rfl

/-- A run of word characters ends at a boundary. -/
theorem atBoundary_run {c : Char} (word : isWord c) (cs : List Char) :
    atBoundary ⟨((c :: cs).takeWhile isWord).getLast?.or none, (c :: cs).dropWhile isWord⟩ := by
  have last : (((c :: cs).takeWhile isWord).getLast?.or none).any isWord = true := by
    rw [Option.or_none, List.takeWhile_cons, if_pos word, List.getLast?_eq_some_getLast (List.cons_ne_nil _ _)]
    have member := List.getLast_mem (List.cons_ne_nil c (cs.takeWhile isWord))
    rcases List.mem_cons.mp member with same | inside
    · rw [same]
      exact word
    · have passes := List.mem_takeWhile_imp inside
      exact passes
  unfold atBoundary
  rw [last]
  cases ahead : (c :: cs).dropWhile isWord with
  | nil => rfl
  | cons d ds =>
    have stops : isWord d = false := by
      have first := List.head?_dropWhile_not isWord (c :: cs)
      rw [ahead] at first
      simpa using first
    simp [stops]

/-- `\b(\w+)\b` captures the word that begins at the place. -/
theorem head_word (before : Option Char) (rest : List Char) :
    ((seq boundary (seq (group (plus isWord)) boundary)).ways ⟨before, rest⟩).head?.map Prod.snd =
      (wordAt before rest).map fun word => [String.ofList word] := by
  cases rest with
  | nil =>
    cases edge : before.any isWord <;> simp [ways, plus, atBoundary_nil, wordAt, edge]
  | cons c cs =>
    by_cases word : isWord c
    · by_cases edge : before.any isWord
      · have inner : atBoundary ⟨before, c :: cs⟩ = false := by rw [atBoundary_cons, edge, word]; rfl
        simp [ways, inner, wordAt, edge]
      · have outer : atBoundary ⟨before, c :: cs⟩ = true := by
          rw [atBoundary_cons, Bool.not_eq_true _ |>.mp edge, word]
          rfl
        have run := atBoundary_run word cs
        have first := stretch_head isWord (some c) cs
        have same : (⟨(cs.takeWhile isWord).getLast?.or (some c), cs.dropWhile isWord⟩ : Place) =
            ⟨((c :: cs).takeWhile isWord).getLast?.or none, (c :: cs).dropWhile isWord⟩ := by
          rw [List.takeWhile_cons, if_pos word, List.dropWhile_cons, if_pos word, last_cons]
        rw [same] at first
        have read : between ⟨before, c :: cs⟩
            ⟨((c :: cs).takeWhile isWord).getLast?.or none, (c :: cs).dropWhile isWord⟩ =
              (c :: cs).takeWhile isWord :=
          between_of_append List.takeWhile_append_dropWhile.symm
        rw [ways_boundary outer, ways_group_plus word]
        cases shape : stretch isWord (some c) cs with
        | nil =>
          rw [shape] at first
          cases first
        | cons longest shorter =>
          rw [shape, List.head?_cons, Option.some_inj] at first
          have ended : boundary.ways longest = [(longest, [])] := if_pos (first ▸ run)
          rw [List.flatMap_cons, ended, List.map_singleton, List.singleton_append, List.head?_cons, Option.map_some,
            first, read, wordAt, if_pos (by simp [word, edge])]
          rfl
    · have alone : ((seq (group (plus isWord)) boundary).ways ⟨before, c :: cs⟩) = [] := by
        simp [ways, plus, word]
      have silent : (seq boundary (seq (group (plus isWord)) boundary)).ways ⟨before, c :: cs⟩ = [] := by
        by_cases edge : atBoundary ⟨before, c :: cs⟩
        · rw [ways_boundary edge, alone]
        · simp [ways, edge]
      simp [silent, wordAt, word]

/-- `.*\b(\w+)\b` captures the last word of the line. -/
theorem head_lastWord (before : Option Char) (rest : List Char) :
    ((seq (many isDot) (seq boundary (seq (group (plus isWord)) boundary))).ways ⟨before, rest⟩).head?.map Prod.snd =
      (lineWords before rest).getLast?.map fun word => [String.ofList word] := by
  induction rest generalizing before with
  | nil => rw [ways_many_nil, head_word, lineWords, wordAt, List.getLast?_nil]
  | cons c cs ih =>
    rw [ways_many_cons]
    cases dot : isDot c with
    | true =>
      rw [if_pos rfl, List.head?_append, Option.map_or, ih, head_word, lineWords_cons before dot,
        List.getLast?_append, Option.map_or]
      cases wordAt before (c :: cs) <;> rfl
    | false =>
      rw [if_neg Bool.false_ne_true, head_word, wordAt_lineEnd before dot, lineWords, dot,
        if_neg Bool.false_ne_true]
      rfl

theorem isWord_toLower (c : Char) : isWord c.toLower = isWord c := by
  by_cases same : c.toLower = c
  · rw [same]
  · have alike := forall_ascii (fun c => isWord c.toLower == isWord c) (by decide) (ascii_of_toLower same)
    simpa using alike

/-- A word ends where the characters of a boundary do. -/
theorem takeWhile_letters {letters late : List Char} (nonempty : letters ≠ []) (word : ∀ c ∈ letters, isWord c)
    {before : Option Char} (edge : atBoundary ⟨letters.getLast?.or before, late⟩) :
    (letters ++ late).takeWhile isWord = letters := by
  have last : (letters.getLast?.or before).any isWord = true := by
    rw [List.getLast?_eq_some_getLast nonempty, Option.some_or]
    exact word _ (List.getLast_mem nonempty)
  have ended : late.takeWhile isWord = [] := by
    unfold atBoundary at edge
    rw [last] at edge
    cases late with
    | nil => rfl
    | cons d ds =>
      have stops : isWord d = false := by simpa using edge
      rw [List.takeWhile_cons, stops]
      rfl
  rw [List.takeWhile_append_of_pos word, ended, List.append_nil]

/-- `\bname\b` matches where the word begins. -/
theorem ways_name {name : List Char} (nonempty : name ≠ []) (word : ∀ c ∈ name, isWord c) (before : Option Char)
    (rest : List Char) :
    (seq boundary (followed name boundary)).ways ⟨before, rest⟩ ≠ [] ↔
      ∃ found ∈ wordAt before rest, found.map Char.toLower = name.map Char.toLower := by
  have matched : (seq boundary (followed name boundary)).ways ⟨before, rest⟩ ≠ [] ↔
      atBoundary ⟨before, rest⟩ ∧ ∃ finish, afterLetters name ⟨before, rest⟩ = some finish ∧ atBoundary finish := by
    by_cases edge : atBoundary ⟨before, rest⟩
    · rw [ways_boundary edge, ways_followed]
      cases afterLetters name ⟨before, rest⟩ with
      | none => simp
      | some finish => cases ends : atBoundary finish <;> simp [ways, edge, ends]
    · simp [ways, edge]
  rw [matched]
  constructor
  · rintro ⟨edge, finish, read, ends⟩
    obtain ⟨letters, split, alike, last⟩ := afterLetters_spec read
    have some_letter : letters ≠ [] := by
      rintro rfl
      exact nonempty (List.map_eq_nil_iff.mp alike.symm)
    have letters_word : ∀ c ∈ letters, isWord c := by
      intro c member
      have lower : c.toLower ∈ name.map Char.toLower := alike ▸ List.mem_map_of_mem member
      obtain ⟨d, inside, same⟩ := List.mem_map.mp lower
      rw [← isWord_toLower c, ← same, isWord_toLower, word d inside]
    obtain ⟨finish_before, late⟩ := finish
    dsimp only at split last
    subst split
    rw [last] at ends
    have run := takeWhile_letters some_letter letters_word ends
    obtain ⟨c, cs, rfl⟩ := List.exists_cons_of_ne_nil some_letter
    have first : isWord c = true := letters_word c List.mem_cons_self
    have apart : before.any isWord = false := by
      rw [List.cons_append, atBoundary_cons, first] at edge
      simpa using edge
    refine ⟨c :: cs, ?_, alike⟩
    rw [List.cons_append] at run ⊢
    rw [wordAt, if_pos (by simp [first, apart]), run]
    rfl
  · rintro ⟨found, here, alike⟩
    cases rest with
    | nil => cases here
    | cons c cs =>
      rw [wordAt] at here
      split at here
      · rename_i begins
        obtain ⟨first, apart⟩ := Bool.and_eq_true_iff.mp begins
        rw [Bool.not_eq_true'] at apart
        cases here
        refine ⟨by rw [atBoundary_cons, first, apart]; rfl, ?_⟩
        have read : afterLetters name ⟨before, (c :: cs).takeWhile isWord ++ (c :: cs).dropWhile isWord⟩ = _ :=
          afterLetters_append alike before
        rw [List.takeWhile_append_dropWhile] at read
        refine ⟨_, read, ?_⟩
        have run := atBoundary_run first cs
        rw [List.takeWhile_cons, if_pos first] at run ⊢
        rwa [List.getLast?_eq_some_getLast (List.cons_ne_nil _ _), Option.some_or] at run ⊢
      · cases here

/-- `.*\bname\b` matches where the name is a word of the line. -/
theorem ways_named {name : List Char} (nonempty : name ≠ []) (word : ∀ c ∈ name, isWord c) (before : Option Char)
    (rest : List Char) :
    (seq (many isDot) (seq boundary (followed name boundary))).ways ⟨before, rest⟩ ≠ [] ↔
      ∃ found ∈ lineWords before rest, found.map Char.toLower = name.map Char.toLower := by
  induction rest generalizing before with
  | nil =>
    rw [ways_many_nil, ways_name nonempty word]
    simp [wordAt, lineWords]
  | cons c cs ih =>
    rw [ways_many_cons]
    cases dot : isDot c with
    | true =>
      rw [if_pos rfl, Ne, List.append_eq_nil_iff, not_and_or, ← Ne, ← Ne, ih, ways_name nonempty word,
        lineWords_cons before dot]
      simp only [List.mem_append, Option.mem_toList, Option.mem_def, or_and_right, exists_or, or_comm]
    | false =>
      rw [if_neg Bool.false_ne_true, ways_name nonempty word, wordAt_lineEnd before dot, lineWords, dot,
        if_neg Bool.false_ne_true]
      simp

/-! ## What a search behind a phrase finds -/

variable {word second : String}

/-- The last word on a line behind the phrase, on the first of these lines that has a word. -/
def lastBehind (word second text : String) : Option (List Char) :=
  (behind word second text).findSome? fun place => (lineWords place.before place.rest).getLast?

/-- The words of the lines behind the phrase. -/
def wordsBehind (word second text : String) : List (List Char) :=
  (behind word second text).flatMap fun place => lineWords place.before place.rest

theorem lineWords_word {before : Option Char} {rest found : List Char} (member : found ∈ lineWords before rest) :
    found ≠ [] ∧ ∀ c ∈ found, isWord c := by
  induction rest generalizing before with
  | nil => cases member
  | cons c cs ih =>
    cases dot : isDot c with
    | false =>
      rw [lineWords, dot, if_neg Bool.false_ne_true] at member
      cases member
    | true =>
      rw [lineWords_cons before dot, List.mem_append, Option.mem_toList, wordAt] at member
      rcases member with here | later
      · split at here
        · rename_i begins
          cases here
          rw [List.takeWhile_cons, if_pos (Bool.and_eq_true_iff.mp begins).1]
          refine ⟨List.cons_ne_nil _ _, List.forall_mem_cons.mpr ⟨(Bool.and_eq_true_iff.mp begins).1, ?_⟩⟩
          intro d inside
          exact List.mem_takeWhile_imp inside
        · cases here
      · exact ih later

theorem lastBehind_word {word second text : String} {last : List Char}
    (found : lastBehind word second text = some last) :
    last ≠ [] ∧ ∀ c ∈ last, isWord c := by
  obtain ⟨place, -, ends⟩ := List.exists_of_findSome?_eq_some found
  exact lineWords_word (List.mem_of_getLast? ends)

theorem search_lastWord (solid : solidWord second) (text : String) :
    (words [word, second] (seq (many isDot) (seq boundary (seq (group (plus isWord)) boundary)))).search text =
      (lastBehind word second text).map fun last => [String.ofList last] := by
  rw [search_pair solid, lastBehind]
  induction behind word second text with
  | nil => rfl
  | cons place rest ih =>
    rw [List.findSome?_cons, List.findSome?_cons, head_lastWord]
    cases (lineWords place.before place.rest).getLast? with
    | none => exact ih
    | some last => rfl

theorem test_named {name : String} (solid : solidWord second) (nonempty : name.toList ≠ [])
    (word' : ∀ c ∈ name.toList, isWord c) (text : String) :
    (words [word, second] (seq (many isDot) (seq boundary (Pattern.text name boundary)))).test text ↔
      ∃ found ∈ wordsBehind word second text, found.map Char.toLower = name.toList.map Char.toLower := by
  have here (place : Place) : (((seq (many isDot) (seq boundary (Pattern.text name boundary))).ways place).head?.map
      Prod.snd).isSome ↔ ∃ found ∈ lineWords place.before place.rest,
        found.map Char.toLower = name.toList.map Char.toLower := by
    rw [Option.isSome_map, List.isSome_head?, ← ways_named nonempty word']
    simp [Pattern.text]
  rw [test, search_pair solid, List.findSome?_isSome_iff]
  simp only [here, wordsBehind, List.mem_flatMap]
  constructor
  · rintro ⟨place, member, found, inLine, same⟩
    exact ⟨found, ⟨place, member, inLine⟩, same⟩
  · rintro ⟨found, ⟨place, member, inLine⟩, same⟩
    exact ⟨place, member, found, inLine, same⟩

end Texts.Regex.Pattern
