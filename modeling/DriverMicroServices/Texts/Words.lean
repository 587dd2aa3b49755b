import DriverMicroServices.Texts.Removal

/-! Two words of a pattern in a text that is put together from parts. A match does not go over a character that
it cannot have, and white space around a text adds none. -/
namespace Texts.Regex.Pattern

variable {pattern : Pattern} {text other read : List Char} {word second : String}

/-! ## What separates and surrounds -/

/-- A match begins and ends with a character that is no white space. -/
def Dark (pattern : Pattern) : Prop :=
  ∀ read, pattern.Spells read →
    (∃ c rest, read = c :: rest ∧ isSpace c = false) ∧ ∃ front c, read = front ++ [c] ∧ isSpace c = false

/-- White space before and behind a text is not part of a match. -/
theorem absent_padded {blank blank' : List Char} (dark : Dark pattern) (spaces : ∀ c ∈ blank, isSpace c)
    (spaces' : ∀ c ∈ blank', isSpace c) (absent : Absent pattern text) :
    Absent pattern (blank ++ (text ++ blank')) := by
  intro before read after split spelled
  obtain ⟨⟨c, rest, begun, lit⟩, front, d, ended, lit'⟩ := dark read spelled
  obtain ⟨before', behind⟩ : ∃ before', text ++ blank' = before' ++ (read ++ after) := by
    rcases List.append_eq_append_iff.mp split with ⟨middle, -, same⟩ | ⟨middle, front, same⟩
    · exact ⟨middle, same⟩
    · cases middle with
      | nil => exact ⟨[], same.symm⟩
      | cons e middle =>
        rw [begun, List.cons_append, List.cons_append] at same
        obtain ⟨rfl, -⟩ := List.cons.inj same
        exact absurd (spaces c (front ▸ List.mem_append_right _ List.mem_cons_self)) (Bool.eq_false_iff.mp lit)
  rw [← List.append_assoc] at behind
  rcases List.append_eq_append_iff.mp behind with ⟨middle, longer, same⟩ | ⟨ending, shorter, -⟩
  · obtain rfl | ⟨front', e, rfl⟩ := List.eq_nil_or_concat' middle
    · exact absent before' read [] (by rw [List.append_nil] at longer ⊢; exact longer.symm) spelled
    · rw [ended, ← List.append_assoc, ← List.append_assoc] at longer
      obtain rfl : d = e := List.singleton_inj.mp (List.append_inj' longer rfl).2
      have inside : d ∈ blank' := same ▸ List.mem_append_left _ (List.mem_append_right _ List.mem_cons_self)
      exact absurd (spaces' d inside) (Bool.eq_false_iff.mp lit')
  · exact absent before' read ending (by rw [shorter, List.append_assoc]) spelled

/-! ## Letters -/

theorem spells_blank : (plus isSpace).Spells [' '] :=
  (spells_plus _ _).mpr ⟨List.cons_ne_nil _ _, List.all_eq_true.mp (by decide)⟩

/-- Letters of either case spell the word. -/
theorem spells_followed_of {letters word rest : List Char} {next : Pattern}
    (same : letters.map Char.toLower = word.map Char.toLower) (spelled : next.Spells rest) :
    (followed word next).Spells (letters ++ rest) := by
  induction word generalizing letters with
  | nil =>
    obtain rfl := List.map_eq_nil_iff.mp same
    exact spelled
  | cons c cs ih =>
    obtain ⟨d, ds, rfl, letter, further⟩ := List.map_eq_cons_iff.mp same
    exact ⟨[d], ds ++ rest, rfl, ⟨d, rfl, decide_eq_true letter⟩, ih further⟩

/-- A character is in lower case, or one of the capitals from A to Z. -/
theorem toLower_eq (c : Char) : c.toLower = c ∨ c.toNat ∈ List.range' 65 26 := by
  by_cases capital : 65 ≤ c.toNat ∧ c.toNat ≤ 90
  · exact .inr (List.mem_range'_1.mpr (by omega))
  · refine .inl ?_
    unfold Char.toLower
    exact dif_neg capital

theorem toLower_isSpace {c : Char} (space : isSpace c) : c.toLower = c := by
  have capitals : ∀ n ∈ List.range' 65 26, isSpace (Char.ofNat n) = false := by decide
  refine (toLower_eq c).resolve_right fun capital => ?_
  have dark := capitals c.toNat capital
  rw [Char.ofNat_toNat, space] at dark
  cases dark

/-- The blank has no other case. -/
theorem eq_blank {c : Char} (same : c.toLower = ' '.toLower) : c = ' ' := by
  have capitals : ∀ n ∈ List.range' 65 26, (Char.ofNat n).toLower ≠ ' '.toLower := by decide
  rcases toLower_eq c with lower | capital
  · rw [lower] at same
    exact same
  · have other := capitals c.toNat capital
    rw [Char.ofNat_toNat] at other
    exact absurd same other

theorem isSpace_of_toLower {c d : Char} (same : c.toLower = d.toLower) (dark : isSpace d.toLower = false) :
    isSpace c = false := by
  rw [← Bool.not_eq_true]
  intro space
  rw [← same, toLower_isSpace space, space] at dark
  cases dark

/-- Neither the first character of the one word nor the last one of the other is white space. -/
def edged (word second : String) : Bool :=
  word.toList.head?.any (fun c => !isSpace c.toLower) && second.toList.getLast?.any fun c => !isSpace c.toLower

theorem dark_pair (edges : edged word second) : Dark (pair word second) := by
  intro read spelled
  obtain ⟨letters, spaces, letters', rfl, same, same', -, -⟩ := spells_pair spelled
  obtain ⟨begun, ended⟩ := Bool.and_eq_true_iff.mp edges
  obtain ⟨c, head, lit⟩ := (Option.any_eq_true _ _).mp begun
  obtain ⟨d, last, lit'⟩ := (Option.any_eq_true _ _).mp ended
  rw [Bool.not_eq_true'] at lit lit'
  obtain ⟨rest, split⟩ := List.head?_eq_some_iff.mp head
  obtain ⟨front, split'⟩ := List.getLast?_eq_some_iff.mp last
  rw [split, List.map_cons] at same
  rw [split', List.map_append, List.map_singleton] at same'
  obtain ⟨e, late, rfl, letter, -⟩ := List.map_eq_cons_iff.mp same
  obtain ⟨early, ending, rfl, -, single⟩ := List.map_eq_append_iff.mp same'
  obtain ⟨f, rfl, letter'⟩ := List.map_eq_singleton_iff.mp single
  refine ⟨⟨e, _, rfl, isSpace_of_toLower letter lit⟩, e :: late ++ (spaces ++ early), f, ?_,
    isSpace_of_toLower letter' lit'⟩
  simp only [List.append_assoc, List.cons_append]

/-- A character that is no white space and no letter of the words. -/
theorem apart_pair {c : Char} (lower : c.toLower = c) (dark : isSpace c = false)
    (apart : c ∉ word.toList.map Char.toLower) (apart' : c ∉ second.toList.map Char.toLower) :
    ∀ read, (pair word second).Spells read → c ∉ read := by
  intro read spelled member
  obtain ⟨letters, spaces, letters', rfl, same, same', -, blank⟩ := spells_pair spelled
  rw [List.mem_append, List.mem_append] at member
  rcases member with inside | inside | inside
  · exact apart (same ▸ List.mem_map.mpr ⟨c, inside, lower⟩)
  · exact Bool.false_ne_true (dark.symm.trans (blank c inside))
  · exact apart' (same' ▸ List.mem_map.mpr ⟨c, inside, lower⟩)

/-- A word in front of a blank is read before the blank, or behind it. -/
theorem absent_before {front rest : List Char} (solid : ∀ c ∈ word.toList, isSpace c.toLower = false)
    (unbegun : Absent (pair word "") (front ++ [' '])) (absent : Absent (pair word second) rest) :
    Absent (pair word second) (front ++ ' ' :: rest) := by
  intro before read after split spelled
  obtain ⟨letters, spaces, letters', rfl, same, same', nonempty, blank⟩ := spells_pair spelled
  obtain ⟨s, spaces, rfl⟩ := List.exists_cons_of_ne_nil nonempty
  have dark : ' ' ∉ letters := by
    intro member
    obtain ⟨c, inside, letter⟩ := List.mem_map.mp (same ▸ List.mem_map_of_mem (f := Char.toLower) member)
    exact Bool.false_ne_true ((isSpace_of_toLower letter.symm (solid c inside)).symm.trans (by decide))
  have begun : (pair word "").Spells (letters ++ ([s] ++ [])) :=
    spells_followed_of same ⟨[s], [], rfl,
      (spells_plus _ _).mpr ⟨List.cons_ne_nil _ _, by simpa using blank s List.mem_cons_self⟩, List.forall_mem_nil _⟩
  have split' : front ++ ' ' :: rest = (before ++ letters) ++ s :: (spaces ++ (letters' ++ after)) := by
    simpa only [List.append_assoc, List.cons_append] using split
  -- the blank behind the word is the one in front of the rest, stands before it, or behind it
  rcases List.append_eq_append_iff.mp split' with ⟨middle, longer, tail⟩ | ⟨middle, shorter, tail⟩
  · cases middle with
    | nil =>
      obtain ⟨rfl, -⟩ := List.cons.inj tail
      refine unbegun before _ [] ?_ begun
      rw [List.append_nil] at longer
      simp only [← longer, List.append_assoc, List.append_nil]
    | cons c middle =>
      obtain rfl : ' ' = c := (List.cons.inj tail).1
      have later : rest = middle ++ s :: (spaces ++ (letters' ++ after)) := (List.cons.inj tail).2
      rcases List.append_eq_append_iff.mp longer with ⟨gap, -, inside⟩ | ⟨gap, -, inside⟩
      · exact dark (inside ▸ List.mem_append_right _ List.mem_cons_self)
      · cases gap with
        | nil =>
          rw [List.nil_append] at inside
          exact dark (inside ▸ List.mem_cons_self)
        | cons d gap =>
          obtain rfl : middle = gap ++ letters := (List.cons.inj inside).2
          exact absent gap _ after (by rw [later]; simp only [List.append_assoc, List.cons_append]) spelled
  · have behind : ∃ more, front ++ [' '] = before ++ ((letters ++ ([s] ++ [])) ++ more) := by
      cases middle with
      | nil =>
        obtain ⟨rfl, -⟩ := List.cons.inj tail
        exact ⟨[], by simp [shorter]⟩
      | cons d middle =>
        obtain ⟨rfl, -⟩ := List.cons.inj tail
        exact ⟨middle ++ [' '], by simp [shorter]⟩
    obtain ⟨more, behind⟩ := behind
    exact unbegun before _ more behind begun

/-! ## Phrases -/

/-- A phrase that begins with two words has them in it. -/
theorem contains_phrase {phrase more : List Char} {next : Pattern}
    (split : phrase = word.toList ++ ' ' :: (second.toList ++ more)) :
    Contains (pair word second) (followed phrase next) := by
  intro read spelled
  obtain ⟨letters, rest, rfl, same, -, -⟩ := spells_followed spelled
  rw [split, List.map_append, List.map_cons, List.map_append] at same
  obtain ⟨first, further, rfl, one, same⟩ := List.map_eq_append_iff.mp same
  obtain ⟨blank, further, rfl, space, same⟩ := List.map_eq_cons_iff.mp same
  obtain ⟨last, further, rfl, two, -⟩ := List.map_eq_append_iff.mp same
  obtain rfl := eq_blank space
  refine ⟨[], first ++ ([' '] ++ (last ++ [])), further ++ rest, by simp, ?_⟩
  exact spells_followed_of one ⟨[' '], _, rfl, spells_blank, spells_followed_of two spells_nothing⟩

end Texts.Regex.Pattern
