import DriverMicroServices.Texts.Tokens
import Mathlib.Data.List.Forall2

/-! Texts that are put together from fixed parts and given names. A name is a token of its own where
the part after it cannot continue it. -/
namespace Texts.Tokens

/-- The character ends a name before it. -/
def isBreak (c : Char) : Bool := !isWordChar c && c ∉ ['"', '\'']

/-- The token that a text is wherever a name may stand. A name with `'` would end a literal around it. -/
def nameToken (text : String) : Option Token :=
  if '\'' ∈ text.toList then none
  else
    match scan .plain text.toList with
    | ([], .word read) => some (.ofWord read)
    | ([], .nameEnd read) => some (.name (spelled read))
    | _ => none

/-- A character that breaks the token off. -/
theorem lex_break {mode : Mode} {token : Token} (ends : mode.stop = [token])
    (breaks : ∀ c, isBreak c = true → mode.step c = after token c) {rest : List Char}
    (begins : rest.head?.all isBreak = true) : lex mode rest = token :: lex .plain rest := by
  cases rest with
  | nil => exact ends
  | cons c cs =>
    rw [lex, breaks c begins]
    rfl

theorem lex_nameToken {text : String} {token : Token} (named : nameToken text = some token) {rest : List Char}
    (begins : rest.head?.all isBreak = true) :
    lex .plain (text.toList ++ rest) = token :: lex .plain rest := by
  unfold nameToken at named
  split at named
  · cases named
  · rw [lex_append]
    split at named
    · rename_i read ended
      cases named
      rw [ended]
      refine lex_break rfl (fun c breaks => ?_) begins
      obtain ⟨other, -, apart⟩ : isWordChar c = false ∧ c ≠ '"' ∧ c ≠ '\'' := by simpa [isBreak] using breaks
      simp [Mode.step, other, apart]
    · rename_i read ended
      cases named
      rw [ended]
      refine lex_break rfl (fun c breaks => ?_) begins
      obtain ⟨-, other, -⟩ : isWordChar c = false ∧ c ≠ '"' ∧ c ≠ '\'' := by simpa [isBreak] using breaks
      simp [Mode.step, other]
    · cases named

/-- What comes next ends a name before it. -/
def breaks (texts : List String) : Bool := texts.head?.all fun next => next.toList.head?.any isBreak

/-- The texts one after the other are read as the tokens. -/
inductive Spelled : List String → List Token → Prop where
  | none : Spelled [] []
  | last (text : String) : Spelled [text] (tokens text)
  | fixed {text : String} {rest : List String} {list : List Token}
      (ends : (scan .plain text.toList).2 = .plain) (more : Spelled rest list) :
      Spelled (text :: rest) ((scan .plain text.toList).1 ++ list)
  | name {text : String} {rest : List String} {token : Token} {list : List Token}
      (named : nameToken text = some token) (begins : breaks rest = true) (more : Spelled rest list) :
      Spelled (text :: rest) (token :: list)

theorem head_join {texts : List String} (begins : breaks texts = true) :
    (String.join texts).toList.head?.all isBreak = true := by
  cases texts with
  | nil => rw [String.join_nil]; rfl
  | cons next rest =>
    rw [String.join_cons, String.toList_append, List.head?_append]
    unfold breaks at begins
    cases first : next.toList.head? with
    | none => simp [first] at begins
    | some c => simpa [first] using begins

theorem Spelled.tokens_eq {texts : List String} {list : List Token} (spelled : Spelled texts list) :
    tokens (String.join texts) = list := by
  induction spelled with
  | none => rw [String.join_nil]; rfl
  | last text => rw [String.join_cons, String.join_nil, String.append_empty]
  | @fixed text rest list ends more ih =>
    rw [tokens, String.join_cons, String.toList_append, lex_append, ends, ← ih, tokens]
  | @name text rest token list named begins more ih =>
    rw [tokens, String.join_cons, String.toList_append, lex_nameToken named (head_join begins), ← ih, tokens]

/-- Names with a fixed part between them. -/
def listed (separator : List Token) : List Token → List Token
  | [] => []
  | [token] => [token]
  | token :: rest => token :: (separator ++ listed separator rest)

theorem mem_listed {separator names : List Token} {token : Token} (member : token ∈ listed separator names) :
    token ∈ separator ∨ token ∈ names := by
  induction names with
  | nil => exact .inr member
  | cons first rest ih =>
    cases rest with
    | nil => exact .inr member
    | cons second others =>
      rcases List.mem_cons.mp member with rfl | member
      · exact .inr List.mem_cons_self
      · rcases List.mem_append.mp member with between | later
        · exact .inl between
        · exact (ih later).imp_right (List.mem_cons_of_mem _)

theorem Spelled.names {separator : String} {rest names : List String} {named list : List Token}
    (tokens : List.Forall₂ (fun name token => nameToken name = some token) names named)
    (ends : (scan .plain separator.toList).2 = .plain) (between : breaks [separator] = true)
    (begins : breaks rest = true) (more : Spelled rest list) :
    Spelled (names.intersperse separator ++ rest) (listed (scan .plain separator.toList).1 named ++ list) := by
  induction tokens with
  | nil => exact more
  | @cons name token others named' first later ih =>
    cases later with
    | nil => exact .name first begins more
    | @cons second token' others named' next later =>
      have apart : breaks (separator :: ((second :: others).intersperse separator ++ rest)) = true := between
      have spelled := Spelled.name first apart (.fixed ends ih)
      rw [← List.append_assoc] at spelled
      exact spelled

theorem join_intersperse (separator : String) (names : List String) :
    String.join (names.intersperse separator) = separator.intercalate names := by
  induction names with
  | nil => simp
  | cons first rest ih =>
    cases rest with
    | nil => simp
    | cons second others =>
      rw [List.intersperse_cons_cons, String.join_cons, String.join_cons, ih, String.intercalate_cons_cons,
        String.append_assoc]

theorem join_names (before : List String) (separator : String) (names after : List String) :
    String.join (before ++ separator.intercalate names :: after) =
      String.join (before ++ (names.intersperse separator ++ after)) := by
  rw [String.join_append, String.join_cons, String.join_append, String.join_append, join_intersperse]

end Texts.Tokens
