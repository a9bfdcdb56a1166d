import AccessControl.Matcher.Token
import AccessControl.Proofs.Decimal.Reading
import AccessControl.Proofs.Journal
import AccessControl.Proofs.Text.Split
import Mathlib.Data.List.TakeWhile

/-! Tokens are lexemes; those of numbers are written as numbers are, and those of names have
parts. -/

namespace AccessControl

open AccessControl.Text AccessControl.Decimal

namespace Token

/-- Every token is the lexeme that starts somewhere in the text. -/
theorem mem_scan {position skip : Nat} {cs : List Char} {tokens : List Token}
    (scanned : scan position skip cs = .ok tokens) :
    ∀ token ∈ tokens, ∃ rest, lexeme? rest = some (token.kind, token.text) := by
  fun_induction scan position skip cs generalizing tokens with
  | case1 => simp_all
  -- Inside a lexeme nothing is found.
  | case2 position passed c rest ih => exact ih scanned
  -- Nothing is found in a blank.
  | case3 position c rest blank ih => exact ih scanned
  -- What does not fit is refused.
  | case4 => cases scanned
  | case5 position c rest visible kind text found ih =>
    -- The lexeme makes the first token, and the others come behind it.
    obtain ⟨others, more, rfl⟩ := map_eq_ok.mp scanned
    intro token member
    rcases List.mem_cons.mp member with rfl | later
    · -- The token is the first one.
      exact ⟨c :: rest, found⟩
    · -- It is one of the others.
      exact ih more token later

/-- Every token of a text is a lexeme. -/
theorem mem_tokenize {text : List Char} {tokens : List Token} (read : tokenize text = .ok tokens) :
    ∀ token ∈ tokens, ∃ rest, lexeme? rest = some (token.kind, token.text) :=
  mem_scan read

/-- What makes a lexeme of each kind at the start of a text. -/
inductive Lexes : List Char → TokenKind → List Char → Prop
  | quoted {c : Char} {rest tail : List Char} (closed : stringTail? c rest = some tail) :
    Lexes (c :: rest) .string (c :: tail)
  | number {cs text : List Char} (found : numberText? cs = some text) : Lexes cs .number text
  | name {c : Char} {rest : List Char} (starts : startsName c = true) :
    Lexes (c :: rest) .name (c :: nameTail rest)
  | sign {cs text : List Char} (listed : text ∈ signs) (within : text <+: cs) : Lexes cs .sign text
  | opening {rest : List Char} : Lexes ('(' :: rest) .opening ['(']
  | closing {rest : List Char} : Lexes (')' :: rest) .closing [')']
  | comma {rest : List Char} : Lexes (',' :: rest) .comma [',']

/-- Every lexeme is made so. -/
theorem lexes_of_lexeme? {cs text : List Char} {kind : TokenKind}
    (found : lexeme? cs = some (kind, text)) : Lexes cs kind text := by
  -- The kinds are tried in turn, and the first one that fits is taken.
  cases cs with
  | nil => cases found
  | cons c rest =>
    rw [lexeme?] at found
    split at found
    · -- A quotation mark begins a text.
      obtain ⟨tail, closed, equal⟩ := Option.map_eq_some_iff.mp found
      cases equal
      exact .quoted closed
    split at found
    · -- A number.
      rename_i number
      cases found
      exact .number number
    split at found
    · -- A letter begins a name.
      rename_i starts
      cases found
      exact .name starts
    split at found
    · -- A sign of the list.
      rename_i sign listed
      cases found
      have within := List.find?_some listed
      exact .sign (List.mem_of_find?_eq_some listed) (List.isPrefixOf_iff_prefix.mp within)
    split at found
    · -- An opening parenthesis.
      rename_i same
      cases found
      obtain rfl := beq_iff_eq.mp same
      exact .opening
    split at found
    · -- A closing parenthesis.
      rename_i same
      cases found
      obtain rfl := beq_iff_eq.mp same
      exact .closing
    split at found
    · -- A comma.
      rename_i same
      cases found
      obtain rfl := beq_iff_eq.mp same
      exact .comma
    · -- Nothing else is a lexeme.
      cases found

/-! ### Numbers -/

/-- A point is no digit. -/
theorem point_not_mem {digits : List Char} (run : IsDigits digits) : '.' ∉ digits :=
  fun member => absurd (run.digits '.' member) (by decide)

/-- What is taken as digits is a run of them, unless there are none. -/
theorem isDigits_takeWhile {cs : List Char} (some : cs.takeWhile isDecimalDigit ≠ []) :
    IsDigits (cs.takeWhile isDecimalDigit) where
  some := some
  digits _ member := List.mem_takeWhile_imp member

/-- A fraction is a point with digits behind it. -/
theorem fractionText_cases (cs : List Char) :
    fractionText cs = [] ∨ ∃ digits, IsDigits digits ∧ fractionText cs = '.' :: digits := by
  unfold fractionText
  split
  · split
    · -- No digit follows the point.
      exact .inl rfl
    · -- The digits are a fraction.
      rename_i digits nonempty
      exact .inr ⟨_, isDigits_takeWhile nonempty, rfl⟩
  · -- There is no point.
    exact .inl rfl

/-- What stands behind the sign at the start of a text, if there is one. -/
def unsigned (cs : List Char) : List Char :=
  cs.drop (minus (cs.head? == some '-')).length

/-- The longest number at the start of a text, were it not for what follows. -/
def numberStart (cs : List Char) : List Char :=
  let whole := (unsigned cs).takeWhile isDecimalDigit
  minus (cs.head? == some '-') ++ (whole ++ fractionText ((unsigned cs).drop whole.length))

/-- A number has digits, and neither a character of a word nor a point follows it. -/
theorem numberText?_eq_some_iff {cs text : List Char} : numberText? cs = some text ↔
    (unsigned cs).takeWhile isDecimalDigit ≠ [] ∧ numberStart cs = text ∧
      ∀ c ∈ (cs.drop text.length).head?, isWord c = false ∧ c ≠ '.' := by
  unfold numberText?
  extract_lets sign body whole start
  have empty : whole.isEmpty = true ↔ (unsigned cs).takeWhile isDecimalDigit = [] :=
    List.isEmpty_iff
  by_cases digits : (unsigned cs).takeWhile isDecimalDigit = []
  · -- Without a digit there is no number.
    rw [if_pos (empty.mpr digits)]
    simp [digits]
  · rw [if_neg (mt empty.mp digits)]
    have same : start = numberStart cs := List.append_assoc ..
    rw [same]
    -- What follows the text decides whether it is a number, but it does not change the text.
    constructor
    · intro found
      split at found
      · -- The text ends behind it.
        rename_i ends
        obtain rfl := Option.some.inj found
        exact ⟨digits, rfl, by simp [ends]⟩
      · -- Another character follows.
        rename_i c rest follows
        split at found
        · -- It continues the text, so there is no number.
          cases found
        · -- It is neither part of a word nor a point.
          rename_i apart
          obtain rfl := Option.some.inj found
          exact ⟨digits, rfl, by simpa [follows] using apart⟩
    · rintro ⟨_, rfl, apart⟩
      split
      · -- The text ends behind the number.
        rfl
      · -- What follows does not go on with it.
        rename_i c rest follows
        rw [follows] at apart
        simp [apart c rfl]

/-- The characters of a number are written as a whole number or as one with a fraction. -/
theorem numberText?_cases {cs text : List Char} (found : numberText? cs = some text) :
    IsWhole text ∧ '.' ∉ text ∨ IsReal text ∧ '.' ∈ text := by
  obtain ⟨nonempty, same, _⟩ := numberText?_eq_some_iff.mp found
  have whole := isDigits_takeWhile nonempty
  rw [numberStart] at same
  generalize (cs.head? == some '-') = negative at same
  have unmarked : '.' ∉ minus negative := by cases negative <;> simp [minus]
  rcases fractionText_cases ((unsigned cs).drop ((unsigned cs).takeWhile isDecimalDigit).length)
    with none | ⟨fraction, part, shape⟩
  · -- There is no fraction.
    rw [none, List.append_nil] at same
    exact .inl ⟨⟨negative, _, whole, same.symm⟩,
      by simp [← same, unmarked, point_not_mem whole]⟩
  · -- The point is that of the fraction.
    rw [shape] at same
    exact .inr ⟨⟨negative, _, fraction, whole, part, same.symm⟩, by simp [← same]⟩

/-- A lexeme of a number is the characters of one. -/
theorem numberText?_of_lexeme? {cs text : List Char} (found : lexeme? cs = some (.number, text)) :
    numberText? cs = some text := by
  cases lexes_of_lexeme? found with
  | number number => exact number

/-! ### Names -/

/-- A part of a name: a letter or an underscore, and behind it more of these or digits. -/
def IsNamePart (part : List Char) : Prop :=
  ∃ first more, part = first :: more ∧ startsName first = true ∧ ∀ c ∈ more, continuesName c = true

/-- A name: parts, and points between them. -/
def IsName (name : List Char) : Prop :=
  ∀ part ∈ splitOn '.' name, IsNamePart part

/-- What starts a part of a name is no point. -/
theorem startsName_ne_point {c : Char} (starts : startsName c = true) : (c == '.') = false := by
  rw [beq_eq_false_iff_ne]
  rintro rfl
  exact absurd starts (by decide)

/-- A part of a name has no point. -/
theorem IsNamePart.point_not_mem {part : List Char} (shape : IsNamePart part) : '.' ∉ part := by
  obtain ⟨first, more, rfl, starts, continues⟩ := shape
  intro member
  rcases List.mem_cons.mp member with rfl | behind
  · -- No name starts with a point.
    exact absurd starts (by decide)
  · -- No name goes on with one.
    exact absurd (continues '.' behind) (by decide)

/-- Behind the first character of a name its first part goes on, and the others are parts. -/
theorem splitOn_nameTail (cs : List Char) : ∃ first others,
    splitOn '.' (nameTail cs) = first :: others ∧ (∀ c ∈ first, continuesName c = true) ∧
      ∀ part ∈ others, IsNamePart part := by
  fun_induction nameTail cs with
  -- The text ends.
  | case1 => exact ⟨[], [], rfl, by simp, by simp⟩
  -- Nothing follows the point.
  | case2 => exact ⟨[], [], rfl, by simp, by simp⟩
  | case3 c rest starts ih =>
    -- A point ends the first part, and the character behind it starts another.
    obtain ⟨first, others, split, continues, parts⟩ := ih
    refine ⟨[], (c :: first) :: others, by simp [splitOn, split, startsName_ne_point starts],
      by simp, ?_⟩
    intro part member
    rcases List.mem_cons.mp member with rfl | later
    · exact ⟨c, first, rfl, starts, continues⟩
    · exact parts part later
  -- What follows the point starts no name.
  | case4 => exact ⟨[], [], rfl, by simp, by simp⟩
  -- The character goes on with the first part.
  | case5 c rest point continuing ih =>
    obtain ⟨first, others, split, continues, parts⟩ := ih
    have other : (c == '.') = false := beq_eq_false_iff_ne.mpr fun equal => point equal
    exact ⟨c :: first, others, by simp [splitOn, split, other],
      List.forall_mem_cons.mpr ⟨continuing, continues⟩, parts⟩
  -- The character ends the name.
  | case6 => exact ⟨[], [], rfl, by simp, by simp⟩

/-- The lexeme of a name is a first character that may start one, and what goes on behind it. -/
theorem startsName_of_lexeme? {cs text : List Char} (found : lexeme? cs = some (.name, text)) :
    ∃ c rest, startsName c = true ∧ text = c :: nameTail rest := by
  cases lexes_of_lexeme? found with
  | @name c rest starts => exact ⟨c, rest, starts, rfl⟩

/-- The lexeme of a name is one. -/
theorem isName_of_lexeme? {cs text : List Char} (found : lexeme? cs = some (.name, text)) :
    IsName text := by
  obtain ⟨c, rest, starts, rfl⟩ := startsName_of_lexeme? found
  obtain ⟨first, others, split, continues, parts⟩ := splitOn_nameTail rest
  intro part member
  rw [splitOn, split] at member
  simp only [startsName_ne_point starts, Bool.false_eq_true, if_false] at member
  rcases List.mem_cons.mp member with rfl | later
  · -- The first part starts with the letter.
    exact ⟨c, first, rfl, starts, continues⟩
  · -- All others are parts as they are.
    exact parts part later

end Token

end AccessControl
