import AccessControl.Proofs.Matcher.Token
import AccessControl.Proofs.Text.Blanks
import Mathlib.Data.List.Find

/-! Blanks, parentheses and commas end every token before them: what stands there has the same
tokens as alone, and behind it there are those of the rest. -/

namespace AccessControl

open AccessControl.Text AccessControl.Decimal

namespace Token

/-! ### Lexemes at the start -/

/-- A part at the start of what stands behind another one goes on with that. -/
theorem append_atStart {front part cs : List Char} (within : front <+: cs)
    (inside : part <+: cs.drop front.length) : front ++ part <+: cs := by
  -- The text is the first part with what stands behind it.
  rw [List.prefix_iff_eq_append] at within
  rw [← within]
  exact (List.prefix_append_right_inj front).mpr inside

/-- A fraction stands at the start. -/
theorem fractionText_atStart (cs : List Char) : fractionText cs <+: cs := by
  unfold fractionText
  split
  · rename_i rest
    have digits := List.takeWhile_prefix isDecimalDigit (l := rest)
    split
    · -- A point without digits is no fraction.
      exact List.nil_prefix
    · -- The point is followed by digits.
      exact (List.prefix_cons_inj '.').mpr digits
  · -- There is no point.
    exact List.nil_prefix

/-- The sign of a number stands at the start. -/
theorem minus_atStart (cs : List Char) : minus (cs.head? == some '-') <+: cs := by
  cases cs with
  | nil => exact List.nil_prefix
  | cons c rest => by_cases sign : c = '-' <;> simp [minus, sign]

/-- A number stands at the start. -/
theorem numberStart_atStart (cs : List Char) : numberStart cs <+: cs :=
  append_atStart (minus_atStart cs) <|
    append_atStart (List.takeWhile_prefix isDecimalDigit) (fractionText_atStart _)

/-- What goes on with a name stands at the start. -/
theorem nameTail_atStart (cs : List Char) : nameTail cs <+: cs := by
  fun_induction nameTail cs with
  | case1 => exact List.nil_prefix
  | case2 => exact List.nil_prefix
  -- The point is followed by the start of a part.
  | case3 c rest starts ih =>
    exact (List.prefix_cons_inj '.').mpr ((List.prefix_cons_inj c).mpr ih)
  | case4 => exact List.nil_prefix
  -- The character goes on with the name.
  | case5 c rest point continuing ih => exact (List.prefix_cons_inj c).mpr ih
  | case6 => exact List.nil_prefix

/-- A quoted text ends at its closing mark, whatever is behind it. -/
theorem stringTail?_append {mark : Char} {cs tail : List Char}
    (found : stringTail? mark cs = some tail) (more : List Char) :
    tail <+: cs ∧ stringTail? mark (cs ++ more) = some tail := by
  fun_induction stringTail? mark cs generalizing tail with
  | case1 => cases found
  | case2 => cases found
  | case3 => cases found
  -- A backslash keeps the character behind it.
  | case4 c rest kept ih =>
    obtain ⟨tail, later, rfl⟩ := Option.map_eq_some_iff.mp found
    obtain ⟨within, same⟩ := ih later
    exact ⟨by simpa using within, by simp [stringTail?, kept, same]⟩
  -- The mark closes the text.
  | case5 c rest plain closes =>
    obtain rfl := Option.some.inj found
    exact ⟨by simp, by simp [stringTail?, closes]⟩
  -- Any other character is part of the text.
  | case6 c rest plain other ih =>
    obtain ⟨tail, later, rfl⟩ := Option.map_eq_some_iff.mp found
    obtain ⟨within, same⟩ := ih later
    exact ⟨by simpa using within, by simp [stringTail?, other, same]⟩

/-- A lexeme stands at the start. -/
theorem lexeme?_atStart {cs text : List Char} {kind : TokenKind}
    (found : lexeme? cs = some (kind, text)) : text <+: cs := by
  cases lexes_of_lexeme? found with
  -- The text goes up to its closing mark.
  | @quoted c rest tail closed =>
    exact (List.prefix_cons_inj c).mpr (stringTail?_append closed []).1
  | number number =>
    -- A number is what it starts with.
    obtain ⟨_, rfl, _⟩ := numberText?_eq_some_iff.mp number
    exact numberStart_atStart _
  -- A name is its first character and its tail.
  | @name c rest starts => exact (List.prefix_cons_inj c).mpr (nameTail_atStart rest)
  | sign listed within => exact within
  | opening => exact List.prefix_append ['('] _
  | closing => exact List.prefix_append [')'] _
  | comma => exact List.prefix_append [','] _

/-! ### Characters between lexemes -/

/-- No number, name or sign has the character, and it cannot make a number into something else. -/
structure Breaks (b : Char) : Prop where
  digit : isDecimalDigit b = false
  word : isWord b = false
  name : continuesName b = false
  point : b ≠ '.'
  minus : b ≠ '-'
  sign : ∀ sign ∈ signs, b ∉ sign

/-- What goes on with a name is a character of a word. -/
theorem isWord_of_continuesName {c : Char} (continuing : continuesName c = true) :
    isWord c = true := by
  -- The characters of names are of the ASCII range, where words have no others.
  have ascii : c.toNat < 128 := by
    simp only [continuesName, startsName, Bool.or_eq_true, isAsciiLetter_iff, isAsciiDigit_iff,
      beq_iff_eq] at continuing
    rcases continuing with (letter | rfl) | digit
    · -- A letter.
      omega
    · -- The underscore.
      decide
    · -- A digit.
      omega
  simpa [isWord, ascii, continuesName, startsName, or_right_comm] using continuing

/-- Every blank stands between lexemes. -/
theorem breaks_of_isBlank {b : Char} (blank : isBlank b = true) : Breaks b where
  digit := by
    rw [← Bool.not_eq_true]
    intro digit
    simpa [blank] using isBlank_of_digit digit
  word := isWord_of_isBlank blank
  name := by
    rw [← Bool.not_eq_true]
    intro continuing
    simpa [isWord_of_isBlank blank] using isWord_of_continuesName continuing
  point := by
    rintro rfl
    exact absurd blank (by decide)
  minus := by
    rintro rfl
    exact absurd blank (by decide)
  sign := by
    intro sign listed member
    have visible : (signs.all fun sign => sign.all fun c => !isBlank c) = true := by decide
    have seen := List.all_eq_true.mp (List.all_eq_true.mp visible sign listed) b member
    simp [blank] at seen

/-- Parentheses and commas end every lexeme but quoted texts. -/
theorem breaks_of_mem : ∀ b ∈ ['(', ')', ','], Breaks b := by
  simp only [List.forall_mem_cons]
  exact ⟨⟨by decide, by decide, by decide, by decide, by decide, by decide⟩,
    ⟨by decide, by decide, by decide, by decide, by decide, by decide⟩,
    ⟨by decide, by decide, by decide, by decide, by decide, by decide⟩, by simp⟩

/-! ### Lexemes in front of a break -/

section

variable {b : Char} (breaks : Breaks b) (cs more : List Char)

include breaks

/-- Digits end at a break. -/
theorem Breaks.takeWhile_append :
    (cs ++ b :: more).takeWhile isDecimalDigit = cs.takeWhile isDecimalDigit := by
  induction cs with
  | nil => simp [breaks.digit]
  | cons c rest ih => simp only [List.cons_append, List.takeWhile_cons, ih]

/-- A fraction ends at a break. -/
theorem Breaks.fractionText_append : fractionText (cs ++ b :: more) = fractionText cs := by
  cases cs with
  | nil => simp [fractionText, breaks.point]
  | cons c rest =>
    by_cases point : c = '.'
    · simp only [point, List.cons_append, fractionText, breaks.takeWhile_append]
    · simp [fractionText, point]

/-- A break is no sign. -/
theorem Breaks.head?_append : ((cs ++ b :: more).head? == some '-') = (cs.head? == some '-') := by
  cases cs with
  | nil => simp [breaks.minus]
  | cons c rest => rfl

/-- A sign is dropped as well if there is a break somewhere. -/
theorem Breaks.unsigned_append : unsigned (cs ++ b :: more) = unsigned cs ++ b :: more := by
  rw [unsigned, breaks.head?_append, List.drop_append_of_le_length (minus_atStart cs).length_le,
    unsigned]

/-- A number ends at a break, which does not keep it from being one. -/
theorem Breaks.numberText?_append : numberText? (cs ++ b :: more) = numberText? cs := by
  have digits := breaks.takeWhile_append (unsigned cs) more
  have start : numberStart (cs ++ b :: more) = numberStart cs := by
    have inside := (List.takeWhile_prefix isDecimalDigit (l := unsigned cs)).length_le
    rw [numberStart, breaks.head?_append, breaks.unsigned_append, digits,
      List.drop_append_of_le_length inside, breaks.fractionText_append, numberStart]
  refine Option.ext fun text => ?_
  rw [numberText?_eq_some_iff, numberText?_eq_some_iff, breaks.unsigned_append, digits, start]
  refine and_congr_right fun _ => and_congr_right fun same => ?_
  -- Behind the number there is the same as before, or else the break.
  rw [← same, List.drop_append_of_le_length (numberStart_atStart cs).length_le]
  cases cs.drop (numberStart cs).length with
  -- Behind the number there is the break, which is no part of it.
  | nil => simp [breaks.word, breaks.point]
  -- Behind the number there is a character from before the break.
  | cons c rest => rfl

/-- A name ends at a break. -/
theorem Breaks.nameTail_append : nameTail (cs ++ b :: more) = nameTail cs := by
  have starts : startsName b = false := by
    have name := breaks.name
    rw [continuesName, Bool.or_eq_false_iff] at name
    exact name.1
  -- The break goes on with no part of the name, and behind a point it starts none.
  fun_induction nameTail cs with
  | case1 => simp [nameTail, breaks.name, breaks.point]
  | case2 => simp [nameTail, starts]
  | case3 c rest start ih => simp [nameTail, start, ih]
  | case4 c rest start => simp [nameTail, start]
  | case5 c rest point continuing ih => simp [nameTail, continuing, ih]
  | case6 c rest point continuing => simp [nameTail, continuing]

/-- A sign ends at a break. -/
theorem Breaks.isPrefixOf_append {sign : List Char} (listed : sign ∈ signs) :
    sign.isPrefixOf (cs ++ b :: more) = sign.isPrefixOf cs := by
  -- The characters of the sign are compared one by one, and none of them is the break.
  have free := breaks.sign sign listed
  clear listed
  induction sign generalizing cs with
  | nil => rfl
  | cons s sign ih =>
    rw [List.mem_cons, not_or] at free
    cases cs with
    | nil => simp [List.isPrefixOf, Ne.symm free.1]
    | cons c rest => simp [List.isPrefixOf, ih rest free.2]

/-- A lexeme ends at a break, unless it is a text whose quotes are still open. -/
theorem Breaks.lexeme?_append {lexeme : TokenKind × List Char} (found : lexeme? cs = some lexeme) :
    lexeme? (cs ++ b :: more) = some lexeme := by
  cases cs with
  | nil => cases found
  | cons c rest =>
    have number := breaks.numberText?_append (c :: rest) more
    have sign : (signs.find? fun sign => sign.isPrefixOf (c :: rest ++ b :: more)) =
        signs.find? fun sign => sign.isPrefixOf (c :: rest) :=
      List.find?_congr fun sign listed => breaks.isPrefixOf_append (c :: rest) more listed
    rw [List.cons_append] at number sign ⊢
    rw [lexeme?] at found ⊢
    by_cases quote : (c == '\'' || c == '"') = true
    · -- Nothing behind the closing mark is read, and that stands before the break.
      rw [if_pos quote] at found ⊢
      obtain ⟨tail, closed, rfl⟩ := Option.map_eq_some_iff.mp found
      rw [(stringTail?_append closed (b :: more)).2, Option.map_some]
    · -- All other lexemes are read alike with the break behind them.
      rw [if_neg quote] at found ⊢
      rwa [number, breaks.nameTail_append, sign]

end

/-! ### Tokens around a break -/

/-- The token at a distance behind its place. -/
def moveBy (distance : Nat) (token : Token) : Token :=
  { token with position := token.position + distance }

/-- Characters further on make the same tokens there. -/
theorem scan_add {position passed : Nat} {cs : List Char} {tokens : List Token}
    (scanned : scan position passed cs = .ok tokens) (distance : Nat) :
    scan (position + distance) passed cs = .ok (tokens.map (moveBy distance)) := by
  -- Positions are only counted up, so every step is the same at a distance.
  fun_induction scan position passed cs generalizing tokens with
  -- Nothing is left.
  | case1 =>
    obtain rfl := Except.ok.inj scanned
    simp [scan]
  -- The character is inside of the last lexeme.
  | case2 position passed c rest ih =>
    rw [scan, Nat.add_right_comm, ih scanned]
  -- The character is a blank.
  | case3 position c rest blank ih =>
    rw [scan, if_pos blank, Nat.add_right_comm, ih scanned]
  | case4 => cases scanned
  -- The position of the token moves as well.
  | case5 position c rest visible kind text found ih =>
    obtain ⟨others, more, rfl⟩ := map_eq_ok.mp scanned
    have later := ih more
    rw [Nat.add_right_comm] at later
    simp only [scan, visible, Bool.false_eq_true, if_false, found, later]
    rfl

/-- Blanks make no tokens. -/
theorem scan_blanks {blanks : List Char} (all : ∀ c ∈ blanks, isBlank c = true) (position : Nat)
    (more : List Char) : scan position 0 (blanks ++ more) =
      scan (position + blanks.length) 0 more := by
  induction blanks generalizing position with
  | nil => rfl
  | cons c rest ih =>
    rw [List.forall_mem_cons] at all
    rw [List.cons_append, scan, if_pos all.1, ih all.2, List.length_cons, Nat.add_assoc,
      Nat.add_comm 1]

/-- What stands before a break has the same tokens as alone, and from the break on there are those
of the rest. -/
theorem Breaks.scan_append {b : Char} (breaks : Breaks b) {position passed : Nat} {cs : List Char}
    {tokens : List Token} (scanned : scan position passed cs = .ok tokens)
    (inside : passed ≤ cs.length) (more : List Char) :
    scan position passed (cs ++ b :: more) =
      (scan (position + cs.length) 0 (b :: more)).map (tokens ++ ·) := by
  -- The characters before the break are passed one by one, and each of them adds to the position.
  have place (position : Nat) (c : Char) (rest : List Char) :
      position + 1 + rest.length = position + (c :: rest).length := by
    rw [List.length_cons]
    omega
  fun_induction scan position passed cs generalizing tokens with
  -- The break is reached.
  | case1 position passed =>
    obtain rfl := Except.ok.inj scanned
    obtain rfl := Nat.le_zero.mp inside
    rw [List.nil_append, List.length_nil, Nat.add_zero]
    cases scan position 0 (b :: more) <;> rfl
  -- The character is inside of the last lexeme.
  | case2 position passed c rest ih =>
    rw [List.cons_append, scan, ih scanned (Nat.le_of_succ_le_succ inside), place position c]
  -- The character is a blank.
  | case3 position c rest first ih =>
    rw [List.cons_append, scan, if_pos first, ih scanned (Nat.zero_le _), place position c]
  | case4 => cases scanned
  | case5 position c rest visible kind text found ih =>
    -- The lexeme is the same as without the break, and it ends before that.
    obtain ⟨others, later, rfl⟩ := map_eq_ok.mp scanned
    have same := breaks.lexeme?_append (c :: rest) more found
    have length := (lexeme?_atStart found).length_le
    rw [List.length_cons] at length
    rw [List.cons_append] at same ⊢
    rw [scan]
    simp only [visible, Bool.false_eq_true, if_false, same, ih later (by omega), place position c]
    cases scan (position + (c :: rest).length) 0 (b :: more) <;> rfl

/-- Behind a blank there are the tokens of the rest, whatever stands before it. -/
theorem scan_append {b : Char} (blank : isBlank b = true) {position passed : Nat} {cs : List Char}
    {tokens : List Token} (scanned : scan position passed cs = .ok tokens)
    (inside : passed ≤ cs.length) (more : List Char) :
    scan position passed (cs ++ b :: more) =
      (scan (position + cs.length + 1) 0 more).map (tokens ++ ·) := by
  rw [(breaks_of_isBlank blank).scan_append scanned inside, scan, if_pos blank]

/-- Blanks, one at least, split the tokens before them from those of the rest. -/
theorem scan_append_blanks {blanks : List Char} (some : blanks ≠ [])
    (all : ∀ c ∈ blanks, isBlank c = true) {position : Nat} {cs : List Char} {tokens : List Token}
    (scanned : scan position 0 cs = .ok tokens) (more : List Char) :
    scan position 0 (cs ++ (blanks ++ more)) =
      (scan (position + cs.length + blanks.length) 0 more).map (tokens ++ ·) := by
  obtain ⟨b, rest, rfl⟩ := List.exists_cons_of_ne_nil some
  rw [List.forall_mem_cons] at all
  rw [List.cons_append, scan_append all.1 scanned (Nat.zero_le _), scan_blanks all.2,
    List.length_cons, Nat.add_assoc _ 1, Nat.add_comm 1]

/-- Behind a blank a text has the same tokens as without it. -/
theorem tokenize_blank {b : Char} (blank : isBlank b = true) {cs : List Char} {tokens : List Token}
    (read : tokenize cs = .ok tokens) : tokenize (b :: cs) = .ok (tokens.map (moveBy 1)) := by
  rw [tokenize, scan, if_pos blank]
  exact scan_add read 1

/-- A sign or parenthesis of one character is a token of its own, in front of those of the rest. -/
theorem tokenize_cons {c : Char} {kind : TokenKind} {cs : List Char} {tokens : List Token}
    (found : lexeme? (c :: cs) = some (kind, [c])) (visible : isBlank c = false)
    (read : tokenize cs = .ok tokens) :
    tokenize (c :: cs) = .ok (⟨kind, [c], 0⟩ :: tokens.map (moveBy 1)) := by
  have later := scan_add read 1
  simp only [tokenize, scan, visible, Bool.false_eq_true, if_false, found, List.length_singleton,
    Nat.sub_self, later]
  rfl

/-- The tokens of two texts with a break between them are those of both. -/
theorem Breaks.tokenize_append {b : Char} (breaks : Breaks b) {front back : List Char}
    {tokens others : List Token} (read : tokenize front = .ok tokens)
    (again : tokenize (b :: back) = .ok others) :
    tokenize (front ++ b :: back) = .ok (tokens ++ others.map (moveBy front.length)) := by
  have later := scan_add again front.length
  rw [tokenize, breaks.scan_append read (Nat.zero_le _), later]
  rfl

end Token

end AccessControl
