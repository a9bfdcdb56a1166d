import AccessControl.Proofs.Matcher.Seam

/-! Tokens by their form alone: the lexeme at the start of a text is the longest token that can
start there. -/

namespace AccessControl

open AccessControl.Text AccessControl.Decimal

namespace Token

/-! ### The forms of tokens -/

/-- The rest of a quoted text behind its opening mark. A backslash keeps any character behind it but
a line break, and no other character is the mark or a backslash until the mark closes the text. -/
inductive Closes (mark : Char) : List Char → Prop
  | closed : Closes mark [mark]
  | plain {c : Char} {rest : List Char} (other : c ≠ mark) (bare : c ≠ '\\')
    (behind : Closes mark rest) : Closes mark (c :: rest)
  | kept {c : Char} {rest : List Char} (sameLine : c ≠ '\n') (behind : Closes mark rest) :
    Closes mark ('\\' :: c :: rest)

/-- The texts that are tokens of each kind, whatever stands around them. -/
inductive HasForm : TokenKind → List Char → Prop
  | string {mark : Char} {tail : List Char} (quote : mark = '\'' ∨ mark = '"')
    (closes : Closes mark tail) : HasForm .string (mark :: tail)
  | whole {text : List Char} (shape : IsWhole text) : HasForm .number text
  | real {text : List Char} (shape : IsReal text) : HasForm .number text
  | name {text : List Char} (shape : IsName text) : HasForm .name text
  | sign {text : List Char} (listed : text ∈ signs) : HasForm .sign text
  | opening : HasForm .opening ['(']
  | closing : HasForm .closing [')']
  | comma : HasForm .comma [',']

/-- A token of the kind and with the text can start here: the text is in front, and if it is a
number, neither a character of a word nor a point follows it. -/
structure CanStart (cs : List Char) (kind : TokenKind) (text : List Char) : Prop where
  form : HasForm kind text
  inFront : text <+: cs
  ends : kind = .number → ∀ c ∈ (cs.drop text.length).head?, isWord c = false ∧ c ≠ '.'

/-- The longest token that can start here. -/
structure IsLongest (cs : List Char) (kind : TokenKind) (text : List Char) : Prop where
  starts : CanStart cs kind text
  longest : ∀ other more, CanStart cs other more → more.length ≤ text.length

/-! ### Quoted texts -/

variable {cs text rest : List Char} {mark c : Char} {kind : TokenKind}

/-- A quote is no backslash. -/
theorem quote_ne_backslash (quote : mark = '\'' ∨ mark = '"') : mark ≠ '\\' := by
  rcases quote with rfl | rfl <;> decide

/-- The rest of a quoted text is read to its closing mark. -/
theorem stringTail?_eq_some_iff {tail : List Char} (quote : mark ≠ '\\') :
    stringTail? mark cs = some tail ↔ Closes mark tail ∧ tail <+: cs := by
  constructor
  · intro found
    refine ⟨?_, (stringTail?_append found []).1⟩
    fun_induction stringTail? mark cs generalizing tail with
    -- The text ends before it is closed.
    | case1 => cases found
    | case2 => cases found
    | case3 => cases found
    -- A backslash keeps the character behind it.
    | case4 c rest sameLine ih =>
      obtain ⟨tail, later, rfl⟩ := Option.map_eq_some_iff.mp found
      exact .kept (by simpa using sameLine) (ih later)
    -- The mark closes the text.
    | case5 c rest bare closes =>
      obtain rfl := Option.some.inj found
      obtain rfl := beq_iff_eq.mp closes
      exact .closed
    -- Any other character is part of the text.
    | case6 c rest bare other ih =>
      obtain ⟨tail, later, rfl⟩ := Option.map_eq_some_iff.mp found
      exact .plain (by simpa using other) bare (ih later)
  · -- What closes is read up to its end, whatever follows.
    rintro ⟨closes, more, rfl⟩
    induction closes with
    | closed => simp [stringTail?]
    | plain other bare _ ih => simp [stringTail?, other, ih]
    | kept sameLine _ ih => simp [stringTail?, sameLine, ih]

/-! ### Numbers -/

/-- The ranges of digits are parts of those of letters and numbers. -/
theorem decimalDigits_within_words : ∀ range ∈ decimalDigits.toList,
    ∃ wide ∈ lettersAndNumbers.toList, wide.1 ≤ range.1 ∧ range.2 ≤ wide.2 := by
  -- The tables are compared as they are computed, which is faster than through decidable
  -- statements.
  have within : (decimalDigits.toList.all fun range => lettersAndNumbers.toList.any fun wide =>
      Nat.ble wide.1 range.1 && Nat.ble range.2 wide.2) = true := by decide +kernel
  simpa only [List.all_eq_true, List.any_eq_true, Bool.and_eq_true, Nat.ble_eq] using within

/-- A digit is a character of a word. -/
theorem isWord_of_isDecimalDigit (digit : isDecimalDigit c = true) : isWord c = true := by
  obtain ⟨value, found⟩ := Option.isSome_iff_exists.mp digit
  rcases digit_cases found with ⟨ascii, _⟩ | ⟨range, listed, wide, low, high, _⟩
  · -- An ASCII digit is one of the word characters of that range.
    have bounds := isAsciiDigit_iff.mp ascii
    have small : c.toNat < 128 := by omega
    simp [isWord, small, ascii]
  · -- Any other digit lies in a range of digits, and that in one of word characters.
    obtain ⟨other, member, below, above⟩ := decimalDigits_within_words range listed
    have large : ¬ c.toNat < 128 := by omega
    rw [isWord, if_neg large, Ranges.contains, Array.any_eq_true']
    refine ⟨other, by simpa using member, ?_⟩
    simp only [Bool.and_eq_true, decide_eq_true_eq]
    omega

/-- Digits end where something follows that is no character of a word. -/
theorem takeWhile_digits {digits : List Char} (run : IsDigits digits)
    (ends : ∀ c ∈ rest.head?, isWord c = false ∨ c = '.') :
    (digits ++ rest).takeWhile isDecimalDigit = digits := by
  rw [List.takeWhile_append_of_pos run.digits]
  cases rest with
  | nil => simp
  | cons c more =>
    have other : isDecimalDigit c = false := by
      rw [← Bool.not_eq_true]
      intro digit
      rcases ends c rfl with word | rfl
      · -- What ends the digits is no word character.
        simp [isWord_of_isDecimalDigit digit] at word
      · -- Nor is a point a digit.
        exact absurd digit (by decide)
    simp [other]

/-- Behind a point the digits of a fraction are read to their end. -/
theorem fractionText_point {fraction : List Char} (run : IsDigits fraction)
    (ends : ∀ c ∈ rest.head?, isWord c = false ∨ c = '.') :
    fractionText ('.' :: (fraction ++ rest)) = '.' :: fraction := by
  have digits := takeWhile_digits run ends
  unfold fractionText
  split
  · -- The point is followed by digits.
    rename_i same
    obtain rfl := (List.cons.inj same).2
    rw [digits]
    split
    · exact absurd rfl run.some
    · rfl
  · -- There is a point in front.
    rename_i other
    exact absurd rfl (other _)

/-- The longest number in front is a sign, digits to their end, and the fraction behind them. -/
theorem numberStart_append (negative : Bool) {digits fraction : List Char} (run : IsDigits digits)
    (whole : (digits ++ (fraction ++ rest)).takeWhile isDecimalDigit = digits)
    (part : fractionText (fraction ++ rest) = fraction) :
    (unsigned (minus negative ++ (digits ++ (fraction ++ rest)))).takeWhile
      isDecimalDigit = digits ∧
      numberStart (minus negative ++ (digits ++ (fraction ++ rest))) =
        minus negative ++ (digits ++ fraction) := by
  -- The sign is there exactly if the number is negative.
  have sign : ((minus negative ++ (digits ++ (fraction ++ rest))).head? == some '-') =
      negative := by
    cases negative with
    | true => rfl
    | false =>
      -- The first digit is no minus.
      obtain ⟨d, more, rfl⟩ := List.exists_cons_of_ne_nil run.some
      have other : d ≠ '-' := by
        rintro rfl
        exact absurd (run.digits '-' (List.mem_cons_self ..)) (by decide)
      simp [minus, other]
  have behind : unsigned (minus negative ++ (digits ++ (fraction ++ rest))) =
      digits ++ (fraction ++ rest) := by
    rw [unsigned, sign, List.drop_left]
  exact ⟨by rw [behind, whole], by rw [numberStart, behind, sign, whole, List.drop_left, part]⟩

/-- A number that can start here is read. -/
theorem CanStart.numberText?_eq (starts : CanStart cs .number text) :
    numberText? cs = some text := by
  obtain ⟨form, ⟨rest, rfl⟩, ends⟩ := starts
  have free : ∀ c ∈ rest.head?, isWord c = false ∧ c ≠ '.' := by simpa using ends rfl
  have apart : ∀ c ∈ rest.head?, isWord c = false ∨ c = '.' := fun c first => .inl (free c first).1
  rw [numberText?_eq_some_iff, List.drop_left]
  cases form with
  | whole shape =>
    -- Nothing of what follows is a fraction.
    obtain ⟨negative, digits, run, rfl⟩ := shape
    have none : fractionText ([] ++ rest) = [] := by
      cases rest with
      | nil => rfl
      | cons c more => simp [fractionText, (free c rfl).2]
    have whole : (digits ++ ([] ++ rest)).takeWhile isDecimalDigit = digits :=
      takeWhile_digits run apart
    obtain ⟨found, start⟩ := numberStart_append negative run whole none
    rw [List.append_nil] at start
    rw [List.append_assoc]
    exact ⟨ne_of_eq_of_ne found run.some, start, free⟩
  | real shape =>
    -- The fraction ends where the number does.
    obtain ⟨negative, digits, fraction, run, part, rfl⟩ := shape
    have whole : (digits ++ ('.' :: fraction ++ rest)).takeWhile isDecimalDigit = digits :=
      takeWhile_digits run (by simp)
    obtain ⟨found, start⟩ := numberStart_append negative run whole (fractionText_point part apart)
    rw [List.append_assoc, List.append_assoc]
    exact ⟨ne_of_eq_of_ne found run.some, start, free⟩

/-- No number starts with a character that is neither a minus nor a digit. -/
theorem numberText?_eq_none (unsigned : c ≠ '-') (other : isDecimalDigit c = false) :
    numberText? (c :: rest) = none := by
  simp [numberText?, unsigned, other]

/-! ### Names -/

/-- What goes on with a name: the rest of its first part, and other parts behind points. -/
def IsNameRest (more : List Char) : Prop :=
  ∃ first others, splitOn '.' more = first :: others ∧ (∀ c ∈ first, continuesName c = true) ∧
    ∀ part ∈ others, IsNamePart part

/-- A name is a character that starts one and what goes on with it. -/
theorem isName_cons {more : List Char} :
    IsName (c :: more) ↔ startsName c = true ∧ IsNameRest more := by
  obtain ⟨first, others, split⟩ := List.exists_cons_of_ne_nil (splitOn_ne_nil '.' more)
  have parts (starts : c ≠ '.') : splitOn '.' (c :: more) = (c :: first) :: others := by
    simp [splitOn, split, starts]
  constructor
  · -- The first part of a name starts with its first character.
    intro shape
    have starts : c ≠ '.' := by
      rintro rfl
      -- In front of the point there would be an empty part.
      obtain ⟨_, _, empty, _⟩ := shape [] (by simp [splitOn, split])
      cases empty
    rw [IsName, parts starts, List.forall_mem_cons] at shape
    obtain ⟨⟨_, _, same, start, continues⟩, behind⟩ := shape
    obtain ⟨rfl, rfl⟩ := List.cons.inj same
    exact ⟨start, first, others, split, continues, behind⟩
  · -- The character becomes the first of the first part.
    rintro ⟨start, _, _, same, continues, behind⟩
    rw [split] at same
    obtain ⟨rfl, rfl⟩ := List.cons.inj same
    rw [IsName, parts (beq_eq_false_iff_ne.mp (startsName_ne_point start)), List.forall_mem_cons]
    exact ⟨⟨c, first, rfl, start, continues⟩, behind⟩

/-- A name goes on with a point and another name, or with a character of a part. -/
theorem isNameRest_cons {more : List Char} :
    IsNameRest (c :: more) ↔ c = '.' ∧ IsName more ∨ continuesName c = true ∧ IsNameRest more := by
  obtain ⟨first, others, split⟩ := List.exists_cons_of_ne_nil (splitOn_ne_nil '.' more)
  by_cases point : c = '.'
  · -- The point ends the first part, and what follows is a name.
    have never : continuesName '.' = false := by decide
    simp [IsNameRest, IsName, splitOn, split, point, never]
  · -- Any other character is one of the first part.
    simp [IsNameRest, splitOn, split, point, and_assoc]

/-- A point goes on with a name if another name is behind it. -/
theorem isNameRest_point {more : List Char} : IsNameRest ('.' :: more) ↔ IsName more := by
  have never : continuesName '.' = false := by decide
  simp [isNameRest_cons, never]

/-- A name in front of a text has its first character, and goes on in front of what is behind
that. -/
theorem IsName.inFront (shape : IsName text) (inFront : text <+: cs) :
    ∃ c more rest, text = c :: more ∧
    cs = c :: rest ∧ startsName c = true ∧ IsNameRest more ∧ more <+: rest := by
  cases text with
  | nil =>
    -- The empty text is no name.
    obtain ⟨_, _, empty, _⟩ := shape [] (by simp [splitOn])
    cases empty
  | cons c more =>
    obtain ⟨starts, goesOn⟩ := isName_cons.mp shape
    -- The rest of the name is in front of the rest of the text.
    obtain ⟨behind, rfl⟩ := inFront
    exact ⟨c, more, more ++ behind, rfl, rfl, starts, goesOn, List.prefix_append more behind⟩

/-- What goes on with a name in front of a text is read as part of it. -/
theorem nameTail_longest {more : List Char} (goesOn : IsNameRest more) (inFront : more <+: cs) :
    more <+: nameTail cs := by
  -- The reader decides at each character, and at a point by the one behind it, whether the name
  -- goes on.
  fun_induction nameTail cs generalizing more with
  | case1 => exact inFront
  | case2 =>
    rcases List.prefix_cons_iff.mp inFront with rfl | ⟨more, rfl, behind⟩
    · exact List.nil_prefix
    · -- Nothing follows the point, so no name does.
      obtain ⟨_, _, _, _, none, _⟩ := (isNameRest_point.mp goesOn).inFront behind
      cases none
  | case3 c rest starts ih =>
    rcases List.prefix_cons_iff.mp inFront with rfl | ⟨more, rfl, behind⟩
    · exact List.nil_prefix
    · -- A name follows the point.
      obtain ⟨_, more, _, rfl, same, _, later, behind⟩ :=
        (isNameRest_point.mp goesOn).inFront behind
      obtain ⟨rfl, rfl⟩ := List.cons.inj same
      exact (List.prefix_cons_inj '.').mpr ((List.prefix_cons_inj c).mpr (ih later behind))
  | case4 c rest other =>
    rcases List.prefix_cons_iff.mp inFront with rfl | ⟨more, rfl, behind⟩
    · exact List.nil_prefix
    · -- What follows the point starts no name.
      obtain ⟨_, _, _, _, same, starts, _⟩ := (isNameRest_point.mp goesOn).inFront behind
      obtain ⟨rfl, rfl⟩ := List.cons.inj same
      exact absurd starts other
  | case5 c rest point continuing ih =>
    rcases List.prefix_cons_iff.mp inFront with rfl | ⟨more, rfl, behind⟩
    · exact List.nil_prefix
    · -- The character goes on with the first part.
      rcases isNameRest_cons.mp goesOn with ⟨rfl, _⟩ | ⟨_, goesOn⟩
      · exact absurd rfl point
      · exact (List.prefix_cons_inj c).mpr (ih goesOn behind)
  | case6 c rest point stops =>
    rcases List.prefix_cons_iff.mp inFront with rfl | ⟨more, rfl, behind⟩
    · exact List.nil_prefix
    · -- The character ends the name.
      rcases isNameRest_cons.mp goesOn with ⟨rfl, _⟩ | ⟨continues, _⟩
      · exact absurd rfl point
      · exact absurd continues stops

/-! ### Lexemes -/

/-- What starts a name is no digit. -/
theorem isDecimalDigit_of_startsName (starts : startsName c = true) : isDecimalDigit c = false := by
  simp only [startsName, Bool.or_eq_true, isAsciiLetter_iff, beq_iff_eq] at starts
  rw [← Bool.not_eq_true]
  intro digit
  obtain ⟨value, found⟩ := Option.isSome_iff_exists.mp digit
  rcases digit_cases found with ⟨ascii, _⟩ | ⟨_, _, wide, _⟩
  · have bounds := isAsciiDigit_iff.mp ascii
    -- No ASCII digit is a letter.
    rcases starts with letter | rfl
    · omega
    · -- The underscore is no digit.
      exact absurd ascii (by decide)
  · rcases starts with letter | rfl
    · -- No letter is beyond the ASCII range.
      omega
    · -- Nor is the underscore.
      exact absurd wide (by decide)

/-- A quote starts a quoted text, and nothing else. -/
theorem lexeme?_quote (quote : mark = '\'' ∨ mark = '"') (rest : List Char) :
    lexeme? (mark :: rest) = (stringTail? mark rest).map fun tail => (.string, mark :: tail) := by
  simp [lexeme?, quote]

/-- A number in front is the lexeme there. -/
theorem lexeme?_number (found : numberText? cs = some text) :
    lexeme? cs = some (.number, text) := by
  cases cs with
  | nil => cases found
  | cons c rest =>
    -- A number does not start with a quotation mark.
    have unquoted : (c == '\'' || c == '"') = false := by
      rw [← Bool.not_eq_true]
      intro quote
      simp only [Bool.or_eq_true, beq_iff_eq] at quote
      rcases quote with rfl | rfl
      · rw [numberText?_eq_none (by decide) (by decide)] at found
        cases found
      · rw [numberText?_eq_none (by decide) (by decide)] at found
        cases found
    simp [lexeme?, unquoted, found]

/-- A character that starts a name is the first one of a lexeme, which is a name. -/
theorem lexeme?_name (starts : startsName c = true) (rest : List Char) :
    lexeme? (c :: rest) = some (.name, c :: nameTail rest) := by
  have different (d : Char) (other : startsName d = false) : c ≠ d := by
    rintro rfl
    simp [starts] at other
  have number : numberText? (c :: rest) = none :=
    numberText?_eq_none (different '-' (by decide)) (isDecimalDigit_of_startsName starts)
  simp [lexeme?, different '\'' (by decide), different '"' (by decide), number, starts]

/-- The characters that signs start with. -/
theorem signs_head : ∀ sign ∈ signs, ∃ c ∈ sign.head?, c ∈ ['&', '|', '=', '!', '>', '<'] := by
  simp [signs]

/-- Where no name, number or quoted text starts, the first of the signs in front is the lexeme. -/
theorem lexeme?_sign (found : (signs.find? fun sign => sign.isPrefixOf cs) = some text) :
    lexeme? cs = some (.sign, text) := by
  have plain : ∀ c ∈ ['&', '|', '=', '!', '>', '<'],
      (c == '\'' || c == '"') = false ∧ c ≠ '-' ∧ isDecimalDigit c = false ∧ startsName c = false :=
    List.forall_iff_forall_mem.mp (by decide)
  obtain ⟨c, first, among⟩ := signs_head text (List.mem_of_find?_eq_some found)
  obtain ⟨more, rfl⟩ := List.head?_eq_some_iff.mp first
  have inFront := List.find?_some found
  obtain ⟨rest, rfl⟩ := List.isPrefixOf_iff_prefix.mp inFront
  obtain ⟨unquoted, unsigned, digit, starts⟩ := plain c among
  rw [List.cons_append] at found ⊢
  simp [lexeme?, unquoted, numberText?_eq_none unsigned digit, starts, found]

/-- Among the signs a longer one comes before its beginning. -/
theorem find?_sign_longest (listed : text ∈ signs) (inFront : text <+: cs) : ∃ longest,
    (signs.find? fun sign => sign.isPrefixOf cs) = some longest ∧ text.length ≤ longest.length := by
  have sorted : signs.Pairwise fun a b => b.length ≤ a.length := by decide
  have some : (signs.find? fun sign => sign.isPrefixOf cs).isSome :=
    List.find?_isSome.mpr ⟨text, listed, List.isPrefixOf_iff_prefix.mpr inFront⟩
  obtain ⟨longest, found⟩ := Option.isSome_iff_exists.mp some
  refine ⟨longest, found, ?_⟩
  obtain ⟨_, before, after, split, missed⟩ := List.find?_eq_some_iff_append.mp found
  rw [split] at listed sorted
  rcases List.mem_append.mp listed with earlier | later
  · -- No sign before the one that is found is in front of the text.
    simpa [List.isPrefixOf_iff_prefix.mpr inFront] using missed text earlier
  · rcases List.mem_cons.mp later with rfl | behind
    · -- The sign itself is found.
      exact Nat.le_refl _
    · -- All signs behind the one that is found are as short or shorter.
      exact (List.pairwise_cons.mp (List.pairwise_append.mp sorted).2.1).1 text behind

/-- Wherever a token can start there is a lexeme of its kind, which is at least as long. -/
theorem CanStart.lexeme? (starts : CanStart cs kind text) :
    ∃ longest, lexeme? cs = some (kind, longest) ∧ text.length ≤ longest.length := by
  have inFront := starts.inFront
  cases starts.form with
  | @string mark tail quote closes =>
    -- What closes first is the text.
    obtain ⟨rest, rfl⟩ := inFront
    have read : stringTail? mark (tail ++ rest) = some tail :=
      (stringTail?_eq_some_iff (quote_ne_backslash quote)).mpr
        ⟨closes, List.prefix_append tail rest⟩
    exact ⟨mark :: tail, by rw [List.cons_append, lexeme?_quote quote, read, Option.map_some],
      Nat.le_refl _⟩
  | whole => exact ⟨text, lexeme?_number starts.numberText?_eq, Nat.le_refl _⟩
  | real => exact ⟨text, lexeme?_number starts.numberText?_eq, Nat.le_refl _⟩
  | name shape =>
    -- The name goes on as far as it can.
    obtain ⟨c, more, rest, rfl, rfl, first, goesOn, behind⟩ := shape.inFront inFront
    have longest := (nameTail_longest goesOn behind).length_le
    exact ⟨c :: nameTail rest, lexeme?_name first rest, Nat.succ_le_succ longest⟩
  | sign listed =>
    -- The longest sign is tried first.
    obtain ⟨longest, found, longer⟩ := find?_sign_longest listed inFront
    exact ⟨longest, lexeme?_sign found, longer⟩
  | opening =>
    obtain ⟨rest, rfl⟩ := inFront
    exact ⟨['('], rfl, Nat.le_refl _⟩
  | closing =>
    obtain ⟨rest, rfl⟩ := inFront
    exact ⟨[')'], rfl, Nat.le_refl _⟩
  | comma =>
    obtain ⟨rest, rfl⟩ := inFront
    exact ⟨[','], rfl, Nat.le_refl _⟩

/-- A lexeme of a quoted text starts with a quote. -/
theorem quote_of_lexeme? (found : lexeme? (c :: rest) = some (.string, text)) :
    c = '\'' ∨ c = '"' := by
  by_contra unquoted
  -- In all other branches there is a lexeme of another kind.
  rw [lexeme?, if_neg (by simpa using unquoted)] at found
  split at found
  · -- A number.
    cases found
  split at found
  · -- A name.
    cases found
  split at found
  · -- A sign.
    cases found
  split at found
  · -- A parenthesis, opening or closing.
    cases found
  split at found
  · cases found
  -- A comma, or nothing at all.
  split at found <;> cases found

/-- A lexeme is a token that can start there. -/
theorem canStart_of_lexeme? (found : lexeme? cs = some (kind, text)) : CanStart cs kind text where
  form := by
    cases lexes_of_lexeme? found with
    | quoted closed =>
      -- The mark is an apostrophe or a quotation mark.
      have quote := quote_of_lexeme? found
      exact .string quote ((stringTail?_eq_some_iff (quote_ne_backslash quote)).mp closed).1
    | number number =>
      -- The number has a fraction or none.
      rcases numberText?_cases number with ⟨shape, _⟩ | ⟨shape, _⟩
      · exact .whole shape
      · exact .real shape
    | name => exact .name (isName_of_lexeme? found)
    | sign listed => exact .sign listed
    | opening => exact .opening
    | closing => exact .closing
    | comma => exact .comma
  inFront := lexeme?_atStart found
  ends := by
    rintro rfl
    exact (numberText?_eq_some_iff.mp (numberText?_of_lexeme? found)).2.2

/-- The lexeme at the start of a text is the longest token that can start there. -/
theorem lexeme?_eq_some_iff : lexeme? cs = some (kind, text) ↔ IsLongest cs kind text := by
  constructor
  · intro found
    refine ⟨canStart_of_lexeme? found, fun other more starts => ?_⟩
    obtain ⟨longest, again, longer⟩ := starts.lexeme?
    obtain ⟨rfl, rfl⟩ := Prod.mk.inj (Option.some.inj (again.symm.trans found))
    exact longer
  · rintro ⟨starts, bound⟩
    obtain ⟨longest, found, longer⟩ := starts.lexeme?
    -- Two beginnings of one length are the same.
    have shorter := bound kind longest (canStart_of_lexeme? found)
    have same : text = longest :=
      (List.prefix_of_prefix_length_le starts.inFront (lexeme?_atStart found) longer).eq_of_length
        (Nat.le_antisymm longer shorter)
    rw [found, same]

/-- There is no lexeme exactly where no token can start. -/
theorem lexeme?_eq_none_iff : lexeme? cs = none ↔ ∀ kind text, ¬ CanStart cs kind text := by
  constructor
  · -- What can start is found.
    intro none kind text starts
    obtain ⟨_, found, _⟩ := starts.lexeme?
    rw [none] at found
    cases found
  · -- What is found can start.
    intro none
    cases found : lexeme? cs with
    | none => rfl
    | some lexeme => exact absurd (canStart_of_lexeme? found) (none lexeme.1 lexeme.2)

/-- A token has a character at least. -/
theorem HasForm.ne_nil (form : HasForm kind text) : text ≠ [] := by
  cases form with
  | string => exact List.cons_ne_nil _ _
  | whole shape =>
    obtain ⟨negative, digits, run, rfl⟩ := shape
    exact List.append_ne_nil_of_right_ne_nil _ run.some
  | real shape =>
    obtain ⟨negative, whole, fraction, run, _, rfl⟩ := shape
    exact List.append_ne_nil_of_right_ne_nil _ (List.append_ne_nil_of_left_ne_nil run.some _)
  | name shape =>
    obtain ⟨c, more, _, rfl, _⟩ := shape.inFront (List.prefix_refl _)
    exact List.cons_ne_nil _ _
  | sign listed =>
    rintro rfl
    exact absurd listed (by decide)
  | opening => exact List.cons_ne_nil _ _
  | closing => exact List.cons_ne_nil _ _
  | comma => exact List.cons_ne_nil _ _

/-- A token does not start with a blank. -/
theorem HasForm.visible {more : List Char} (form : HasForm kind (c :: more)) :
    isBlank c = false := by
  rw [← Bool.not_eq_true]
  intro blank
  have breaks := breaks_of_isBlank blank
  -- The first character of a number is its minus or a digit, and neither is a blank.
  have number {negative : Bool} {digits tail : List Char} (run : IsDigits digits)
      (same : c :: more = minus negative ++ (digits ++ tail)) : False := by
    cases negative with
    -- The minus is no blank.
    | true => exact breaks.minus (List.cons.inj same).1
    | false =>
      -- The first digit is no blank.
      obtain ⟨d, others, rfl⟩ := List.exists_cons_of_ne_nil run.some
      obtain ⟨rfl, _⟩ := List.cons.inj same
      simpa [breaks.digit] using run.digits c (List.mem_cons_self ..)
  generalize text : c :: more = token at form
  cases form with
  | string quote =>
    obtain ⟨rfl, _⟩ := List.cons.inj text
    rcases quote with rfl | rfl <;> exact absurd blank (by decide)
  | whole shape =>
    obtain ⟨negative, digits, run, rfl⟩ := shape
    have same : c :: more = minus negative ++ (digits ++ []) := by rw [text, List.append_nil]
    exact number run same
  | real shape =>
    obtain ⟨negative, whole, fraction, run, _, rfl⟩ := shape
    exact number run text
  | name shape =>
    obtain rfl := text
    simpa [continuesName, (isName_cons.mp shape).1] using breaks.name
  | sign listed => exact breaks.sign token listed (text ▸ List.mem_cons_self ..)
  | opening =>
    obtain ⟨rfl, _⟩ := List.cons.inj text
    exact absurd blank (by decide)
  | closing =>
    obtain ⟨rfl, _⟩ := List.cons.inj text
    exact absurd blank (by decide)
  | comma =>
    obtain ⟨rfl, _⟩ := List.cons.inj text
    exact absurd blank (by decide)

/-- A name has no blanks, and so there are none at its ends. -/
theorem IsName.isTrimmed {name : List Char} (shape : IsName name) : IsTrimmed name := by
  refine isTrimmed_of_visible (HasForm.name shape).ne_nil fun c member => ?_
  rw [← Bool.not_eq_true]
  intro blank
  have breaks := breaks_of_isBlank blank
  rcases mem_splitOn '.' member with rfl | ⟨part, among, inside⟩
  · -- A point is no blank.
    exact breaks.point rfl
  · -- What starts a part could as well go on with it.
    obtain ⟨first, more, rfl, starts, continues⟩ := shape part among
    rcases List.mem_cons.mp inside with rfl | later
    · simpa [continuesName, starts] using breaks.name
    · simpa [breaks.name] using continues c later

end Token

end AccessControl
