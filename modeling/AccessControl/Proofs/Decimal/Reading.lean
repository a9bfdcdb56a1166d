import AccessControl.Decimal.Reading
import AccessControl.Value.Text
import Mathlib.Algebra.Group.Nat.Defs
import Mathlib.Data.List.TakeDrop

/-! Digits after a minus or without one are read as a number, as are such with a point among them.
What is written of a whole number is read as that number. -/

namespace AccessControl.Decimal

open AccessControl.Text

/-! ### Digits -/

/-- The ASCII digits have ten code points in a row. -/
theorem isAsciiDigit_iff {c : Char} : isAsciiDigit c = true ↔ 0x30 ≤ c.toNat ∧ c.toNat ≤ 0x39 := by
  simp only [isAsciiDigit, Bool.and_eq_true, decide_eq_true_eq, Char.le_def, UInt32.le_iff_toNat_le]
  exact Iff.rfl

/-- The ranges of digits lie between the blanks. -/
theorem decimalDigits_between_blanks : ∀ range ∈ decimalDigits.toList, range.2 < 0x80 ∨
    0xa0 < range.1 ∧ range.2 < 0x1680 ∨ 0x1680 < range.1 ∧ range.2 < 0x2000 ∨ 0x3000 < range.1 := by
  decide

/-- A digit is an ASCII digit or lies in a range beyond those. -/
theorem digit_cases {c : Char} {value : Nat} (digit : decimalValue? c = some value) :
    isAsciiDigit c = true ∧ value = asciiDigitValue c ∨
      ∃ range ∈ decimalDigits.toList, 128 ≤ c.toNat ∧ range.1 ≤ c.toNat ∧ c.toNat ≤ range.2 ∧
        value = (c.toNat - range.1) % 10 := by
  simp only [decimalValue?] at digit
  split at digit
  · split at digit
    · -- The digit is an ASCII digit.
      rename_i ascii
      exact .inl ⟨ascii, (Option.some.inj digit).symm⟩
    · cases digit
  · -- The digit is found in a range.
    rename_i wide
    obtain ⟨range, found, rfl⟩ := Option.map_eq_some_iff.mp digit
    have inside := Array.find?_some found
    simp only [Bool.and_eq_true, decide_eq_true_eq] at inside
    exact .inr ⟨range, by simpa using Array.mem_of_find?_eq_some found, by omega, inside.1,
      inside.2, rfl⟩

/-- A digit is no blank. -/
theorem isBlank_of_digit {c : Char} (digit : isDecimalDigit c = true) : isBlank c = false := by
  obtain ⟨value, found⟩ := Option.isSome_iff_exists.mp digit
  rw [← Bool.not_eq_true]
  intro blank
  simp only [isBlank, Bool.or_eq_true, Bool.and_eq_true, decide_eq_true_eq, beq_iff_eq] at blank
  rcases digit_cases found with ⟨ascii, _⟩ | ⟨range, listed, wide, low, high, _⟩
  · -- The ASCII digits come behind the blanks of their range.
    have bounds := isAsciiDigit_iff.mp ascii
    omega
  · -- The other digits lie between the blanks beyond the ASCII range.
    have between := decimalDigits_between_blanks range listed
    omega

/-- A digit of any script becomes an ASCII digit. -/
theorem isAsciiDigit_plainDigit {c : Char} (digit : isDecimalDigit c = true) :
    isAsciiDigit (plainDigit c) = true := by
  obtain ⟨value, found⟩ := Option.isSome_iff_exists.mp digit
  have small : value < 10 := by
    rcases digit_cases found with ⟨ascii, rfl⟩ | ⟨range, _, _, _, _, rfl⟩
    · -- An ASCII digit is so far behind the zero.
      have bounds := isAsciiDigit_iff.mp ascii
      have zero : '0'.toNat = 48 := rfl
      simp only [asciiDigitValue]
      omega
    · -- A range repeats the ten values.
      exact Nat.mod_lt _ (by decide)
  -- The character is made of the value, of which there are only ten.
  have made : ∀ value < 10, isAsciiDigit (Char.ofNat ('0'.toNat + value)) = true := by decide
  simpa only [plainDigit, found] using made value small

/-! ### Runs of digits -/

/-- A run of decimal digits of any scripts, one at least. -/
structure IsDigits (cs : List Char) : Prop where
  some : cs ≠ []
  digits : ∀ c ∈ cs, isDecimalDigit c = true

/-- The minus of a negative number. -/
def minus (negative : Bool) : List Char :=
  if negative then ['-'] else []

/-- How whole numbers are written: digits, perhaps behind a minus. -/
def IsWhole (cs : List Char) : Prop :=
  ∃ negative digits, IsDigits digits ∧ cs = minus negative ++ digits

/-- How numbers with a fraction are written: a whole number, a point and more digits. -/
def IsReal (cs : List Char) : Prop :=
  ∃ negative whole fraction, IsDigits whole ∧ IsDigits fraction ∧
    cs = minus negative ++ (whole ++ '.' :: fraction)

/-- Without such characters nothing is trimmed. -/
theorem trimBoth_eq_self {test : Char → Bool} {cs : List Char} (none : ∀ c ∈ cs, test c = false) :
    trimBoth test cs = cs := by
  -- At either end nothing is dropped.
  have kept : ∀ ds : List Char, (∀ c ∈ ds, test c = false) → ds.dropWhile test = ds := by
    intro ds free
    cases ds with
    | nil => rfl
    | cons d rest => simp [free d (by simp)]
  rw [trimBoth, kept cs none, kept cs.reverse (by simpa using none), List.reverse_reverse]

/-- Without underscores nothing is dropped. -/
theorem dropUnderscores_eq_self {cs : List Char} (none : '_' ∉ cs) (afterDigit : Bool) :
    dropUnderscores afterDigit cs = some cs := by
  induction cs generalizing afterDigit with
  | nil => rfl
  | cons c rest ih =>
    obtain ⟨other, none⟩ := List.ne_and_not_mem_of_not_mem_cons none
    rw [dropUnderscores, ih none]
    · -- The rest has no underscore.
      rfl
    · rintro rfl
      exact other rfl

/-- The values of leading digits end where the digits end. -/
theorem spanDigits_append {digits : List Char} (all : ∀ c ∈ digits, isAsciiDigit c = true)
    (rest : List Char) (ends : ∀ c ∈ rest.head?, isAsciiDigit c = false) :
    spanDigits (digits ++ rest) = (digits.map asciiDigitValue, rest) := by
  -- What follows is no digit.
  have taken : rest.takeWhile isAsciiDigit = [] ∧ rest.dropWhile isAsciiDigit = rest := by
    cases rest with
    | nil => simp
    | cons c more => simp [ends c (by simp)]
  rw [spanDigits, List.span_eq_takeWhile_dropWhile, List.takeWhile_append_of_pos all,
    List.dropWhile_append_of_pos all, taken.1, taken.2, List.append_nil]

section

variable {digits : List Char}

/-- The ASCII digits of a run of digits. -/
theorem IsDigits.plain (run : IsDigits digits) : ∀ c ∈ digits.map plainDigit,
    isAsciiDigit c = true := by
  intro c member
  obtain ⟨digit, within, rfl⟩ := List.mem_map.mp member
  exact isAsciiDigit_plainDigit (run.digits digit within)

/-- A number has a sign, perhaps, and starts with a digit behind it. -/
theorem takeSign_minus (negative : Bool) (run : IsDigits digits) (tail : List Char)
    (free : ∀ c ∈ tail, surroundsNumber c = false) :
    takeSign ((trimBoth surroundsNumber (minus negative ++ (digits ++ tail))).map plainDigit) =
      (negative, digits.map plainDigit ++ tail.map plainDigit) := by
  -- Neither the minus nor a digit is a blank, so nothing is trimmed.
  have untouched : ∀ c ∈ minus negative ++ (digits ++ tail), surroundsNumber c = false := by
    intro c member
    simp only [List.mem_append] at member
    rcases member with sign | digit | behind
    · -- The sign is a minus, if there is one.
      cases negative with
      | false => cases sign
      | true =>
        obtain rfl := List.mem_singleton.mp sign
        rfl
    · -- No digit is a blank.
      simp [surroundsNumber, isBlank_of_digit (run.digits c digit)]
    · -- What follows has no blank.
      exact free c behind
  rw [trimBoth_eq_self untouched]
  cases negative with
  | true =>
    -- The minus is no digit, so it stays one.
    have sign : plainDigit '-' = '-' := by decide
    simp [minus, sign, takeSign]
  | false =>
    -- The first digit is no sign.
    obtain ⟨first, rest, rfl⟩ := List.exists_cons_of_ne_nil run.some
    have ascii := isAsciiDigit_iff.mp (isAsciiDigit_plainDigit (run.digits first (by simp)))
    simp only [minus, Bool.false_eq_true, if_false, List.nil_append, List.cons_append,
      List.map_cons, List.map_append]
    rw [takeSign]
    · -- The digit is not a minus.
      intro body equal
      rw [(List.cons.inj equal).1] at ascii
      exact absurd ascii (by decide)
    · -- Nor is it a plus.
      intro body equal
      rw [(List.cons.inj equal).1] at ascii
      exact absurd ascii (by decide)

/-- A run of digits has no underscore. -/
theorem underscore_not_mem {cs : List Char} (all : ∀ c ∈ cs, isAsciiDigit c = true) : '_' ∉ cs :=
  fun member => absurd (all '_' member) (by decide)

/-- A whole number is read as the value of its digits, unless there are too many of them. -/
theorem readWhole_minus (negative : Bool) (run : IsDigits digits) :
    readWhole (minus negative ++ digits) =
      wholeOfDigits negative ((digits.map plainDigit).map asciiDigitValue) := by
  have sign := takeSign_minus negative run [] (by simp)
  have span := spanDigits_append run.plain [] (by simp)
  simp only [List.append_nil, List.map_nil] at sign span
  simp [readWhole, sign, dropUnderscores_eq_self (underscore_not_mem run.plain), span, run.some]

/-- A whole number has a value, or it has more digits than are converted. -/
theorem readWhole_cases (negative : Bool) (run : IsDigits digits) :
    (digits.length ≤ digitLimit ∧ ∃ value, readWhole (minus negative ++ digits) = .value value) ∨
      digitLimit < digits.length ∧
        readWhole (minus negative ++ digits) = .tooLong digits.length := by
  rw [readWhole_minus negative run, wholeOfDigits, List.length_map, List.length_map]
  by_cases many : digitLimit < digits.length
  · -- The digits are too many.
    exact .inr ⟨many, if_pos many⟩
  · -- The digits are few enough.
    exact .inl ⟨Nat.not_lt.mp many, _, if_neg many⟩

/-- A number with a fraction is always read as a double. -/
theorem readDouble?_isSome {fraction : List Char} (negative : Bool) (whole : IsDigits digits)
    (part : IsDigits fraction) :
    (readDouble? (minus negative ++ (digits ++ '.' :: fraction))).isSome = true := by
  have free : ∀ c ∈ '.' :: fraction, surroundsNumber c = false := by
    intro c member
    -- The point is no blank.
    rcases List.mem_cons.mp member with rfl | digit
    · rfl
    · -- No digit is a blank.
      simp [surroundsNumber, isBlank_of_digit (part.digits c digit)]
  have point : plainDigit '.' = '.' := by decide
  have sign := takeSign_minus negative whole _ free
  rw [List.map_cons, point] at sign
  -- The point ends the first digits, and nothing comes behind the others.
  have ends : ∀ c ∈ ('.' :: fraction.map plainDigit).head?, isAsciiDigit c = false := by
    rintro c ⟨⟩
    rfl
  have first := spanDigits_append whole.plain _ ends
  have second := spanDigits_append part.plain [] (by simp)
  have unscored : '_' ∉ digits.map plainDigit ++ '.' :: fraction.map plainDigit := by
    simp only [List.mem_append, List.mem_cons, not_or]
    exact ⟨underscore_not_mem whole.plain, by decide, underscore_not_mem part.plain⟩
  rw [List.append_nil] at second
  simp only [readDouble?, sign]
  -- Whatever the digits are taken for, there is a double.
  split
  · -- The text is a name for an infinite value.
    rfl
  split
  · -- The text is a name for no number.
    rfl
  · simp [dropUnderscores_eq_self unscored, readUnsigned, first, second, whole.some, readExponent]

end

/-! ### Whole numbers in digits -/

/-- The digits of a number are ASCII digits. -/
theorem isAsciiDigit_of_mem_digitChars {n : Nat} {c : Char} (member : c ∈ Double.digitChars n) :
    isAsciiDigit c = true := by
  have digit := Nat.isDigit_of_mem_toDigits (by decide) (by decide) member
  simpa [Char.isDigit, isAsciiDigit, Char.le_def] using digit

/-- An ASCII digit is a digit. -/
theorem decimalValue?_of_isAsciiDigit {c : Char} (ascii : isAsciiDigit c = true) :
    decimalValue? c = some (asciiDigitValue c) := by
  have bounds := isAsciiDigit_iff.mp ascii
  have small : c.toNat < 128 := by omega
  simp [decimalValue?, small, ascii]

/-- An ASCII digit is no blank. -/
theorem isBlank_of_isAsciiDigit {c : Char} (ascii : isAsciiDigit c = true) : isBlank c = false :=
  isBlank_of_digit (by simp [isDecimalDigit, decimalValue?_of_isAsciiDigit ascii])

/-- An ASCII digit stays as it is. -/
theorem plainDigit_of_isAsciiDigit {c : Char} (ascii : isAsciiDigit c = true) :
    plainDigit c = c := by
  have bounds := isAsciiDigit_iff.mp ascii
  have point : '0'.toNat + asciiDigitValue c = c.toNat := by
    have zero : '0'.toNat = 48 := rfl
    simp only [asciiDigitValue]
    omega
  simp only [plainDigit, decimalValue?_of_isAsciiDigit ascii, point, Char.ofNat_toNat]

/-- The digits of a number are a run of them. -/
theorem isDigits_digitChars (n : Nat) : IsDigits (Double.digitChars n) where
  some := Nat.toDigits_ne_nil
  digits c member := by
    simp [isDecimalDigit, decimalValue?_of_isAsciiDigit (isAsciiDigit_of_mem_digitChars member)]

/-- The values of the digits of a number make up the number. -/
theorem ofDigits_digitChars (n : Nat) :
    ofDigits (((Double.digitChars n).map plainDigit).map asciiDigitValue) = n := by
  have same : (Double.digitChars n).map plainDigit = Double.digitChars n := by
    rw [List.map_congr_left fun c member =>
      plainDigit_of_isAsciiDigit (isAsciiDigit_of_mem_digitChars member), List.map_id']
  have read : Nat.ofDigitChars 10 (Double.digitChars n) 0 = n := Nat.ofDigitChars_ten_toDigits
  rw [Nat.ofDigitChars_eq_foldl] at read
  rw [same, ofDigits, List.foldl_map]
  exact read

/-- A whole number is written as its digits, behind a minus if it is negative. -/
theorem toList_intText (i : Int) :
    (intText i).toList = minus (decide (i < 0)) ++ Double.digitChars i.natAbs := by
  by_cases negative : i < 0 <;> simp [intText, minus, negative]

/-- A whole number is written in digits and a minus. -/
theorem mem_intText {i : Int} {c : Char} (member : c ∈ (intText i).toList) :
    c = '-' ∨ isAsciiDigit c = true := by
  rw [toList_intText, List.mem_append] at member
  rcases member with sign | digit
  · -- The sign of a negative number.
    have negative : i < 0 ∧ c = '-' := by simpa [minus] using sign
    exact .inl negative.2
  · -- A digit.
    exact .inr (isAsciiDigit_of_mem_digitChars digit)

/-- A number with few digits is read back from its text. -/
theorem readWhole_intText {i : Int} (few : HasFewDigits i) :
    readWhole (intText i).toList = .value i := by
  have limited : ¬ digitLimit < (Double.digitChars i.natAbs).length := Nat.not_lt.mpr few
  have signed : Double.signed (decide (i < 0)) i.natAbs = i := by
    simp only [Double.signed, decide_eq_true_eq]
    split <;> omega
  rw [toList_intText, readWhole_minus _ (isDigits_digitChars _), wholeOfDigits, ofDigits_digitChars,
    List.length_map, List.length_map, if_neg limited, signed]

/-- A number is below the power of its base by the number of its digits. -/
theorem foldl_lt {base : Nat} {digits : List Nat} (small : ∀ digit ∈ digits, digit < base)
    (start : Nat) :
    digits.foldl (fun n digit => base * n + digit) start < base ^ digits.length * (start + 1) := by
  -- What was read before counts as one digit more, so it stays quantified over.
  induction digits generalizing start with
  | nil => simp
  | cons digit rest ih =>
    obtain ⟨first, others⟩ := List.forall_mem_cons.mp small
    calc (digit :: rest).foldl (fun n digit => base * n + digit) start
        -- The digit counts less than the base.
        < base ^ rest.length * (base * start + digit + 1) := ih others _
      _ ≤ base ^ rest.length * (base * (start + 1)) := by
        apply Nat.mul_le_mul_left
        rw [Nat.mul_add, Nat.mul_one]
        omega
      _ = base ^ (digit :: rest).length * (start + 1) := by
        rw [List.length_cons, Nat.pow_succ, Nat.mul_assoc]

/-- Few digits make up a number with few of them, even if zeros come first. -/
theorem hasFewDigits_of_digits {digits : List Nat} (small : ∀ digit ∈ digits, digit < 10)
    (few : digits.length ≤ digitLimit) (negative : Bool) :
    HasFewDigits (Double.signed negative (ofDigits digits)) := by
  have size : (Double.signed negative (ofDigits digits)).natAbs = ofDigits digits := by
    cases negative <;> simp [Double.signed]
  rw [HasFewDigits, size, Double.digitChars, Nat.length_toDigits_le_iff (by decide) (by decide)]
  calc ofDigits digits
      < 10 ^ digits.length * (0 + 1) := foldl_lt small 0
    _ = 10 ^ digits.length := Nat.mul_one _
    _ ≤ 10 ^ digitLimit := Nat.pow_le_pow_right (by decide) few

/-- A number that is read has few digits. -/
theorem hasFewDigits_of_readWhole {negative : Bool} {digits : List Char} {value : Int}
    (run : IsDigits digits)
    (read : readWhole (minus negative ++ digits) = .value value) : HasFewDigits value := by
  rw [readWhole_minus negative run, wholeOfDigits] at read
  split at read
  · cases read
  · rename_i few
    obtain rfl := WholeText.value.inj read
    refine hasFewDigits_of_digits ?_ (Nat.not_lt.mp few) negative
    -- Each of them is the value of an ASCII digit.
    simp only [List.forall_mem_map]
    intro c member
    have bounds := isAsciiDigit_iff.mp (isAsciiDigit_plainDigit (run.digits c member))
    have zero : '0'.toNat = 48 := rfl
    simp only [asciiDigitValue]
    omega

end AccessControl.Decimal
