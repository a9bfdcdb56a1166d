import AccessControl.Decimal.Shortest
import AccessControl.Text.Trim

/-! Numbers read from text: digits of any script, single underscores between digits, blanks
around. -/

namespace AccessControl.Decimal

open AccessControl.Text

/-- The number with the given decimal digits, the highest first. -/
def ofDigits (digits : List Nat) : Nat :=
  digits.foldl (fun n d => 10 * n + d) 0

/-- Digits of any script become ASCII digits; other characters stay. -/
def plainDigit (c : Char) : Char :=
  match decimalValue? c with
  | some d => Char.ofNat ('0'.toNat + d)
  | none => c

/-- The values of leading ASCII digits, and the rest. -/
def spanDigits (cs : List Char) : List Nat × List Char :=
  let (digits, rest) := cs.span isAsciiDigit
  (digits.map asciiDigitValue, rest)

/-- Underscores vanish if each stands between two digits; otherwise there is no number. -/
def dropUnderscores (afterDigit : Bool) : List Char → Option (List Char)
  | [] => some []
  | '_' :: rest =>
    match rest with
    | [] => none
    | next :: _ =>
      if afterDigit && isAsciiDigit next then dropUnderscores false rest else none
  | c :: rest => (dropUnderscores (isAsciiDigit c) rest).map (c :: ·)

/-- A leading sign, and whether it is a minus. -/
def takeSign : List Char → Bool × List Char
  | '-' :: rest => (true, rest)
  | '+' :: rest => (false, rest)
  | rest => (false, rest)

/-- A blank that may stand around a number; the information separators may not. -/
def surroundsNumber (c : Char) : Bool :=
  isBlank c && !(0x1c ≤ c.toNat && c.toNat ≤ 0x1f)

/-- What a text that should be a whole number turns out to be. -/
inductive WholeText
  | value (n : Int)
  | tooLong (digits : Nat)
  | malformed
deriving Repr, DecidableEq

/-- The most digits that are converted to a whole number, and that one is written with. -/
def digitLimit : Nat := 4300

/-- A whole number has few digits if it has no more of them than are converted. -/
def HasFewDigits (i : Int) : Prop :=
  (Double.digitChars i.natAbs).length ≤ digitLimit

instance (i : Int) : Decidable (HasFewDigits i) :=
  inferInstanceAs (Decidable (_ ≤ _))

/-- A run of ASCII digits as a whole number, if there are not too many. -/
def wholeOfDigits (negative : Bool) (digits : List Nat) : WholeText :=
  if digitLimit < digits.length then .tooLong digits.length
  else .value (Double.signed negative (ofDigits digits))

/-- The whole number written in a text. -/
def readWhole (cs : List Char) : WholeText :=
  let (negative, body) := takeSign ((trimBoth surroundsNumber cs).map plainDigit)
  match dropUnderscores false body with
  | none => .malformed
  | some plain =>
    match spanDigits plain with
    | (digits, []) => if digits.isEmpty then .malformed else wholeOfDigits negative digits
    | _ => .malformed

/-- A decimal exponent, which is zero when no mark starts it. -/
def readExponent : List Char → Option Int
  | [] => some 0
  | mark :: rest =>
    if mark == 'e' || mark == 'E' then
      let (negative, body) := takeSign rest
      match spanDigits body with
      | (digits, []) =>
        if digits.isEmpty then none else some (Double.signed negative (ofDigits digits))
      | _ => none
    else none

/-- An unsigned decimal number with an optional fraction and exponent. -/
def readUnsigned (negative : Bool) (cs : List Char) : Option Double :=
  let (whole, rest) := spanDigits cs
  let (fraction, tail) := match rest with
    | '.' :: more => spanDigits more
    | _ => ([], rest)
  let digits := whole ++ fraction
  if digits.isEmpty then none
  else
    (readExponent tail).map fun exponent =>
      let significant := digits.dropWhile (· == 0)
      Double.ofDecimal negative (ofDigits significant) significant.length
        (exponent - fraction.length)

/-- The double nearest to the number written in a text, `inf`, `infinity` and `nan` included. -/
def readDouble? (cs : List Char) : Option Double :=
  let (negative, body) := takeSign ((trimBoth surroundsNumber cs).map plainDigit)
  let word := String.ofList (body.map Char.toLower)
  if word == "inf" || word == "infinity" then some (.infinite negative)
  else if word == "nan" then some (.nan 0)
  else (dropUnderscores false body).bind (readUnsigned negative)

end AccessControl.Decimal
