import AccessControl.Document.Fault
import AccessControl.Decimal.Reading
import AccessControl.Value.Text

/-! Days and moments that unquoted YAML scalars write in digits. -/

namespace AccessControl.Document.Yaml

open AccessControl.Text

/-- The number that digits at the start write, so many at most, and the characters behind them. -/
def takeNumber (least most : Nat) (cs : List Char) : Option (Nat × List Char) :=
  let digits := (cs.take most).takeWhile isAsciiDigit
  if digits.length < least then none
  else some (Decimal.ofDigits (digits.map asciiDigitValue), cs.drop digits.length)

/-- The characters behind a mark at the start. -/
def takeMark (mark : Char) (cs : List Char) : Option (List Char) :=
  match cs with
  | c :: rest => if c == mark then some rest else none
  | [] => none

/-- A year, a month and a day; only where days may be `short`, one digit is enough for the last
two. -/
def takeDay (short : Bool) (cs : List Char) : Option (Time.Day × List Char) := do
  let least := if short then 1 else 2
  let (year, rest) ← takeNumber 4 4 cs
  let (month, rest) ← takeNumber least 2 (← takeMark '-' rest)
  let (day, rest) ← takeNumber least 2 (← takeMark '-' rest)
  return (⟨year, month, day⟩, rest)

/-- A blank that may stand inside a scalar. -/
def isInnerBlank (c : Char) : Bool := c == ' ' || c == '\t'

/-- The characters behind what stands between a day and its time. -/
def takeDivider (cs : List Char) : Option (List Char) :=
  match cs with
  | 'T' :: rest | 't' :: rest => some rest
  | c :: rest => if isInnerBlank c then some (rest.dropWhile isInnerBlank) else none
  | [] => none

/-- The microseconds of a fraction with its point; digits after the sixth are left out. -/
def takeFraction (cs : List Char) : Nat × List Char :=
  match cs with
  | '.' :: rest =>
    let digits := rest.takeWhile isAsciiDigit
    let kept := digits.take 6
    (Decimal.ofDigits (kept.map asciiDigitValue) * Nat.pow 10 (6 - kept.length),
      rest.drop digits.length)
  | _ => (0, cs)

/-- The minutes of an offset up to the end, of which a letter stands for none. -/
def wholeOffset? (cs : List Char) : Option Int :=
  let signed (negative : Bool) (rest : List Char) : Option Int := do
    let (hours, rest) ← takeNumber 1 2 rest
    let (minutes, rest) ← match rest with
      | ':' :: rest => takeNumber 2 2 rest
      | _ => some (0, rest)
    if rest.isEmpty then some (Double.signed negative (60 * hours + minutes)) else none
  match cs with
  | ['Z'] => some 0
  | '+' :: rest => signed false rest
  | '-' :: rest => signed true rest
  | _ => none

/-- What is wrong with an offset, which has to be less than a day. -/
def offsetFault? (minutes : Int) : Option String :=
  if minutes.natAbs < 1440 then none
  else some ("offset must be a timedelta strictly between -timedelta(hours=24) and " ++
    "timedelta(hours=24), not " ++ shownMinutes minutes ++ ".")

/-- A value, unless something is wrong with it. -/
def unlessFault (fault : Option String) (value : Value) : Except Fault Value :=
  match fault with
  | some message => .error (.noMoment message)
  | none => .ok value

/-- A day with two digits for its month and its day. -/
def dayScalar? (cs : List Char) : Option (Except Fault Value) :=
  match takeDay false cs with
  | some (date, []) => some (unlessFault date.fault? (.date date))
  | _ => none

/-- A day with a time of it, behind which an offset may stand. -/
def stampScalar? (cs : List Char) : Option (Except Fault Value) := do
  let (date, rest) ← takeDay true cs
  let (hour, rest) ← takeNumber 1 2 (← takeDivider rest)
  let (minute, rest) ← takeNumber 2 2 (← takeMark ':' rest)
  let (second, rest) ← takeNumber 2 2 (← takeMark ':' rest)
  let (microsecond, rest) := takeFraction rest
  let offset? ← if rest.isEmpty then some none
    else (wholeOffset? (rest.dropWhile isInnerBlank)).map some
  let stamp : Time.Stamp := ⟨date, hour, minute, second, microsecond, offset?⟩
  -- The offset is looked at first.
  return unlessFault ((offset?.bind offsetFault?).or stamp.fault?) (.stamp stamp)

end AccessControl.Document.Yaml
