import AccessControl.Document.Json
import AccessControl.Document.Yaml.Stamp
import AccessControl.Decimal.Arithmetic

/-! The values of unquoted YAML scalars, by version 1.1 of the format. -/

namespace AccessControl.Document.Yaml

open AccessControl.Text

/-- The words for truth values. -/
def flagWord? (word : String) : Option Bool :=
  if ["yes", "Yes", "YES", "true", "True", "TRUE", "on", "On", "ON"].contains word then some true
  else if ["no", "No", "NO", "false", "False", "FALSE", "off", "Off", "OFF"].contains word then
    some false
  else none

/-- The words for nothing. -/
def isNullWord (word : String) : Bool :=
  ["", "~", "null", "Null", "NULL"].contains word

/-- A sign and the characters after it. -/
def splitSign (cs : List Char) : Bool × List Char :=
  match cs with
  | '-' :: rest => (true, rest)
  | '+' :: rest => (false, rest)
  | _ => (false, cs)

/-- An octal digit. -/
def isOctalDigit (c : Char) : Bool := '0' ≤ c && c ≤ '7'

/-- The characters without underscores. -/
def dropUnderlines (cs : List Char) : List Char :=
  cs.filter (· != '_')

/-- The number that digits write in a base, with underscores left out. -/
def inBase? (base : Nat) (cs : List Char) : Option Nat :=
  match dropUnderlines cs with
  | [] => none
  | digits => digits.foldl (fun n c => do some (base * (← n) + (← hexadecimalValue? c))) (some 0)

/-- What digits and underscores write behind the mark of a base; underscores alone are refused. -/
def behindMark? (base : Nat) (value : Nat → Except Fault Value) (cs : List Char) :
    Option (Except Fault Value) :=
  if cs.isEmpty then none
  else
    match inBase? base cs with
    | some n => some (value n)
    | none => some (.error (.noDigits base))

/-- Digits and underscores that start with a digit. -/
def isDigitRun (cs : List Char) : Bool :=
  match cs with
  | c :: rest => isAsciiDigit c && rest.all fun c => isAsciiDigit c || c == '_'
  | [] => false

/-- A part of a number in base sixty. -/
def isSixtieth (cs : List Char) : Bool :=
  match cs with
  | [c] => isAsciiDigit c
  | [c, d] => '0' ≤ c && c ≤ '5' && isAsciiDigit d
  | _ => false

/-- A whole number in base ten, eight, two, sixteen or sixty. -/
def wholeScalar? (cs : List Char) : Option (Except Fault Value) :=
  let (negative, body) := splitSign cs
  let value (n : Nat) : Except Fault Value := .ok (.int (Double.signed negative n))
  match body with
  | ['0'] => some (value 0)
  | '0' :: 'b' :: digits =>
    if digits.all (fun c => c == '0' || c == '1' || c == '_') then behindMark? 2 value digits
    else none
  | '0' :: 'x' :: digits =>
    if digits.all (fun c => (hexadecimalValue? c).isSome || c == '_') then
      behindMark? 16 value digits
    else none
  | '0' :: digits =>
    if digits.all (fun c => isOctalDigit c || c == '_') then
      some (value ((inBase? 8 digits).getD 0))
    else none
  | _ =>
    match splitOn ':' body with
    | [digits] =>
      if isDigitRun digits then
        match Decimal.wholeOfDigits negative ((dropUnderlines digits).map asciiDigitValue) with
        | .value n => some (.ok (.int n))
        | .tooLong count => some (.error (.tooManyDigits count))
        | .malformed => none
      else none
    | first :: parts =>
      if isDigitRun first && parts.all isSixtieth then
        let digits := dropUnderlines first
        if Decimal.digitLimit < digits.length then some (.error (.tooManyDigits digits.length))
        else
          (inBase? 10 first).map fun n =>
            value (parts.foldl (fun n part => 60 * n + (inBase? 10 part).getD 0) n)
      else none
    | [] => none

/-- The exponent of a real number: a mark, a sign and digits, or nothing. -/
def isExponent (cs : List Char) : Bool :=
  match cs with
  | [] => true
  | mark :: sign :: digits =>
    (mark == 'e' || mark == 'E') && (sign == '-' || sign == '+') && !digits.isEmpty &&
      digits.all isAsciiDigit
  | _ => false

/-- A part of a real number in base sixty that is its last one, with a point behind its digits. -/
def isLastSixtieth (cs : List Char) : Bool :=
  match splitAtFirst '.' cs with
  | some (whole, fraction) =>
    isSixtieth whole && fraction.all fun c => isAsciiDigit c || c == '_'
  | none => false

/-- The sum of parts, the last one first, each of sixty times the weight of the one before it. -/
def sumSixtieths (sum : Double) (weight : Nat) : List (List Char) → Option Double
  | [] => some sum
  | part :: parts => do
    let value ← Decimal.readUnsigned false (dropUnderlines part)
    sumSixtieths (sum.plus (value.times (.ofRatio false weight 1))) (60 * weight) parts

/-- A real number in base sixty, of two parts at least. -/
def sixtyScalar? (negative : Bool) (body : List Char) : Option Value :=
  match splitOn ':' body with
  | first :: parts =>
    match parts.reverse with
    | last :: middle =>
      if isDigitRun first && middle.all isSixtieth && isLastSixtieth last then
        (sumSixtieths (.zero false) 1 (last :: (middle ++ [first]))).map fun sum =>
          .real (sum.negateIf negative)
      else none
    | [] => none
  | [] => none

/-- A real number with a point, which an exponent may follow. -/
def realScalar? (cs : List Char) : Option Value :=
  let (negative, body) := splitSign cs
  let word := String.ofList body
  if [".inf", ".Inf", ".INF"].contains word then some (.real (.infinite negative))
  else if [".nan", ".NaN", ".NAN"].contains (String.ofList cs) then some (.real (.nan 0))
  else if body.contains ':' then sixtyScalar? negative body
  else
    match splitAtFirst '.' body with
    | none => none
    | some (whole, rest) =>
      let fraction := rest.takeWhile fun c => isAsciiDigit c || c == '_'
      let exponent := rest.drop fraction.length
      -- A point at the start asks for a digit behind it and allows no sign.
      let isNumber :=
        if whole.isEmpty then body.length == cs.length && isDigitRun fraction
        else isDigitRun whole
      if isNumber && isExponent exponent then
        (Decimal.readUnsigned negative (dropUnderlines body)).map .real
      else none

/-- The value of an unquoted scalar; two signs are reserved. -/
def plainValue (cs : List Char) : Except Fault Value :=
  let word := String.ofList cs
  if isNullWord word then .ok .null
  else if word == "=" || word == "<<" then .error .malformed
  else
    match flagWord? word with
    | some b => .ok (.flag b)
    | none =>
      match wholeScalar? cs with
      | some value => value
      | none =>
        match realScalar? cs with
        | some value => .ok value
        | none =>
          match dayScalar? cs with
          | some value => value
          | none => (stampScalar? cs).getD (.ok (.text word))

end AccessControl.Document.Yaml
