import AccessControl.Document.Fault
import AccessControl.Decimal.Reading
import AccessControl.Value.Host

/-! Values read from JSON, where infinities and nans are numbers and the last of equal keys
counts. -/

namespace AccessControl.Document

open AccessControl.Text

/-- Space between the parts of a JSON text. -/
def isJsonSpace (c : Char) : Bool :=
  c == ' ' || c == '\t' || c == '\n' || c == '\r'

/-- The characters after leading space. -/
def skipJsonSpace (cs : List Char) : List Char :=
  cs.dropWhile isJsonSpace

/-- The value of a hexadecimal digit. -/
def hexadecimalValue? (c : Char) : Option Nat :=
  if isAsciiDigit c then some (asciiDigitValue c)
  else if 'a' ≤ c && c ≤ 'f' then some (c.toNat - 'a'.toNat + 10)
  else if 'A' ≤ c && c ≤ 'F' then some (c.toNat - 'A'.toNat + 10)
  else none

/-- The number that hexadecimal digits write. -/
def hexadecimalNumber? (cs : List Char) : Option Nat :=
  cs.foldl (fun n c => do some (16 * (← n) + (← hexadecimalValue? c))) (some 0)

/-- The character that a backslash and a letter stand for. -/
def jsonEscape? (c : Char) : Option Char :=
  match c with
  | '"' => some '"'
  | '\\' => some '\\'
  | '/' => some '/'
  | 'b' => some '\x08'
  | 'f' => some '\x0c'
  | 'n' => some '\n'
  | 'r' => some '\r'
  | 't' => some '\t'
  | _ => none

/-- The units of a text up to its closing quote, and what follows the quote. -/
def jsonUnits : List Char → Option (List Nat × List Char)
  | [] => none
  | '\\' :: 'u' :: a :: b :: c :: d :: rest => do
    let unit ← hexadecimalNumber? [a, b, c, d]
    let (units, rest) ← jsonUnits rest
    some (unit :: units, rest)
  | '\\' :: c :: rest => do
    let plain ← jsonEscape? c
    let (units, rest) ← jsonUnits rest
    some (plain.toNat :: units, rest)
  | c :: rest =>
    if c == '"' then some ([], rest)
    else if c == '\\' || c.toNat < 0x20 then none
    else do
      let (units, rest) ← jsonUnits rest
      some (c.toNat :: units, rest)

/-- The character of a unit that stands alone. -/
def unitChar [Readers] (unit : Nat) : Char :=
  if 0xd800 ≤ unit && unit < 0xe000 then Readers.unpaired unit else Char.ofNat unit

/-- The characters of a text in which two units of a pair stand for one character. -/
def joinPairs [Readers] : List Nat → List Char
  | [] => []
  | [unit] => [unitChar unit]
  | high :: low :: rest =>
    if 0xd800 ≤ high && high < 0xdc00 && 0xdc00 ≤ low && low < 0xe000 then
      Char.ofNat (0x10000 + (high - 0xd800) * 0x400 + (low - 0xdc00)) :: joinPairs rest
    else unitChar high :: joinPairs (low :: rest)

/-- A text after its opening quote, and what follows it. -/
def readJsonText [Readers] (cs : List Char) : Except Fault (String × List Char) :=
  match jsonUnits cs with
  | some (units, rest) => .ok (String.ofList (joinPairs units), rest)
  | none => .error .malformed

/-- The fraction of a number with its point, if digits follow the point. -/
def jsonFraction (cs : List Char) : List Char :=
  match cs with
  | '.' :: rest =>
    match rest.takeWhile isAsciiDigit with
    | [] => []
    | digits => '.' :: digits
  | _ => []

/-- The exponent of a number with its mark, if digits follow the mark and a sign. -/
def jsonExponent (cs : List Char) : List Char :=
  match cs with
  | mark :: rest =>
    if mark == 'e' || mark == 'E' then
      let sign := match rest with
        | c :: _ => if c == '+' || c == '-' then [c] else []
        | [] => []
      match (rest.drop sign.length).takeWhile isAsciiDigit with
      | [] => []
      | digits => mark :: sign ++ digits
    else []
  | [] => []

/-- A number after its sign, and what follows it; a zero in front stands alone. -/
def readJsonNumber (negative : Bool) (cs : List Char) : Except Fault (Value × List Char) :=
  let whole := match cs with
    | '0' :: _ => ['0']
    | _ => cs.takeWhile isAsciiDigit
  if whole.isEmpty then .error .malformed
  else
    let rest := cs.drop whole.length
    let fraction := jsonFraction rest
    let rest := rest.drop fraction.length
    let exponent := jsonExponent rest
    let rest := rest.drop exponent.length
    if fraction.isEmpty && exponent.isEmpty then
      match Decimal.wholeOfDigits negative (whole.map asciiDigitValue) with
      | .value n => .ok (.int n, rest)
      | .tooLong digits => .error (.tooManyDigits digits)
      | .malformed => .error .malformed
    else
      match Decimal.readUnsigned negative (whole ++ fraction ++ exponent) with
      | some x => .ok (.real x, rest)
      | none => .error .malformed

/-- A word at the start of the characters stands for a value. -/
def readJsonWord (word : String) (value : Value) (cs : List Char) :
    Except Fault (Value × List Char) :=
  if word.toList.isPrefixOf cs then .ok (value, cs.drop word.length) else .error .malformed

mutual

/-- A value and what follows it; every container inside takes from the fuel. -/
def readJsonValue [Readers] : Nat → List Char → Except Fault (Value × List Char)
  | 0, _ => .error .malformed
  | fuel + 1, cs =>
    match cs with
    | [] => .error .malformed
    | '"' :: rest => do
      let (s, rest) ← readJsonText rest
      return (.text s, rest)
    | '[' :: rest =>
      match skipJsonSpace rest with
      | ']' :: rest => .ok (.list [], rest)
      | rest => do
        let (items, rest) ← readJsonItems fuel rest
        return (.list items, rest)
    | '\x7b' :: rest =>
      match skipJsonSpace rest with
      | '\x7d' :: rest => .ok (.dict [], rest)
      | rest => do
        let (entries, rest) ← readJsonEntries fuel rest
        return (.dict (collectKeys entries), rest)
    | 'n' :: _ => readJsonWord "null" .null cs
    | 't' :: _ => readJsonWord "true" (.flag true) cs
    | 'f' :: _ => readJsonWord "false" (.flag false) cs
    | 'N' :: _ => readJsonWord "NaN" (.real (.nan 0)) cs
    | 'I' :: _ => readJsonWord "Infinity" (.real (.infinite false)) cs
    | '-' :: 'I' :: _ => readJsonWord "-Infinity" (.real (.infinite true)) cs
    | '-' :: rest => readJsonNumber true rest
    | rest => readJsonNumber false rest

/-- The items of a list, of which there is at least one, and what follows the list. -/
def readJsonItems [Readers] : Nat → List Char → Except Fault (List Value × List Char)
  | 0, _ => .error .malformed
  | fuel + 1, cs => do
    let (item, rest) ← readJsonValue fuel cs
    match skipJsonSpace rest with
    | ',' :: rest =>
      let (items, rest) ← readJsonItems fuel (skipJsonSpace rest)
      return (item :: items, rest)
    | ']' :: rest => return ([item], rest)
    | _ => throw .malformed

/-- The entries of a mapping, of which there is at least one, and what follows the mapping. -/
def readJsonEntries [Readers] : Nat → List Char → Except Fault (List (String × Value) × List Char)
  | 0, _ => .error .malformed
  | fuel + 1, cs => do
    match cs with
    | '"' :: rest =>
      let (key, rest) ← readJsonText rest
      match skipJsonSpace rest with
      | ':' :: rest =>
        let (value, rest) ← readJsonValue fuel (skipJsonSpace rest)
        match skipJsonSpace rest with
        | ',' :: rest =>
          let (entries, rest) ← readJsonEntries fuel (skipJsonSpace rest)
          return ((key, value) :: entries, rest)
        | '\x7d' :: rest => return ([(key, value)], rest)
        | _ => throw .malformed
      | _ => throw .malformed
    | _ => throw .malformed

end

/-- The value of a JSON text, unless the stack ends; a byte order mark is not part of such a
text. -/
def readJson [Runtime] [Readers] (text : List Char) : Except Fault Value := do
  if let some wording := Runtime.reading text then throw (.other "RecursionError" wording)
  -- Each nested value starts at a character of its own, and so does each item of a list.
  let (value, rest) ← readJsonValue (2 * text.length + 2) (skipJsonSpace text)
  if (skipJsonSpace rest).isEmpty then return value else throw .malformed

end AccessControl.Document
