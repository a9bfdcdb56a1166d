import AccessControl.Decimal.Reading
import AccessControl.Value.Text
import AccessControl.Error

/-! The JSON text of a value, in ASCII characters, on one line or with one item a line. -/

namespace AccessControl.Document

open AccessControl.Text

/-- A sixteen-bit unit as an escape. -/
def unitEscape (unit : Nat) : List Char :=
  '\\' :: 'u' :: hexDigits 4 unit

/-- One character of a text. -/
def jsonChar (c : Char) : List Char :=
  if c == '"' || c == '\\' then ['\\', c]
  else if c == '\n' then ['\\', 'n']
  else if c == '\r' then ['\\', 'r']
  else if c == '\t' then ['\\', 't']
  else if c == '\x08' then ['\\', 'b']
  else if c == '\x0c' then ['\\', 'f']
  else if 0x20 ≤ c.toNat && c.toNat < 0x7f then [c]
  else if c.toNat < 0x10000 then unitEscape c.toNat
  else
    -- A character beyond the units is written as two of them.
    let n := c.toNat - 0x10000
    unitEscape (0xd800 + n / 0x400) ++ unitEscape (0xdc00 + n % 0x400)

/-- A text between double quotes. -/
def jsonQuote (s : String) : String :=
  String.ofList ('"' :: s.toList.flatMap jsonChar ++ ['"'])

/-- The text of a double, with words of their own for infinities and nans. -/
def jsonDouble : Double → String
  | .nan _ => "NaN"
  | .infinite negative => if negative then "-Infinity" else "Infinity"
  | x => x.text

/-- A line break and the blanks of a level, or nothing when all stands on one line. -/
def lineBreak (step : Option Nat) (level : Nat) : String :=
  match step with
  | none => ""
  | some width => "\n" ++ String.ofList (List.replicate (width * level) ' ')

/-- Items between two brackets. -/
def bracketed (step : Option Nat) (level : Nat) (first last : String) (items : List String) :
    String :=
  if items.isEmpty then first ++ last
  else
    let comma := if step.isNone then ", " else ","
    first ++ lineBreak step (level + 1) ++
      (comma ++ lineBreak step (level + 1)).intercalate items ++ lineBreak step level ++ last

mutual

/-- The JSON text of a value at a level; `step` is how many blanks each level adds. -/
def jsonText (step : Option Nat) (level : Nat) : Value → Except Error String
  | .null => .ok "null"
  | .flag b => .ok (if b then "true" else "false")
  | .int i =>
    if Decimal.HasFewDigits i then .ok (intText i) else .error (.number .tooLongToWrite)
  | .real x => .ok (jsonDouble x)
  | .text s => .ok (jsonQuote s)
  | .list items => (jsonItems step (level + 1) items).map (bracketed step level "[" "]")
  | .dict entries =>
    (jsonEntries step (level + 1) entries).map (bracketed step level "\x7b" "\x7d")
  | value => .error (.argument (.notSerializable value.shortKindName))

/-- The JSON texts of the items of a list. -/
def jsonItems (step : Option Nat) (level : Nat) : List Value → Except Error (List String)
  | [] => .ok []
  | item :: rest => do
    let first ← jsonText step level item
    let more ← jsonItems step level rest
    return first :: more

/-- The JSON texts of the entries of a mapping. -/
def jsonEntries (step : Option Nat) (level : Nat) :
    List (String × Value) → Except Error (List String)
  | [] => .ok []
  | (key, value) :: rest => do
    let first ← jsonText step level value
    let more ← jsonEntries step level rest
    return (jsonQuote key ++ ": " ++ first) :: more

end

end AccessControl.Document
