import AccessControl.Value.Basic
import AccessControl.Decimal.Shortest
import AccessControl.Text.Quoted

/-! The texts of values: as a field of a rule holds them, and as messages show them. -/

namespace AccessControl

/-- The decimal text of a number, with zeros before it up to the given width. -/
def paddedText (width n : Nat) : String :=
  let digits := Double.digitChars n
  String.ofList (List.replicate (width - digits.length) '0' ++ digits)

/-- The decimal text of a whole number. -/
def intText (i : Int) : String :=
  let digits := String.ofList (Double.digitChars i.natAbs)
  if i < 0 then "-" ++ digits else digits

/-- Numbers with commas between them. -/
def shownNumbers (numbers : List Nat) : String :=
  ", ".intercalate (numbers.map fun (n : Nat) => intText n)

/-- A date in digits. -/
def Time.Day.text (date : Time.Day) : String :=
  paddedText 4 date.year ++ "-" ++ paddedText 2 date.month ++ "-" ++ paddedText 2 date.day

/-- Hours and minutes of an offset with its sign. -/
def offsetText (minutes : Int) : String :=
  (if minutes < 0 then "-" else "+") ++ paddedText 2 (minutes.natAbs / 60) ++ ":" ++
    paddedText 2 (minutes.natAbs % 60)

/-- A stamp in digits; a fraction of a second has six of them. -/
def Time.Stamp.text (stamp : Time.Stamp) : String :=
  stamp.date.text ++ " " ++ paddedText 2 stamp.hour ++ ":" ++ paddedText 2 stamp.minute ++ ":" ++
    paddedText 2 stamp.second ++
    (if stamp.microsecond == 0 then "" else "." ++ paddedText 6 stamp.microsecond) ++
    (stamp.offset?.map offsetText).getD ""

/-- A length of time as messages show it: whole days, which may be negative, and seconds of a
day. -/
def shownMinutes (minutes : Int) : String :=
  let days := minutes / 1440
  let seconds := minutes % 1440 * 60
  "datetime.timedelta(" ++
    ", ".intercalate ((if days == 0 then [] else ["days=" ++ intText days]) ++
      (if seconds == 0 then [] else ["seconds=" ++ intText seconds])) ++ ")"

/-- The offset of a stamp as messages show it. -/
def shownOffset (minutes : Int) : String :=
  if minutes == 0 then ", tzinfo=datetime.timezone.utc"
  else ", tzinfo=datetime.timezone(" ++ shownMinutes minutes ++ ")"

/-- A stamp as messages show it, without seconds and their fraction where they are zero. -/
def Time.Stamp.shown (stamp : Time.Stamp) : String :=
  let fine := if stamp.microsecond == 0 then [] else [stamp.microsecond]
  let seconds := if stamp.second == 0 && fine.isEmpty then [] else stamp.second :: fine
  "datetime.datetime(" ++
    shownNumbers ([stamp.date.year, stamp.date.month, stamp.date.day, stamp.hour, stamp.minute] ++
      seconds) ++ (stamp.offset?.map shownOffset).getD "" ++ ")"

/-- A key as messages show it; a text stands between quotes. -/
def Key.shown : Key → String
  | .null => "None"
  | .flag b => if b then "True" else "False"
  | .int i => intText i
  | .real x => x.text
  | .text s => Text.quote s
  | .date day => "datetime.date(" ++ shownNumbers [day.year, day.month, day.day] ++ ")"
  | .stamp moment => moment.shown

/-- A key as a text; a text stands for itself. -/
def Key.asText : Key → String
  | .text s => s
  | .date day => day.text
  | .stamp moment => moment.text
  | key => key.shown

/-- The name, or where it is taken the name with so many stars that it is longer than all that are
taken. -/
def freshName (taken : List String) (name : String) : String :=
  if taken.contains name then
    String.ofList (name.toList ++ List.replicate ((taken.map String.length).foldl max 0) '*')
  else name

/-- The name that stands for a key among keys that are texts. A text is its own name, and no other
key has the name of one of the texts; the words for nothing and for truth are small. -/
def Key.name (texts : List String) : Key → String
  | .null => freshName texts "null"
  | .flag b => freshName texts (if b then "true" else "false")
  | .text s => s
  | key => freshName texts key.asText

namespace Value

mutual

/-- A value as messages show it; a text stands between quotes. -/
def shown : Value → String
  | .null => Key.null.shown
  | .flag b => Key.shown (.flag b)
  | .int i => intText i
  | .real x => x.text
  | .text s => Text.quote s
  | .list items => "[" ++ ", ".intercalate (shownItems items) ++ "]"
  | .dict entries => "\x7b" ++ ", ".intercalate (shownEntries entries) ++ "\x7d"
  | .table entries => "\x7b" ++ ", ".intercalate (shownPairs entries) ++ "\x7d"
  | .record title attributes =>
    title ++ "(" ++ ", ".intercalate (shownAttributes attributes) ++ ")"
  | .date day => Key.shown (.date day)
  | .stamp moment => moment.shown
  | .object own => own.shown

/-- The items of a list as messages show them. -/
def shownItems : List Value → List String
  | [] => []
  | item :: rest => shown item :: shownItems rest

/-- The entries of a mapping as messages show them. -/
def shownEntries : List (String × Value) → List String
  | [] => []
  | (key, value) :: rest => (Text.quote key ++ ": " ++ shown value) :: shownEntries rest

/-- The entries of a table as messages show them. -/
def shownPairs : List (Key × Value) → List String
  | [] => []
  | (key, value) :: rest => (key.shown ++ ": " ++ shown value) :: shownPairs rest

/-- The attributes of a record as messages show them; one without a name is left out. -/
def shownAttributes : List (String × Value) → List String
  | [] => []
  | (key, value) :: rest =>
    let shownRest := shownAttributes rest
    if key == "" then shownRest else (key ++ "=" ++ shown value) :: shownRest

end

/-- A value as a field of a rule holds it; a text stands for itself. -/
def asText : Value → String
  | .text s => s
  | .date day => day.text
  | .stamp moment => moment.text
  | .object own => own.text
  | value => value.shown

end Value

/-- Texts as a message shows a row of them; a single one is followed by a comma. -/
def shownRow (values : List Value) : String :=
  match values with
  | [value] => "(" ++ value.shown ++ ",)"
  | _ => "(" ++ ", ".intercalate (Value.shownItems values) ++ ")"

end AccessControl
