import AccessControl.Text.ColumnTable
import AccessControl.Text.Trim

/-! The columns that texts take on a screen. -/

namespace AccessControl.Text

/-- A character that takes no column: a control character or a combining mark. -/
def takesNoColumn (c : Char) : Bool :=
  c.toNat < 0x20 || (0x7f ≤ c.toNat && c.toNat < 0xa0) || combiningRanges.contains c

/-- The number of columns of a character. -/
def columnsOf (c : Char) : Nat :=
  if 0x20 ≤ c.toNat && c.toNat < 0x7f then 1
  else if takesNoColumn c then 0
  else if wideRanges.contains c then 2
  else 1

/-- The number of columns of a line. -/
def columns (line : List Char) : Nat :=
  line.foldr (fun c count => columnsOf c + count) 0

/-- A control character that a screen would obey and that is left out of what is shown on it. -/
def isScreenControl (c : Char) : Bool :=
  c == '\x07' || c == '\x08' || c == '\x0b' || c == '\x0c' || c == '\r'

/-- A line whose tabs reach to the next multiple of eight columns; `column` is where it starts. -/
def expandTabs (column : Nat) : List Char → List Char
  | [] => []
  | c :: rest =>
    if c == '\t' then
      let blanks := 8 - column % 8
      List.replicate blanks ' ' ++ expandTabs (column + blanks) rest
    else c :: expandTabs (column + columnsOf c) rest

/-- The lines of a text as a screen shows them. -/
def screenLines (s : String) : List (List Char) :=
  let shown := s.toList.filter fun c => !isScreenControl c
  (splitOn '\n' shown).map (expandTabs 0)

end AccessControl.Text
