import AccessControl.Text.Columns

/-! Tables in boxes, with heavy lines around the titles. -/

namespace AccessControl

/-- Where the text of a cell stands; in the centre an odd blank goes to the right. -/
inductive Alignment
  | left
  | right
  | centre
deriving Repr, DecidableEq

/-- A column of a table. -/
structure TableColumn where
  title : String
  alignment : Alignment
deriving Repr, DecidableEq

/-- So many blanks. -/
def blanks (count : Nat) : List Char :=
  List.replicate count ' '

/-- A line of a cell with blanks up to a width. -/
def Alignment.fill (alignment : Alignment) (width : Nat) (line : List Char) : List Char :=
  let free := width - Text.columns line
  match alignment with
  | .left => line ++ blanks free
  | .right => blanks free ++ line
  | .centre => blanks (free / 2) ++ line ++ blanks (free - free / 2)

/-- The characters of a line across a table: before, between and behind its cells. -/
structure Stroke where
  first : Char
  between : Char
  last : Char
deriving Repr, DecidableEq

/-- Parts side by side within the characters of a line. -/
def Stroke.enclose (stroke : Stroke) (parts : List (List Char)) : List Char :=
  stroke.first :: [stroke.between].intercalate parts ++ [stroke.last]

/-- A table: its columns, and rows with a cell for each column. -/
structure Table where
  columns : List TableColumn
  rows : List (List String)
deriving Repr, DecidableEq

namespace Table

/-- The columns that the widest line of a cell takes. -/
def cellWidth (cell : String) : Nat :=
  ((Text.screenLines cell).map Text.columns).foldl max 0

/-- The width of each column. -/
def widths (table : Table) : List Nat :=
  table.columns.mapIdx fun index column =>
    (table.rows.map fun row => cellWidth (row[index]?.getD "")).foldl max (cellWidth column.title)

/-- A line across the table that is drawn with one character. -/
def border (table : Table) (stroke : Stroke) (c : Char) : List Char :=
  stroke.enclose (table.widths.map fun width => List.replicate (width + 2) c)

/-- The lines of a row, as many as its highest cell has. -/
def rowLines (table : Table) (stroke : Stroke) (cells : List String) : List (List Char) :=
  let parts := cells.map Text.screenLines
  let height := (parts.map List.length).foldl max 1
  let frames := (table.columns.map (·.alignment)).zip table.widths
  (List.range height).map fun index =>
    stroke.enclose ((frames.zip parts).map fun ((alignment, width), lines) =>
      ' ' :: alignment.fill width (lines[index]?.getD []) ++ [' '])

/-- The lines of a table. -/
def lines (table : Table) : List (List Char) :=
  [table.border ⟨'┏', '┳', '┓'⟩ '━'] ++
    table.rowLines ⟨'┃', '┃', '┃'⟩ (table.columns.map (·.title)) ++
    [table.border ⟨'┡', '╇', '┩'⟩ '━'] ++
    table.rows.flatMap (table.rowLines ⟨'│', '│', '│'⟩) ++
    [table.border ⟨'└', '┴', '┘'⟩ '─']

end Table

end AccessControl
