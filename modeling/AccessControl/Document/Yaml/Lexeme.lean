import AccessControl.Document.Yaml.Scalar

/-! The texts of YAML scalars: quoted, plain and in blocks, with their line breaks folded. -/

namespace AccessControl.Document.Yaml

open AccessControl.Text

/-- A place in a text: the characters from there on, the line and the column. -/
structure Cursor where
  rest : List Char
  line : Nat
  column : Nat
  -- Only spaces stand before this place on its line.
  isFresh : Bool
deriving Repr

/-- The place at which a later part of the text starts, with something on its line before it. -/
def Cursor.moveTo (cursor : Cursor) (rest : List Char) : Cursor :=
  let passed := cursor.rest.take (cursor.rest.length - rest.length)
  let breaks := passed.count '\n'
  let column := (passed.reverse.takeWhile (· != '\n')).length
  { rest := rest
    line := cursor.line + breaks
    column := if breaks == 0 then cursor.column + column else column
    isFresh := false }

/-- The next place that is neither space nor line break nor part of a comment. -/
def skipSeparation (line column : Nat) (isFresh inComment : Bool) : List Char → Cursor
  | [] => ⟨[], line, column, isFresh⟩
  | c :: rest =>
    if c == '\n' then skipSeparation (line + 1) 0 true false rest
    else if inComment || c == ' ' then skipSeparation line (column + 1) isFresh inComment rest
    else if c == '#' then skipSeparation line (column + 1) isFresh true rest
    else ⟨c :: rest, line, column, isFresh⟩

/-- The next place that is neither space nor line break nor part of a comment. -/
def Cursor.separate (cursor : Cursor) : Cursor :=
  skipSeparation cursor.line cursor.column cursor.isFresh false cursor.rest

/-- The characters start with a blank or are at their end. -/
def blankFollows (cs : List Char) : Bool :=
  match cs with
  | [] => true
  | c :: _ => c == ' ' || c == '\t' || c == '\n'

/-- Three hyphens or three points with a blank behind them, which start and end documents. -/
def isMarker (cs : List Char) : Bool :=
  (cs.take 3 == ['-', '-', '-'] || cs.take 3 == ['.', '.', '.']) && blankFollows (cs.drop 3)

/-- What blanks inside a quoted text come to: a single line break is a space, more of them are one
fewer. -/
def foldBreaks (isJoined : Bool) (blanks : List Char) (breaks : Nat) : List Char :=
  if isJoined then List.replicate breaks '\n'
  else if breaks == 0 then blanks.reverse
  else if breaks == 1 then [' ']
  else List.replicate (breaks - 1) '\n'

/-- A text between single quotes, in which two quotes stand for one, and what follows it. -/
def singleQuoted (blanks : List Char) (breaks : Nat) : List Char → Option (List Char × List Char)
  | [] => none
  | '\'' :: rest =>
    match rest with
    | '\'' :: rest =>
      (singleQuoted [] 0 rest).map fun (tail, rest) =>
        (foldBreaks false blanks breaks ++ '\'' :: tail, rest)
    | _ => some (foldBreaks false blanks breaks, rest)
  | c :: rest =>
    if c == '\n' then singleQuoted [] (breaks + 1) rest
    else if c == ' ' || c == '\t' then singleQuoted (c :: blanks) breaks rest
    else
      (singleQuoted [] 0 rest).map fun (tail, rest) =>
        (foldBreaks false blanks breaks ++ c :: tail, rest)

/-- The character that a backslash and a letter stand for. -/
def escape? (c : Char) : Option Char :=
  match c with
  | '0' => some '\x00'
  | 'a' => some '\x07'
  | 'b' => some '\x08'
  | 't' => some '\t'
  | '\t' => some '\t'
  | 'n' => some '\n'
  | 'v' => some '\x0b'
  | 'f' => some '\x0c'
  | 'r' => some '\r'
  | 'e' => some '\x1b'
  | ' ' => some ' '
  | '"' => some '"'
  | '\\' => some '\\'
  | '/' => some '/'
  | 'N' => some '\u0085'
  | '_' => some '\u00a0'
  | 'L' => some '\u2028'
  | 'P' => some '\u2029'
  | _ => none

/-- The number of hexadecimal digits after a backslash and a letter. -/
def escapeWidth? (c : Char) : Option Nat :=
  if c == 'x' then some 2 else if c == 'u' then some 4 else if c == 'U' then some 8 else none

/-- A text between double quotes and what follows it; `passed` characters belong to the last
escape. -/
def doubleQuoted (isJoined : Bool) (blanks : List Char) (breaks : Nat) :
    Nat → List Char → Option (List Char × List Char)
  | _, [] => none
  | passed + 1, _ :: rest => doubleQuoted false [] 0 passed rest
  | 0, '\\' :: rest =>
    match rest with
    | [] => none
    | '\n' :: rest =>
      -- A line break after a backslash is left out, and so are the blanks after it.
      (doubleQuoted true [] 0 0 rest).map fun (tail, rest) =>
        (foldBreaks isJoined blanks breaks ++ tail, rest)
    | c :: rest => do
      let (plain, width) ← match escape? c with
        | some plain => some (plain, 0)
        | none => do
          let width ← escapeWidth? c
          let digits := rest.take width
          let n ← if digits.length == width then hexadecimalNumber? digits else none
          if n ≤ 0x10ffff then some (Char.ofNat n, width) else none
      let (tail, rest) ← doubleQuoted false [] 0 width rest
      some (foldBreaks isJoined blanks breaks ++ plain :: tail, rest)
  | 0, c :: rest =>
    if c == '"' then some (foldBreaks isJoined blanks breaks, rest)
    else if c == '\n' then doubleQuoted isJoined [] (breaks + 1) 0 rest
    else if c == ' ' || c == '\t' then doubleQuoted isJoined (c :: blanks) breaks 0 rest
    else
      (doubleQuoted false [] 0 0 rest).map fun (tail, rest) =>
        (foldBreaks isJoined blanks breaks ++ c :: tail, rest)

/-- A character that has a meaning between brackets. -/
def isFlowSign (c : Char) : Bool :=
  c == ',' || c == '[' || c == ']' || c == '\x7b' || c == '\x7d'

/-- The characters of a plain scalar up to a blank, or to a sign that ends it. -/
def plainRun (inFlow : Bool) : List Char → List Char
  | [] => []
  | c :: rest =>
    if c == ' ' || c == '\t' || c == '\n' then []
    else if c == ':' && (blankFollows rest || (inFlow && (rest.head?.any isFlowSign))) then []
    else if inFlow && (isFlowSign c || c == '?') then []
    else c :: plainRun inFlow rest

/-- A plain scalar and the place after it and its blanks; in a block its lines are indented. -/
def plainScalar (inFlow : Bool) (indent : Nat) : Nat → Cursor → List Char × Cursor
  | 0, cursor => ([], cursor)
  | fuel + 1, cursor =>
    match plainRun inFlow cursor.rest with
    | [] => ([], cursor)
    | run =>
      if run.head? == some '#' then ([], cursor)
      else
        let behind := cursor.moveTo (cursor.rest.drop run.length)
        let spaces := behind.rest.takeWhile (· == ' ')
        let next := behind.moveTo (behind.rest.drop spaces.length)
        match next.rest with
        | '\n' :: more =>
          -- The blank lines behind the first line break count, and so do the spaces of the last
          -- line.
          let gap := more.takeWhile fun c => c == ' ' || c == '\n'
          let rest := more.drop gap.length
          let start := { behind.moveTo rest with isFresh := true }
          if (start.column == 0 && isMarker rest) || rest.head? == some '#' ||
              (!inFlow && start.column < indent) then (run, start)
          else
            match plainScalar inFlow indent fuel start with
            | ([], place) => (run, place)
            | (tail, place) => (run ++ foldBreaks false [] (gap.count '\n' + 1) ++ tail, place)
        | _ =>
          if spaces.isEmpty || next.rest.head? == some '#' then (run, next)
          else
            match plainScalar inFlow indent fuel next with
            | ([], place) => (run, place)
            | (tail, place) => (run ++ spaces ++ tail, place)

/-- The lines of a text, without their line breaks. -/
def lines (cs : List Char) : List (List Char) :=
  splitOn '\n' cs

/-- Whether the last line break of a block scalar is left out, is kept, or all of them are. -/
inductive Chomping
  | strip
  | clip
  | keep
deriving Repr, DecidableEq

/-- The head of a block scalar: its chomping and its indentation, in either order. -/
def blockHead (cs : List Char) : Option (Chomping × Option Nat) :=
  let chomping (c : Char) : Option Chomping :=
    if c == '-' then some .strip else if c == '+' then some .keep else none
  let width (c : Char) : Option Nat :=
    if '1' ≤ c && c ≤ '9' then some (asciiDigitValue c) else none
  let signs := cs.takeWhile fun c => c != ' ' && c != '#'
  let rest := cs.drop signs.length
  let after := rest.dropWhile (· == ' ')
  if !(after.isEmpty || after.head? == some '#') then none
  else
    match signs with
    | [] => some (.clip, none)
    | [c] =>
      match chomping c, width c with
      | some kind, _ => some (kind, none)
      | none, some n => some (.clip, some n)
      | none, none => none
    | [c, d] =>
      match chomping c, width d, width c, chomping d with
      | some kind, some n, _, _ => some (kind, some n)
      | _, _, some n, some kind => some (kind, some n)
      | _, _, _, _ => none
    | _ => none

/-- The lines of a block scalar, which are indented or hold spaces only, without the indentation. -/
def blockLines (indent : Nat) : List (List Char) → List (List Char)
  | [] => []
  | line :: more =>
    if (line.take indent).all (· == ' ') && indent ≤ line.length then
      line.drop indent :: blockLines indent more
    else if line.all (· == ' ') then [] :: blockLines indent more
    else []

/-- The line starts with a blank. -/
def startsBlank (line : List Char) : Bool :=
  match line with
  | c :: _ => c == ' ' || c == '\t'
  | [] => false

/-- The text of lines, where a line break between two lines that are not indented further folds. -/
def joinBlock (isFolded : Bool) (previous : Option (List Char)) (breaks : Nat) :
    List (List Char) → List Char
  | [] => []
  | line :: more =>
    if line.isEmpty then joinBlock isFolded previous (breaks + 1) more
    else
      let gap := match previous with
        | none => List.replicate breaks '\n'
        | some before =>
          if isFolded && !startsBlank before && !startsBlank line then
            foldBreaks false [] (breaks + 1)
          else List.replicate (breaks + 1) '\n'
      gap ++ line ++ joinBlock isFolded (some line) 0 more

/-- The indentation of a block scalar without a number in its head. -/
def blockIndent (least : Nat) : List (List Char) → Nat
  | [] => least
  | line :: more =>
    let spaces := (line.takeWhile (· == ' ')).length
    -- Blank lines at the start count with their spaces.
    if spaces == line.length then blockIndent (max least spaces) more else max least spaces

/-- The text of a block scalar and what follows it; its lines are indented by `least` at least. -/
def blockScalar (isFolded : Bool) (least : Nat) (cs : List Char) :
    Option (List Char × List Char) := do
  let head := cs.takeWhile (· != '\n')
  let (chomping, width) ← blockHead head
  let all := lines (cs.drop (head.length + 1))
  let indent := match width with
    | some n => least + n - 1
    | none => blockIndent least all
  let body := blockLines indent all
  let content := (body.reverse.dropWhile List.isEmpty).reverse
  -- What follows the last line break is no line that ends with one.
  let breaks := body.length - content.length - (if body.length == all.length then 1 else 0)
  let last := if content.isEmpty || content.length == all.length then [] else ['\n']
  let tail := match chomping with
    | .strip => []
    | .clip => last
    | .keep => last ++ List.replicate breaks '\n'
  some (joinBlock isFolded none 0 content ++ tail, ['\n'].intercalate (all.drop body.length))

end AccessControl.Document.Yaml
