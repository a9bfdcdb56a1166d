import AccessControl.Document.Yaml.Lexeme
import AccessControl.Value.Compare

/-! Values read from YAML: mappings and sequences in blocks by indentation or between brackets. -/

namespace AccessControl.Document.Yaml

open AccessControl.Text

/-- A hyphen that starts an item of a sequence. -/
def startsItem (cs : List Char) : Bool :=
  match cs with
  | '-' :: rest => blankFollows rest
  | _ => false

/-- A character with which a plain scalar can start. -/
def startsPlain (inFlow : Bool) (cs : List Char) : Bool :=
  match cs with
  | [] => false
  | c :: rest =>
    if c == '-' then !blankFollows rest
    else if c == '?' || c == ':' then !inFlow && !blankFollows rest
    else !(isFlowSign c || c.isWhitespace || "#&*!|>'\"%@\x60".toList.contains c)

/-- A colon that stands between a key and its value. -/
def startsValue (inFlow : Bool) (cs : List Char) : Bool :=
  match cs with
  | ':' :: rest => inFlow || blankFollows rest
  | _ => false

/-- The key of a mapping that a value is; a value that holds others is none. -/
def keyOf (value : Value) : Except Fault Key :=
  match value.key? with
  | some key => .ok key
  | none => .error .malformed

/-- What stands at a place can be the key of a value whose colon stands at another: they are on one
line, and not too far apart. -/
def Cursor.isKeyUpTo (start colon : Cursor) : Bool :=
  start.line == colon.line && start.rest.length ≤ colon.rest.length + 1024

/-- The place behind spaces on the same line. -/
def Cursor.skipSpaces (cursor : Cursor) : Cursor :=
  match cursor.rest with
  | ' ' :: _ => { cursor.moveTo (cursor.rest.dropWhile (· == ' ')) with isFresh := cursor.isFresh }
  | _ => cursor

/-- A scalar between quotes or a plain one. -/
def readScalar (inFlow : Bool) (indent : Nat) (cursor : Cursor) : Except Fault (Value × Cursor) :=
  match cursor.rest with
  | '\'' :: rest =>
    match singleQuoted [] 0 rest with
    | some (s, rest) => .ok (.text (String.ofList s), cursor.moveTo rest)
    | none => .error .malformed
  | '"' :: rest =>
    match doubleQuoted false [] 0 0 rest with
    | some (s, rest) => .ok (.text (String.ofList s), cursor.moveTo rest)
    | none => .error .malformed
  | cs =>
    if startsPlain inFlow cs then
      let (s, place) := plainScalar inFlow indent cs.length cursor
      (plainValue s).map fun value => (value, place)
    else .error .malformed

mutual

/-- A value between brackets, or a scalar there. -/
def readFlow : Nat → Cursor → Except Fault (Value × Cursor)
  | 0, _ => .error .malformed
  | fuel + 1, cursor =>
    match cursor.rest with
    | '[' :: rest => do
      let (items, place) ← readFlowItems fuel (cursor.moveTo rest).separate
      return (.list items, place)
    | '\x7b' :: rest => do
      let (entries, place) ← readFlowEntries fuel (cursor.moveTo rest).separate
      return (.ofPairs entries, place)
    | _ => readScalar true 0 cursor

/-- A value between brackets, and the value behind a colon if one follows on the same line. -/
def readFlowPair : Nat → Cursor → Except Fault ((Value × Option Value) × Cursor)
  | 0, _ => .error .malformed
  | fuel + 1, cursor => do
    let (first, place) ← readFlow fuel cursor
    let next := place.separate
    if startsValue true next.rest then
      if cursor.isKeyUpTo next then
        let value := (next.moveTo (next.rest.drop 1)).separate
        match value.rest with
        | c :: _ =>
          if c == ',' || c == ']' || c == '\x7d' then return ((first, some .null), value)
          else
            let (second, place) ← readFlow fuel value
            return ((first, some second), place.separate)
        | [] => throw .malformed
      else throw .malformed
    else return ((first, none), next)

/-- The items of a sequence up to its closing bracket; a pair is a mapping of its own. -/
def readFlowItems : Nat → Cursor → Except Fault (List Value × Cursor)
  | 0, _ => .error .malformed
  | fuel + 1, cursor =>
    match cursor.rest with
    | ']' :: rest => .ok ([], cursor.moveTo rest)
    | _ => do
      let ((first, second), place) ← readFlowPair fuel cursor
      let item ← match second with
        | none => pure first
        | some value => do pure (.ofPairs [(← keyOf first, value)])
      match place.rest with
      | ',' :: rest =>
        let (items, place) ← readFlowItems fuel (place.moveTo rest).separate
        return (item :: items, place)
      | ']' :: rest => return ([item], place.moveTo rest)
      | _ => throw .malformed

/-- The entries of a mapping up to its closing brace; a key alone has no value. -/
def readFlowEntries : Nat → Cursor → Except Fault (List (Key × Value) × Cursor)
  | 0, _ => .error .malformed
  | fuel + 1, cursor =>
    match cursor.rest with
    | '\x7d' :: rest => .ok ([], cursor.moveTo rest)
    | _ => do
      let ((first, second), place) ← readFlowPair fuel cursor
      let entry := (← keyOf first, second.getD .null)
      match place.rest with
      | ',' :: rest =>
        let (entries, place) ← readFlowEntries fuel (place.moveTo rest).separate
        return (entry :: entries, place)
      | '\x7d' :: rest => return ([entry], place.moveTo rest)
      | _ => throw .malformed

end

mutual

/-- A value in a block; only where `mayOpen` holds, a block mapping or sequence may start. -/
def readBlock : Nat → Nat → Bool → Cursor → Except Fault (Value × Cursor)
  | 0, _, _, _ => .error .malformed
  | fuel + 1, indent, mayOpen, cursor =>
    if startsItem cursor.rest then
      if mayOpen then do
        let (items, place) ← readItems fuel cursor.column cursor
        return (.list items, place)
      else .error .malformed
    else
      match cursor.rest with
      | [] => .ok (.null, cursor)
      | '|' :: rest => readBlockScalar false indent cursor rest
      | '>' :: rest => readBlockScalar true indent cursor rest
      | c :: rest => do
        let (value, place) ←
          if c == '[' || c == '\x7b' then readFlow (4 * rest.length + 4) cursor
          else readScalar false indent cursor
        let next := place.skipSpaces
        if cursor.isKeyUpTo next && startsValue false next.rest then
          if mayOpen then
            let (entries, place) ← readEntries fuel cursor.column value
              (next.moveTo (next.rest.drop 1))
            return (.ofPairs entries, place)
          else throw .malformed
        else return (value, place)

/-- The text of a block scalar. -/
def readBlockScalar (isFolded : Bool) (indent : Nat) (cursor : Cursor) (rest : List Char) :
    Except Fault (Value × Cursor) :=
  match blockScalar isFolded (max indent 1) rest with
  | some (s, after) => .ok (.text (String.ofList s), { cursor.moveTo after with isFresh := true })
  | none => .error .malformed

/-- The items of a sequence whose hyphens stand in a column. -/
def readItems : Nat → Nat → Cursor → Except Fault (List Value × Cursor)
  | 0, _, _ => .error .malformed
  | fuel + 1, column, cursor => do
    let start := (cursor.moveTo (cursor.rest.drop 1)).separate
    let (item, place) ←
      if start.isFresh && start.column ≤ column then pure (Value.null, start)
      else readBlock fuel (column + 1) true start
    let next := place.separate
    if next.rest.isEmpty then return ([item], next)
    else if !next.isFresh then throw .malformed
    else if next.column == column && startsItem next.rest then
      let (items, place) ← readItems fuel column next
      return (item :: items, place)
    else return ([item], next)

/-- The entries of a mapping whose keys stand in a column, from behind the colon of the first
one. -/
def readEntries : Nat → Nat → Value → Cursor → Except Fault (List (Key × Value) × Cursor)
  | 0, _, _, _ => .error .malformed
  | fuel + 1, column, key, cursor => do
    let key ← keyOf key
    let start := cursor.separate
    let (value, place) ←
      if start.rest.isEmpty then pure (Value.null, start)
      else if !start.isFresh then readBlock fuel (column + 1) false start
      else if column < start.column then readBlock fuel (column + 1) true start
      else if start.column == column && startsItem start.rest then do
        let (items, place) ← readItems fuel column start
        pure (Value.list items, place)
      else pure (Value.null, start)
    let next := place.separate
    if next.rest.isEmpty then return ([(key, value)], next)
    else if !next.isFresh then throw .malformed
    else if next.column == column && !(column == 0 && isMarker next.rest) then
      let (another, behind) ← readScalar false (column + 1) next
      let colon := behind.skipSpaces
      if next.isKeyUpTo colon && startsValue false colon.rest then
        let (entries, place) ← readEntries fuel column another (colon.moveTo (colon.rest.drop 1))
        return ((key, value) :: entries, place)
      else throw .malformed
    else if column < next.column then throw .malformed
    else return ([(key, value)], next)

end

/-- A character that a document may hold. -/
def isAllowed (c : Char) : Bool :=
  let n := c.toNat
  n == 0x09 || n == 0x0a || n == 0x0d || (0x20 ≤ n && n ≤ 0x7e) || n == 0x85 ||
    (0xa0 ≤ n && n ≤ 0xfffd) || 0x10000 ≤ n

/-- Nothing but the end of a document follows. -/
def endsDocument (cursor : Cursor) : Bool :=
  let next := cursor.separate
  if next.rest.isEmpty then true
  else if next.isFresh && next.column == 0 && next.rest.take 3 == ['.', '.', '.'] then
    (next.moveTo (next.rest.drop 3)).separate.rest.isEmpty
  else false

/-- The value of a document, which is nothing if the document is empty. -/
def readDocument (cs : List Char) : Except Fault Value := do
  if !cs.all isAllowed then throw .malformed
  let cs := match cs with
    | '\ufeff' :: rest => rest
    | _ => cs
  -- There is a second character for a line break.
  let cs := cs.map fun c => if c == '\u0085' then '\n' else c
  let start := (Cursor.mk cs 0 0 true).separate
  let hasMarker := start.column == 0 && start.rest.take 3 == ['-', '-', '-'] && isMarker start.rest
  let start := if hasMarker then (start.moveTo (start.rest.drop 3)).separate else start
  let isOver := start.rest.isEmpty || (start.isFresh && start.column == 0 && isMarker start.rest)
  let (value, place) ←
    if isOver then pure (Value.null, start)
    else readBlock (3 * cs.length + 3) 0 start.isFresh start
  if endsDocument place then return value else throw .malformed

end AccessControl.Document.Yaml
