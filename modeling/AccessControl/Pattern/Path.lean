import AccessControl.Pattern.Basic

/-! Path patterns: a star for any characters of a line, and parameters written `:name` or in
braces. -/

namespace AccessControl

namespace Pattern

/-- A character of a pattern; a star stands for a run within a line. -/
def plainPiece (c : Char) : Piece :=
  if c == '*' then .run .withinLine else .exact c

/-- A pattern in which only stars are special. -/
def ofStars (pattern : List Char) : Pattern :=
  pattern.map plainPiece

/-- A pattern with stars and colons; a colon starts a name of at least one character up to a
slash. -/
def ofColons : Option (List Char) → List Char → Pattern
  | none, [] => []
  | none, c :: rest =>
    if c == ':' && (rest.head?.any (· != '/')) then ofColons (some []) rest
    else plainPiece c :: ofColons none rest
  | some name, [] => [.param name.reverse]
  | some name, c :: rest =>
    if c == '/' then .param name.reverse :: .exact '/' :: ofColons none rest
    else ofColons (some (c :: name)) rest

/-- A pattern with stars and braces; a name between them has a character and no slash. -/
def ofBraces : Option (List Char) → List Char → Pattern
  | none, [] => []
  | none, c :: rest =>
    if c == '\x7b' then ofBraces (some []) rest else plainPiece c :: ofBraces none rest
  | some name, [] => .exact '\x7b' :: name.reverse.map plainPiece
  | some name, c :: rest =>
    if c == '\x7d' && !name.isEmpty then .param name.reverse :: ofBraces none rest
    else if c == '\x7d' || c == '/' then
      -- What has been read since the brace is no name, so it stands for itself.
      .exact '\x7b' :: name.reverse.map plainPiece ++ plainPiece c :: ofBraces none rest
    else ofBraces (some (c :: name)) rest

end Pattern

/-- The key fits a pattern in which stars stand for any characters of a line. -/
def matchesStars (key pattern : List Char) : Bool :=
  (Pattern.ofStars pattern).accepts key

/-- The key fits a pattern of stars and colon parameters. -/
def matchesColons (key pattern : List Char) : Bool :=
  (Pattern.ofColons none pattern).accepts key

/-- The key fits a pattern of stars and brace parameters. -/
def matchesBraces (key pattern : List Char) : Bool :=
  (Pattern.ofBraces none pattern).accepts key

/-- The key fits a pattern of stars and brace parameters whose first fit gives each name one
value. -/
def matchesEqualBraces (key pattern : List Char) : Bool :=
  match (Pattern.ofBraces none pattern).bind? .longest key with
  | some bindings => bindings.agree
  | none => false

/-- The part of the key from the place of the first star on, if all before it is equal and it is not
empty. -/
def starValue (key pattern : List Char) : List Char :=
  let start := pattern.takeWhile (· != '*')
  if start.length == pattern.length then []
  else if start.isPrefixOf key then key.drop start.length
  else []

/-- The value of a named parameter in the first fit that takes as little as it can. -/
def paramValue (pattern : Pattern) (key name : List Char) : List Char :=
  if pattern.names.contains name then
    ((pattern.bind? .shortest key).bind fun bindings => bindings.value? name).getD []
  else []

end AccessControl
