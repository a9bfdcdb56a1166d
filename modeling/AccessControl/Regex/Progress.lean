import AccessControl.Regex.Options

/-! The marks of a written regular expression, and steps through them with what they have met. -/

namespace AccessControl.Regex

/-- Why a text is not read as a regular expression. -/
inductive Fault
  | malformed
  | repetitionTooLarge
  | tooManyDigits (digits : Nat)
  | bothAlphabets
deriving Repr, DecidableEq

/-- A character of a pattern, one after a backslash, or a backslash that nothing follows. -/
inductive Mark
  | plain (c : Char)
  | escaped (c : Char)
  | broken
deriving Repr, DecidableEq

/-- The marks of a pattern. -/
def marks : List Char → List Mark
  | [] => []
  | '\\' :: rest =>
    match rest with
    | [] => [.broken]
    | c :: rest => .escaped c :: marks rest
  | c :: rest => .plain c :: marks rest

/-- What has been read so far: the marks left, the groups met, and the options of the whole. -/
structure Progress where
  rest : List Mark
  -- The width of each group that is complete, from the first group on.
  groups : List (Option Width)
  names : List (String × Nat)
  -- The number of groups before the outermost look-behind that is being read.
  behind : Option Nat
  -- The highest group that a choice asks for.
  asked : Nat
  options : Options
  -- Something read has no meaning, although its form is right.
  doomed : Bool

/-- A step of the reader. -/
abbrev Read := StateT Progress (Except Fault)

/-- The text is not a regular expression. -/
def refuse {α : Type} : Read α := throw .malformed

/-- The text is not a regular expression, unless reading it to its end finds another fault first. -/
def doom : Read Unit :=
  modify fun progress => { progress with doomed := true }

/-- The next mark, without moving past it. -/
def peek : Read (Option Mark) := do
  return (← get).rest.head?

/-- Marks from which reading goes on; a backslash that nothing follows ends it. -/
def goOn (rest : List Mark) : Read Unit := do
  if rest.head? == some .broken then refuse
  modify fun progress => { progress with rest := rest }

/-- The next mark, moving past it. -/
def next : Read (Option Mark) := do
  match (← get).rest with
  | [] => return none
  | mark :: rest => do
    goOn rest
    return some mark

/-- Moves past the next mark if it is the given character. -/
def accept (c : Char) : Read Bool := do
  if (← peek) == some (.plain c) then
    let _ ← next
    return true
  else return false

/-- The next mark must be the given character. -/
def demand (c : Char) : Read Unit := do
  if !(← accept c) then refuse

/-- Up to the given number of plain characters for which the test holds. -/
def takeWhile (test : Char → Bool) : Nat → Read (List Char)
  | 0 => return []
  | fuel + 1 => do
    match ← peek with
    | some (.plain c) =>
      if test c then
        let _ ← next
        return c :: (← takeWhile test fuel)
      else return []
    | _ => return []

/-- The marks up to a closing character, which is passed, as text; there must be at least one. -/
def takeUntil (close : Char) : Nat → List Char → Read (List Char)
  | 0, _ => refuse
  | fuel + 1, found => do
    match ← next with
    | none => refuse
    | some (.plain c) =>
      if c == close then
        if found.isEmpty then refuse else return found.reverse
      else takeUntil close fuel (c :: found)
    | some (.escaped c) => takeUntil close fuel (c :: '\\' :: found)
    | some .broken => refuse

/-- Moves past the marks up to and with the given character; without it reading stops at the end. -/
def skipPast (close : Char) : Nat → Read Bool
  | 0 => return false
  | fuel + 1 => do
    match ← next with
    | none => return false
    | some mark => if mark == .plain close then return true else skipPast close fuel

end AccessControl.Regex
