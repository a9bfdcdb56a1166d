/-! Patterns of keys: fixed characters, runs of characters and named parameters. -/

namespace AccessControl

/-- The characters that a run or a single place of a pattern may stand for. -/
inductive CharSet
  | withinLine
  | withinSegment
  | listed (negated : Bool) (ranges : List (Char × Char))
deriving Repr, DecidableEq

/-- The character belongs to the set. -/
def CharSet.holds : CharSet → Char → Bool
  | .withinLine, c => c != '\n'
  | .withinSegment, c => c != '/'
  | .listed negated ranges, c => (ranges.any fun r => r.1 ≤ c && c ≤ r.2) != negated

/-- A piece of a pattern; a parameter stands for a run of at least one character without a slash. -/
inductive Piece
  | exact (c : Char)
  | one (set : CharSet)
  | run (set : CharSet)
  | param (name : List Char)
deriving Repr, DecidableEq

/-- A pattern of keys. -/
abbrev Pattern := List Piece

/-- The values of parameters, in the order of the pattern. -/
abbrev Bindings := List (List Char × List Char)

/-- What follows holds after some beginning of the characters that all pass the test. -/
def afterRun (test : Char → Bool) (following : List Char → Bool) : List Char → Bool
  | [] => following []
  | c :: rest => following (c :: rest) || (test c && afterRun test following rest)

/-- The longest beginning that passes the test after which something follows, with what follows. -/
def longestRun {α : Type} (test : Char → Bool) (following : List Char → Option α) :
    List Char → Option (List Char × α)
  | [] => (following []).map fun a => ([], a)
  | c :: rest =>
    let longer := if test c then longestRun test following rest else none
    match longer with
    | some (taken, a) => some (c :: taken, a)
    | none => (following (c :: rest)).map fun a => ([], a)

/-- The shortest beginning that passes the test after which something follows, with what follows. -/
def shortestRun {α : Type} (test : Char → Bool) (following : List Char → Option α) :
    List Char → Option (List Char × α)
  | [] => (following []).map fun a => ([], a)
  | c :: rest =>
    match following (c :: rest) with
    | some a => some ([], a)
    | none =>
      if test c then (shortestRun test following rest).map fun found => (c :: found.1, found.2)
      else none

namespace Pattern

/-- The pattern stands for the whole key. -/
def accepts : Pattern → List Char → Bool
  | [], key => key.isEmpty
  | .exact c :: rest, key =>
    match key with
    | d :: key => c == d && accepts rest key
    | [] => false
  | .one set :: rest, key =>
    match key with
    | d :: key => set.holds d && accepts rest key
    | [] => false
  | .run set :: rest, key => afterRun set.holds (accepts rest) key
  | .param _ :: rest, key =>
    match key with
    | d :: key => d != '/' && afterRun (· != '/') (accepts rest) key
    | [] => false

/-- Whether parameters take as many characters as they can or as few. -/
inductive Reach
  | longest
  | shortest
deriving Repr, DecidableEq

/-- The values of the parameters in the first way, from the left, in which the pattern fits the
key. -/
def bind? (reach : Reach) : Pattern → List Char → Option Bindings
  | [], key => if key.isEmpty then some [] else none
  | .exact c :: rest, key =>
    match key with
    | d :: key => if c == d then bind? reach rest key else none
    | [] => none
  | .one set :: rest, key =>
    match key with
    | d :: key => if set.holds d then bind? reach rest key else none
    | [] => none
  | .run set :: rest, key => (longestRun set.holds (bind? reach rest) key).map (·.2)
  | .param name :: rest, key =>
    match key with
    | d :: key =>
      if d != '/' then
        let found := match reach with
          | .longest => longestRun (· != '/') (bind? reach rest) key
          | .shortest => shortestRun (· != '/') (bind? reach rest) key
        found.map fun (taken, bindings) => (name, d :: taken) :: bindings
      else none
    | [] => none

/-- The names of the parameters, in order. -/
def names (pattern : Pattern) : List (List Char) :=
  pattern.filterMap fun
    | .param name => some name
    | _ => none

end Pattern

/-- No name has two values. -/
def Bindings.agree (bindings : Bindings) : Bool :=
  bindings.all fun binding =>
    match bindings.find? fun other => other.1 == binding.1 with
    | some first => first.2 == binding.2
    | none => true

/-- The first value of a name. -/
def Bindings.value? (bindings : Bindings) (name : List Char) : Option (List Char) :=
  (bindings.find? fun binding => binding.1 == name).map (·.2)

end AccessControl
