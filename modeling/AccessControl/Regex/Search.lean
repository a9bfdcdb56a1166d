import AccessControl.Regex.Loop
import AccessControl.Regex.Sweep

/-! The search for a regular expression in a text, with the order of preference among its
matches. -/

namespace AccessControl.Regex

/-- The text between two positions occurs again at a third. -/
def repeatsAt (text : Array Char) (casing : Casing) (start length position : Nat) : Bool :=
  (List.range length).all fun i =>
    match text[start + i]?, text[position + i]? with
    | some a, some b => casing.same a b
    | _, _ => false

/-- The expression holds nothing that could match or fail. -/
def Node.isSilent : Node → Bool
  | .empty => true
  | .seq a b => a.isSilent && b.isSilent
  | _ => false

/-- The one code point that a match starts with, given the one that what follows starts with. -/
def Node.lead? : Node → Option Nat → Option Nat
  | .empty, next => next
  | .one test, _ => test.literal?
  | .seq a b, next => a.lead? (if a.isSilent then b.lead? next else none)
  | _, _ => none

/-- The test that decides quickly whether a branch can match. -/
def Node.quickTest? : Node → Option CharTest
  | .one test => if test.literal?.isSome || test.isPlainSet then some test else none
  | .seq a b => if a.isSilent then b.quickTest? else a.quickTest?
  | _ => none

/-- The test of an expression that is nothing but a test on one character. -/
def Node.single? : Node → Option CharTest
  | .one test => some test
  | .seq a .empty => a.single?
  | _ => none

/-- Matches the expression from a position and then goes on. Besides what goes on it is told whether
it stands in a loop, and the code point that comes next if that is certain. -/
def Node.attempt (text : Array Char) : Node → Bool → Option Nat → Attempt → Attempt
  | .empty, _, _, after, position, trail => after position trail
  | .never, _, _, _, _, trail => (false, trail)
  | .one test, _, _, after, position, trail =>
    if test.holdsAt text position then after (position + 1) trail else (false, trail)
  | .place kind ascii, _, _, after, position, trail =>
    if kind.holds text ascii position then after position trail else (false, trail)
  | .seq a b, inLoop, next, after, position, trail =>
    a.attempt text inLoop (b.lead? next) (fun p t => b.attempt text inLoop next after p t) position
      trail
  | .branch first rest, inLoop, next, after, position, trail =>
    if first.quickTest?.all (CharTest.holdsAt text position) then
      let (found, left) := first.attempt text inLoop none after position (trail.moveTo position)
      if found then (true, left)
      else rest.attempt text inLoop next after position (left.backTo trail.bounds inLoop)
    else rest.attempt text inLoop next after position trail
  | .loop least most greed body, inLoop, next, after, position, trail =>
    -- A failed round may leave a position that lies behind, so the text can be gone over again.
    let fuel := least + (text.size + 2) * (text.size + 2)
    match body.single?, greed with
    | some test, _ => runs text test least most greed inLoop next after position trail
    | none, .greedy =>
      greedyRounds (fun k p t => body.attempt text true none k p t) least most after fuel 0 none
        position trail
    | none, .lazy =>
      lazyRounds (fun k p t => body.attempt text true none k p t) least most inLoop
        after fuel 0 none
        position trail
    | none, .possessive =>
      possessiveRounds (fun k p t => body.attempt text inLoop none k p t) fuel least most after
        position trail
  | .group index body, inLoop, _, after, position, trail =>
    body.attempt text inLoop none (fun p t => after p (t.setBound (2 * index - 1) p)) position
      (trail.setBound (2 * index - 2) position)
  | .atomic body, inLoop, _, after, position, trail =>
    let (found, left) := body.attempt text inLoop none finish position (trail.moveTo position)
    if found then after left.latest left else (false, left.moveTo position)
  | .look behind negated body, inLoop, _, after, position, trail =>
    let back := behind.getD 0
    if position < back then
      if negated then after position trail else (false, trail)
    else
      let start := position - back
      let (found, left) := body.attempt text inLoop none finish start (trail.moveTo start)
      if negated then
        if found then (false, left) else after position (left.backTo trail.bounds inLoop)
      else if found then after position left
      else (false, left)
  | .reference index casing _, _, _, after, position, trail =>
    match trail.span? index with
    | some (start, stop) =>
      let length := stop - start
      if repeatsAt text casing start length position then after (position + length) trail
      else (false, trail)
    | none => (false, trail)
  | .choice index present absent, inLoop, next, after, position, trail =>
    if (trail.span? index).isSome then
      -- The other case stands in between, unless there is none.
      let next := match absent with
        | .empty => next
        | _ => none
      present.attempt text inLoop next after position trail
    else absent.attempt text inLoop next after position trail

/-- The test that the first character of a match must pass before a match is tried there. It is read
with the classes of the whole expression, also where a group has others. -/
def Node.opening? (ascii : Bool) : Node → Option CharTest
  | .one (.set negated members casing) =>
    if members.any fun member => member.hasCase casing then none
    else some (.set negated members ⟨false, ascii⟩)
  | .seq a _ => a.opening? ascii
  | .group _ body => body.opening? ascii
  | _ => none

/-- How a search ends. -/
inductive Finding
  | found
  | missing
  -- A match was found in which a group ends before it starts.
  | crossed
deriving Repr, DecidableEq

/-- The first match from the given positions on. -/
def Node.findFrom (node : Node) (text : Array Char) : List Nat → Finding
  | [] => .missing
  | start :: rest =>
    let (found, left) := node.attempt text false none finish start (Trail.start start)
    if found then if left.isCrossed then .crossed else .found
    else node.findFrom text rest

/-- A match may start at the position: enough characters follow, and the first one is not
excluded. -/
def Node.mayStart (node : Node) (ascii : Bool) (text : Array Char) (position : Nat) : Bool :=
  (position ≤ text.size - (node.width.least - 1)) &&
    (node.opening? ascii).all (CharTest.holdsAt text position)

/-- Searches the text for the expression. -/
def Node.search (node : Node) (ascii : Bool) (text : Array Char) : Finding :=
  if text.size < node.width.least then .missing
  else if node.isPlain then
    let starts := positionsWhere (text.size + 1) fun position => node.mayStart ascii text position
    if node.matchesFrom text starts then .found else .missing
  else
    node.findFrom text
      ((List.range (text.size + 1)).filter fun position => node.mayStart ascii text position)

end AccessControl.Regex
