import AccessControl.Regex.Node

/-! The search for an expression whose matches depend on positions only: a set of positions, as the
bits of a number, is moved through the expression all at once. -/

namespace AccessControl.Regex

/-- Where a match of the expression can end depends only on where it starts. -/
def Node.isPlain : Node → Bool
  | .empty | .never | .one _ | .place .. => true
  | .seq a b | .branch a b => a.isPlain && b.isPlain
  | .loop _ _ greed body => greed != .possessive && body.isPlain
  | .group _ body | .look _ _ body => body.isPlain
  | .atomic _ | .reference .. | .choice .. => false

/-- How an expression moves a set of positions of a certain text. -/
inductive Sweep
  | keep (positions : Nat)
  | step (positions : Nat)
  | seq (first second : Sweep)
  | union (first second : Sweep)
  | loop (needed allowed : Nat) (body : Sweep)
deriving Repr

/-- The set of the positions below a count for which a test holds. -/
def positionsWhere (count : Nat) (test : Nat → Bool) : Nat :=
  (List.range count).foldr (fun position set => 2 * set + (test position).toNat) 0

/-- The positions reached by a number of moves one after the other. -/
def moveTimes (move : Nat → Nat) : Nat → Nat → Nat
  | 0, set => set
  | count + 1, set => moveTimes move count (move set)

/-- The positions reached by at most a number of moves, where only those that are new move on. -/
def gather (move : Nat → Nat) : Nat → Nat → Nat → Nat
  | 0, reached, _ => reached
  | count + 1, reached, latest =>
    let next := move latest
    let fresh := next ^^^ (next &&& reached)
    if fresh == 0 then reached else gather move count (reached ||| fresh) fresh

/-- The positions at which a match can end that starts at one of the given positions. -/
def Sweep.ends : Sweep → Nat → Nat
  | .keep positions, set => set &&& positions
  | .step positions, set => (set &&& positions) <<< 1
  | .seq a b, set => b.ends (a.ends set)
  | .union a b, set => a.ends set ||| b.ends set
  | .loop needed allowed body, set =>
    let set := moveTimes (fun moved => body.ends moved) needed set
    gather (fun moved => body.ends moved) allowed set set

/-- How the expression moves positions of the text. A text with `n` characters has `n + 1`
positions, so rounds beyond that many reach nothing new. -/
def Node.sweep (text : Array Char) : Node → Sweep
  | .empty => .keep (positionsWhere (text.size + 1) fun _ => true)
  | .one test => .step (positionsWhere text.size fun position => test.holdsAt text position)
  | .place kind ascii =>
    .keep (positionsWhere (text.size + 1) fun position => kind.holds text ascii position)
  | .seq a b => .seq (a.sweep text) (b.sweep text)
  | .branch a b => .union (a.sweep text) (b.sweep text)
  | .loop least most _ body =>
    let rounds := text.size + 1
    .loop (min least rounds) (min ((most.map (· - least)).getD rounds) rounds) (body.sweep text)
  | .group _ body => body.sweep text
  | .look behind negated body =>
    let inner := body.sweep text
    let back := behind.getD 0
    .keep (positionsWhere (text.size + 1) fun position =>
      (back ≤ position && inner.ends (1 <<< (position - back)) != 0) != negated)
  | .never | .atomic _ | .reference .. | .choice .. => .keep 0

/-- Some match of the expression starts at one of the given positions. -/
def Node.matchesFrom (text : Array Char) (node : Node) (starts : Nat) : Bool :=
  (node.sweep text).ends starts != 0

end AccessControl.Regex
