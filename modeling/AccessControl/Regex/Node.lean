import AccessControl.Regex.CharTest

/-! Regular expressions with groups, look-around, back references and three kinds of repetition; and
what holds at places of a text, or of the characters beside them. -/

namespace AccessControl.Regex

/-- A place between characters. -/
inductive Place
  | textStart
  | textEnd
  | lineStart
  | lineEnd
  | lastLineEnd
  | boundary
  | noBoundary
deriving Repr, DecidableEq

/-- Whether a repetition takes as much as it can, as little, or as much without giving back. -/
inductive Greed
  | greedy
  | lazy
  | possessive
deriving Repr, DecidableEq

/-- The least and the greatest number of characters that an expression matches. -/
structure Width where
  least : Nat
  most : Option Nat
deriving Repr, DecidableEq

/-- A regular expression. Sequences end with the empty one, and branches with the one that never
matches. -/
inductive Node
  | empty
  | never
  | one (test : CharTest)
  | place (kind : Place) (ascii : Bool)
  | seq (first second : Node)
  | branch (first rest : Node)
  | loop (least : Nat) (most : Option Nat) (greed : Greed) (body : Node)
  | group (index : Nat) (body : Node)
  | atomic (body : Node)
  | look (behind : Option Nat) (negated : Bool) (body : Node)
  | reference (index : Nat) (casing : Casing) (width : Width)
  | choice (index : Nat) (present absent : Node)
deriving Repr

/-- The sequence of several expressions. -/
def Node.ofList : List Node → Node
  | [] => .empty
  | node :: rest => .seq node (ofList rest)

/-- The choice between several expressions, tried from the first on. -/
def Node.ofBranches : List Node → Node
  | [] => .never
  | node :: rest => .branch node (ofBranches rest)

/-- The sum of two bounds, of which either may be missing. -/
def addBound : Option Nat → Option Nat → Option Nat
  | some a, some b => some (a + b)
  | _, _ => none

/-- The greater of two bounds, of which either may be missing. -/
def maxBound : Option Nat → Option Nat → Option Nat
  | some a, some b => some (max a b)
  | _, _ => none

/-- The product of two bounds, of which either may be missing; nothing repeated is nothing. -/
def mulBound : Option Nat → Option Nat → Option Nat
  | some a, some b => some (a * b)
  | some 0, none | none, some 0 => some 0
  | _, _ => none

/-- The width that is too large for an expression to have. -/
def widthLimit : Nat := 4294967295

/-- The least and the greatest number of characters that the expression matches. -/
def Node.width : Node → Width
  | .empty | .place .. | .look .. => ⟨0, some 0⟩
  | .never => ⟨widthLimit - 1, some 0⟩
  | .one _ => ⟨1, some 1⟩
  | .seq a b => ⟨a.width.least + b.width.least, addBound a.width.most b.width.most⟩
  | .branch a b => ⟨min a.width.least b.width.least, maxBound a.width.most b.width.most⟩
  | .loop least most _ body => ⟨body.width.least * least, mulBound body.width.most most⟩
  | .group _ body | .atomic body => body.width
  | .reference _ _ width => width
  | .choice _ a b => ⟨min a.width.least b.width.least, maxBound a.width.most b.width.most⟩

/-- The number of characters that the expression matches, if it is always the same and not too
large. -/
def Node.fixedWidth? (node : Node) : Option Nat :=
  let width := node.width
  if width.most == some width.least && width.least < widthLimit then some width.least else none

/-- The character at a position is a word character of the given range. -/
def wordAt (text : Array Char) (ascii : Bool) (position : Nat) : Bool :=
  match text[position]? with
  | some c => Category.word.holds ascii c
  | none => false

/-- The position is a place of the given kind. -/
def Place.holds (text : Array Char) (ascii : Bool) (position : Nat) (place : Place) : Bool :=
  let before := if position = 0 then none else text[position - 1]?
  match place with
  | .textStart => position == 0
  | .textEnd => position == text.size
  | .lineStart => position == 0 || before == some '\n'
  | .lineEnd => position == text.size || text[position]? == some '\n'
  | .lastLineEnd =>
    position == text.size || (position + 1 == text.size && text[position]? == some '\n')
  | .boundary | .noBoundary =>
    -- An empty text has neither kind of place.
    !text.isEmpty &&
      ((position != 0 && wordAt text ascii (position - 1)) != wordAt text ascii position) ==
        (place == .boundary)

/-- The character at a position passes the test. -/
def CharTest.holdsAt (text : Array Char) (position : Nat) (test : CharTest) : Bool :=
  match text[position]? with
  | some c => test.holds c
  | none => false

end AccessControl.Regex
