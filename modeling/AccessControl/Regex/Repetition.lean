import AccessControl.Regex.Progress
import AccessControl.Decimal.Reading

/-! The items of a regular expression, and the repetition of the last one. -/

namespace AccessControl.Regex

/-- The least bound that is too large for a repetition. -/
def repetitionLimit : Nat := 4294967295

/-- A bound of a repetition, which an empty text leaves open. -/
def repetitionBound (digits : List Char) : Read (Option Nat) := do
  if digits.isEmpty then return none
  match Decimal.wholeOfDigits false (digits.map Text.asciiDigitValue) with
  | .value n =>
    if n.toNat < repetitionLimit then return some n.toNat else throw .repetitionTooLarge
  | .tooLong count => throw (.tooManyDigits count)
  | .malformed => refuse

/-- The bounds between braces, if what follows the opening brace has that form. -/
def bracedBounds (fuel : Nat) : Read (Option (Nat × Option Nat)) := do
  let start := (← get).rest
  let low ← takeWhile Text.isAsciiDigit fuel
  let high ← if ← accept ',' then takeWhile Text.isAsciiDigit fuel else pure low
  if ← accept '}' then
    let least := (← repetitionBound low).getD 0
    match ← repetitionBound high with
    | some most => if most < least then refuse else return some (least, some most)
    | none => return some (least, none)
  else
    modify fun progress => { progress with rest := start }
    return none

/-- What matters of an item for a repetition mark that follows it. -/
inductive ItemKind
  | place
  | loop
  | other
deriving DecidableEq

/-- An item of a sequence; a group that does nothing but hold its contents together is all of
them. -/
structure Item where
  kind : ItemKind
  nodes : List Node

/-- An item that is one expression. -/
def Item.single (node : Node) : Item :=
  match node with
  | .place .. => ⟨.place, [node]⟩
  | .loop .. => ⟨.loop, [node]⟩
  | _ => ⟨.other, [node]⟩

/-- The expressions of the items in order, given in reverse. -/
def sequenceOf (items : List Item) : List Node :=
  items.reverse.flatMap Item.nodes

/-- The greed of a repetition, by the mark that follows it. -/
def greed : Read Greed := do
  if ← accept '?' then return .lazy
  else if ← accept '+' then return .possessive
  else return .greedy

/-- The last item is repeated; a place and an item already repeated cannot be. -/
def repeatLast (options : Options) (least : Nat) (most : Option Nat) (items : List Item) :
    Read (List Item) := do
  match items with
  | [] => refuse
  | ⟨kind, nodes⟩ :: rest =>
    if kind != .other then refuse
    if options.template then doom
    return .single (.loop least most (← greed) (Node.ofList nodes)) :: rest

end AccessControl.Regex
