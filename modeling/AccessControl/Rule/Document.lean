import AccessControl.Document.Files
import AccessControl.Value.Host

/-! Rules read from documents: for each type a list of rows, apart for policies and for
groupings. -/

namespace AccessControl

/-- The rows given for types. -/
abbrev GivenRules := List (String × Value)

/-- The rules that a document gives for policy types and for grouping types. -/
structure RuleDocument where
  policies : GivenRules
  groupings : GivenRules
deriving Repr

namespace RuleDocument

/-- The items of a row. -/
def row? : Value → Option (List Value)
  | .list items => some items
  | _ => none

/-- The items of rows. -/
def rows? : Value → Option (List (List Value))
  | .list rows => rows.mapM row?
  | _ => none

section

variable [Runtime]

/-- The rows of the types in a part of a document. -/
def readTypes (path : String) : List (Key × Value) → Except Error (List (Key × List (List Value)))
  | [] => .ok []
  | (ptype, given) :: rest =>
    match rows? given with
    | none => do
      -- The message has the text of the type, so there is none without it.
      let _ ← ptype.value.write
      throw (.policy (.rulesNotLists ptype path) none)
    | some rows => do
      let more ← readTypes path rest
      return (ptype, rows) :: more

/-- The texts of the rows of a type. -/
def writeRows (rows : List (List Value)) : Except Error Value := do
  let texts ← rows.mapM fun row => row.mapM Value.write
  return .list (texts.map fun row => .list (row.map .text))

/-- The texts of types and of their rows. -/
def writeTypes : List (Key × List (List Value)) → Except Error GivenRules
  | [] => .ok []
  | (ptype, rows) :: rest => do
    let name ← ptype.value.write
    let texts ← writeRows rows
    let more ← writeTypes rest
    return (name, texts) :: more

/-- The rows in the part of a document that stands under a name; a part that counts as false has
none. -/
def readPart (path name : String) (document : List (Key × Value)) : Except Error GivenRules :=
  let part := (lookupName name document).getD .null
  if part.isTrue then
    match part.pairs? with
    | some pairs => do
      -- All types have rows before the first one is written.
      let tables ← readTypes path pairs
      return collectKeys (← writeTypes tables)
    | none => .error (.policy (.sectionNotMapping name path) none)
  else .ok []

/-- The rules in a file. -/
def ofFile [Document.Readers] (files : Document.Files) (path : String) :
    Except Error RuleDocument := do
  let path := Document.normalPath path
  let document ← files.load path (fun reason => .policy (.unreadable path reason) none)
    (.policy (.unparsable path) none)
  match document.pairs? with
  | none => throw (.policy (.notMapping path) none)
  | some pairs =>
    let policies ← readPart path "policies" pairs
    let groupings ← readPart path "grouping_policies" pairs
    return ⟨policies, groupings⟩

end

end RuleDocument

end AccessControl
