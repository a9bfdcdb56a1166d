import AccessControl.Value.Host
import AccessControl.Text.Trim

/-! Rules: rows of texts without blanks at their ends, and filters on their fields. -/

namespace AccessControl

/-- A rule as a row of fields. -/
abbrev Rule := List String

namespace Rule

section

variable [Runtime]

/-- The rule that a value gives: the trimmed texts of what it holds, which is not nothing. -/
def ofValue (ptype : Option String) (given : Value) : Except Error Rule :=
  match given with
  | .text _ => .error (.policy .ruleIsText ptype)
  | _ => do
    let items ← given.items
    if items.isEmpty then throw (.policy .emptyRule ptype)
    else return (← items.mapM Value.write).map Text.trim

/-- The rules that a value holds. -/
def listOfValue (ptype : Option String) (given : Value) : Except Error (List Rule) := do
  (← given.items).mapM (ofValue ptype)

end

/-- The field at a position, which counts from the end if it is negative. -/
def fieldAt (rule : Rule) (position : Int) : Except Error (Option String) :=
  if rule.length ≤ position then .ok none
  else
    let index := if position < 0 then position + rule.length else position
    if index < 0 then .error (.lookup (.position "tuple")) else .ok rule[index.toNat]?

/-- A filter value is the given field; values that are no texts are no field. -/
def isField (wanted : Value) (field : String) : Bool :=
  match wanted with
  | .text s => s == field
  | _ => false

/-- The fields from a position on are the wanted ones, where an empty text stands for any field. -/
def matchesFilter (rule : Rule) (position : Int) : List Value → Except Error Bool
  | [] => .ok true
  | wanted :: rest =>
    if isField wanted "" then matchesFilter rule (position + 1) rest
    else do
      match ← rule.fieldAt position with
      | some field =>
        if isField wanted field then matchesFilter rule (position + 1) rest else return false
      | none => return false

end Rule

end AccessControl
