import AccessControl.Enforcer.Basic

/-! Management of the rules of an enforcer, where links of roles follow the grouping rules. -/

namespace AccessControl

/-- The rule in the arguments of an operation, which are its fields or one list of them. -/
def ruleOfArguments : List Value → Value
  | [.list items] => .list items
  | arguments => .list arguments

namespace Enforcer

/-- A change to the rules of a policy type, and whether it took place. -/
def changePolicy (enforcer : Enforcer) (ptype : String) (change : Change) :
    Logged (Enforcer × Bool) :=
  if enforcer.model.isPolicyType ptype then do
    match ← Logged.ofExcept (enforcer.changedStore ptype change) with
    | none => return (enforcer, false)
    | some store => return ({ enforcer with store := store }, true)
  else .fail (.policy (.undeclaredPolicy ptype) ptype)

/-- A change to the rules of a grouping type, and whether it took place. -/
def changeGrouping (enforcer : Enforcer) (gtype : String) (change : Change) :
    Logged (Enforcer × Bool) :=
  if enforcer.model.isGroupingType gtype then do
    match ← Logged.ofExcept (enforcer.changedStore gtype change) with
    | none => return (enforcer, false)
    | some store =>
      let changed := { enforcer with store := store }
      if enforcer.config.buildsLinks then return (← changed.relink gtype, true)
      else return (changed, true)
  else .fail (.policy (.undeclaredGrouping gtype) gtype)

/-- The enforcer without rules; the links go with them if the configuration asks for that. -/
def clearRules (enforcer : Enforcer) : Enforcer :=
  { enforcer with
    store := Store.empty
    roster :=
      if enforcer.config.buildsLinks then enforcer.roster.modifyAll fun _ manager => manager.clear
      else enforcer.roster }

/-- The position of a field in the rules of a type, or another one if the type does not declare
it. -/
def position (enforcer : Enforcer) (ptype name : String) (otherwise : Nat) : Nat :=
  (enforcer.model.fieldIndex? ptype name).getD otherwise

/-- The different subjects of the rules of a type. -/
def subjects (enforcer : Enforcer) (ptype : String) : Except Error (List String) :=
  enforcer.store.fieldValues ptype (enforcer.position ptype "sub" 0)

/-- The different objects of the rules of a type. -/
def objects (enforcer : Enforcer) (ptype : String) : Except Error (List String) :=
  enforcer.store.fieldValues ptype (enforcer.position ptype "obj" 1)

/-- The different actions of the rules of a type. -/
def actions (enforcer : Enforcer) (ptype : String) : Except Error (List String) :=
  enforcer.store.fieldValues ptype (enforcer.position ptype "act" 2)

/-- The different groups of the rules of a type. -/
def groups (enforcer : Enforcer) (gtype : String) : Except Error (List String) :=
  enforcer.store.fieldValues gtype 1

/-- The named domains that have links in the manager of `g`. -/
def linkedDomains (enforcer : Enforcer) : List String :=
  match enforcer.roster.find? "g" with
  | some manager => manager.allDomains.filter (· != "")
  | none => []

end Enforcer

end AccessControl
