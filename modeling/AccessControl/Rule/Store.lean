import AccessControl.Rule.Basic
import AccessControl.Text.Order

/-! The store of rules by type: each rule once, in the order of its arrival; and changes to it, as
data. -/

namespace AccessControl

/-- Rules by their type. -/
structure Store where
  tables : List (String × List Rule)
deriving Repr, DecidableEq

namespace Store

/-- The store without rules. -/
def empty : Store := ⟨[]⟩

/-- The rules of a type. -/
def rules (store : Store) (ptype : String) : List Rule :=
  (lookupKey ptype store.tables).getD []

/-- The store with other rules of a type. -/
def publish (store : Store) (ptype : String) (rules : List Rule) : Store :=
  ⟨insertKey ptype rules store.tables⟩

/-- The rule that a value gives is stored. -/
def has [Runtime] (store : Store) (ptype : String) (given : Value) : Except Error Bool := do
  return (store.rules ptype).contains (← Rule.ofValue ptype given)

/-- The rules for which the test holds, in order. -/
def select (test : Rule → Except Error Bool) : List Rule → Except Error (List Rule)
  | [] => .ok []
  | rule :: rest => do
    let isSelected ← test rule
    let more ← select test rest
    return if isSelected then rule :: more else more

/-- The rules of a type that pass a filter. -/
def filter (store : Store) (ptype : String) (position : Int) (wanted : List Value) :
    Except Error (List Rule) :=
  select (fun rule => rule.matchesFilter position wanted) (store.rules ptype)

/-- The different fields at a position of the rules of a type. -/
def fieldValues (store : Store) (ptype : String) (position : Int) : Except Error (List String) := do
  let fields ← (store.rules ptype).mapM fun rule => rule.fieldAt position
  return Text.distinct (fields.filterMap id)

/-- The types that have rules. -/
def types (store : Store) : List String :=
  (store.tables.filter fun table => !table.2.isEmpty).map (·.1)

/-- The number of the rules of a type, or of all rules. -/
def count (store : Store) (ptype : Option String) : Nat :=
  match ptype with
  | some ptype => (store.rules ptype).length
  | none => (store.tables.flatMap (·.2)).length

/-- The type has a rule. -/
def contains (store : Store) (ptype : String) : Bool :=
  !(store.rules ptype).isEmpty

/-- The store with one more rule, or nothing if it has the rule. -/
def add [Runtime] (store : Store) (ptype : String) (given : Value) :
    Except Error (Option Store) := do
  let rule ← Rule.ofValue ptype given
  let stored := store.rules ptype
  return if stored.contains rule then none else some (store.publish ptype (stored ++ [rule]))

/-- The store with more rules, or nothing if there are none or it has one of them. -/
def addMany [Runtime] (store : Store) (ptype : String) (given : Value) :
    Except Error (Option Store) := do
  let rules := Text.distinct (← Rule.listOfValue ptype given)
  let stored := store.rules ptype
  return if rules.isEmpty || rules.any stored.contains then none
    else some (store.publish ptype (stored ++ rules))

/-- The store without a rule, or nothing if it does not have the rule. -/
def remove [Runtime] (store : Store) (ptype : String) (given : Value) :
    Except Error (Option Store) := do
  let rule ← Rule.ofValue ptype given
  let stored := store.rules ptype
  return if stored.contains rule then some (store.publish ptype (stored.filter (· != rule)))
    else none

/-- The store without some rules, or nothing if there are none or it does not have one of them. -/
def removeMany [Runtime] (store : Store) (ptype : String) (given : Value) :
    Except Error (Option Store) := do
  let rules ← Rule.listOfValue ptype given
  let stored := store.rules ptype
  return if rules.isEmpty || !rules.all stored.contains then none
    else some (store.publish ptype (stored.filter fun rule => !rules.contains rule))

/-- The store without the rules that pass a filter, and those rules; no filter passes none. -/
def removeFiltered (store : Store) (ptype : String) (position : Int) (wanted : List Value) :
    Except Error (Store × List Rule) := do
  if wanted.isEmpty then return (store, [])
  else
    let removed ← store.filter ptype position wanted
    if removed.isEmpty then return (store, [])
    else
      let kept := (store.rules ptype).filter fun rule => !removed.contains rule
      return (store.publish ptype kept, removed)

/-- What takes the place of a rule: the last replacement given for it, or itself. -/
def replacement (pairs : List (Rule × Rule)) (rule : Rule) : Rule :=
  match pairs.reverse.find? fun pair => pair.1 == rule with
  | some pair => pair.2
  | none => rule

/-- The store with rules in the place of others, which it has, or nothing if it has one of the
new. -/
def updateMany [Runtime] (store : Store) (ptype : String) (old new : Value) :
    Except Error (Option Store) := do
  let oldCount ← old.length
  let newCount ← new.length
  if oldCount != newCount then throw (.policy (.counts oldCount newCount) ptype)
  let olds ← Rule.listOfValue ptype old
  let news ← Rule.listOfValue ptype new
  let stored := store.rules ptype
  return if !olds.all stored.contains then none
    else if news.any stored.contains || (Text.distinct news).length != news.length then none
    else some (store.publish ptype (stored.map (replacement (olds.zip news))))

/-- The store with a rule in the place of another one. -/
def update [Runtime] (store : Store) (ptype : String) (old new : Value) :
    Except Error (Option Store) :=
  store.updateMany ptype (.list [old]) (.list [new])

/-- The different rules that are given for each type. -/
def prepare [Runtime] : List (String × Value) → Except Error (List (String × List Rule))
  | [] => .ok []
  | (ptype, given) :: rest => do
    let rules ← Rule.listOfValue ptype given
    let more ← prepare rest
    return (ptype, Text.distinct rules) :: more

/-- The store with the given rules in the place of all others of their types. -/
def load [Runtime] (store : Store) (given : List (String × Value)) : Except Error Store := do
  let tables ← prepare given
  return tables.foldl (fun store table => store.publish table.1 table.2) store

/-- The store of the given rules alone. -/
def replace [Runtime] (given : List (String × Value)) : Except Error Store := do
  return ⟨← prepare given⟩

end Store

/-- A change to the rules of a type; the rules in it are still as they were given. -/
inductive Change
  | add (rule : Value)
  | addMany (rules : Value)
  | remove (rule : Value)
  | removeMany (rules : Value)
  | removeFiltered (position : Int) (wanted : List Value)
  | update (old new : Value)
  | updateMany (olds news : Value)
deriving Repr

/-- The store after a change, or nothing if there is nothing to change or a part of it cannot be
done. -/
def Store.apply [Runtime] (store : Store) (ptype : String) : Change → Except Error (Option Store)
  | .add rule => store.add ptype rule
  | .addMany rules => store.addMany ptype rules
  | .remove rule => store.remove ptype rule
  | .removeMany rules => store.removeMany ptype rules
  | .removeFiltered position wanted => do
    let (next, removed) ← store.removeFiltered ptype position wanted
    return if removed.isEmpty then none else some next
  | .update old new => store.update ptype old new
  | .updateMany olds news => store.updateMany ptype olds news

end AccessControl
