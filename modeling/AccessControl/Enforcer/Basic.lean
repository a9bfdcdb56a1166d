import AccessControl.Callable.Registry
import AccessControl.Config.Basic
import AccessControl.Decision.Inquiry
import AccessControl.Model.Basic
import AccessControl.Role.Roster
import AccessControl.Rule.Store

/-! Enforcers: a model with its rules, and a role manager for each grouping type. -/

namespace AccessControl

/-- The link that a grouping rule stands for; the last of three or more fields is its domain. -/
def Link.ofRule? : Rule → Option Link
  | member :: group :: more => some ⟨member, group, more.getLastD ""⟩
  | _ => none

/-- The links that grouping rules stand for. -/
def Link.ofRules (rules : List Rule) : List Link :=
  rules.filterMap Link.ofRule?

/-- The warnings about grouping rules that stand for no link. -/
def shortRuleRecords (gtype : String) (rules : List Rule) : List Record :=
  (rules.filter fun rule => (Link.ofRule? rule).isNone).map fun rule =>
    ⟨.warning, .enforcer, "Skipping grouping rule " ++ gtype ++ " " ++ shownRow (rule.map .text) ++
      ": needs at least two fields"⟩

/-- What matchers call: the functions, and under the names of grouping types the managers that had
these numbers when the evaluator was made. -/
structure Evaluator where
  functions : Registry
  seats : List (String × Nat)

/-- A model, its matchers and rules, the functions and the role managers by grouping type, and the
host. -/
structure Enforcer where
  config : Config
  -- Requests are decided if this counts as true; otherwise all are allowed.
  enabled : Value
  model : Model
  matchers : List (String × Matcher)
  store : Store
  functions : Registry
  roster : Roster
  evaluator : Evaluator
  -- The effects that there were warnings for, in lower case and without blanks.
  warned : List String
  [host : Host]

namespace Enforcer

/-- The function that asks a manager for a link. -/
def membership (enforcer : Enforcer) (manager : RoleManager) : Callable :=
  @Callable.membership enforcer.host.toRuntime (some manager)

/-- The function that matchers call by a name; that of a grouping type asks a manager as it is
now. -/
def function? (enforcer : Enforcer) (name : String) : Option Callable :=
  match lookupKey name enforcer.evaluator.seats with
  | some number => enforcer.roster.held[number]?.map enforcer.membership
  | none => enforcer.evaluator.functions.get? name

/-- The enforcer with an evaluator of its present functions and managers. -/
def refresh (enforcer : Enforcer) : Enforcer :=
  { enforcer with evaluator := ⟨enforcer.functions, enforcer.roster.seats⟩ }

/-- The grouping types with their managers. -/
def managers (enforcer : Enforcer) : List (String × RoleManager) :=
  enforcer.roster.entries

/-- The manager of a grouping type. -/
def manager (enforcer : Enforcer) (gtype : String) : Except Error RoleManager :=
  match enforcer.roster.find? gtype with
  | some manager => .ok manager
  | none => .error (.lookup (.key gtype))

/-- The enforcer after a change to the manager of a grouping type. -/
def modifyManager (enforcer : Enforcer) (gtype : String) (change : RoleManager → RoleManager) :
    Enforcer :=
  { enforcer with roster := enforcer.roster.modify gtype change }

/-- The manager of a grouping type with the links of its stored rules, and the records of that. -/
def relinked (enforcer : Enforcer) (gtype : String) (manager : RoleManager) :
    RoleManager × List Record :=
  let rules := enforcer.store.rules gtype
  let manager := manager.rebuilt (Link.ofRules rules)
  (manager, shortRuleRecords gtype rules ++ manager.countRecord)

/-- The enforcer with the links of the stored rules in all its managers. -/
def buildLinks (enforcer : Enforcer) : Logged Enforcer := do
  Logged.note (enforcer.managers.flatMap fun (gtype, manager) =>
    (enforcer.relinked gtype manager).2)
  return { enforcer with
    roster := enforcer.roster.modifyAll fun gtype manager => (enforcer.relinked gtype manager).1 }

/-- The enforcer with new links in all its managers, if the configuration asks for them. -/
def followRules (enforcer : Enforcer) : Logged Enforcer :=
  if enforcer.config.buildsLinks then enforcer.buildLinks else .pure enforcer

/-- The enforcer with the links of the stored rules in the manager of one grouping type. -/
def relink (enforcer : Enforcer) (gtype : String) : Logged Enforcer := do
  let manager ← Logged.ofExcept (enforcer.manager gtype)
  Logged.note (enforcer.relinked gtype manager).2
  return enforcer.modifyManager gtype fun manager => (enforcer.relinked gtype manager).1

/-- The enforcer with another manager of a grouping type, which gets the links of the stored
rules. -/
def setManager (enforcer : Enforcer) (gtype : String) (manager : RoleManager) : Logged Enforcer :=
  relink (refresh { enforcer with roster := enforcer.roster.install gtype manager }) gtype

/-- The matchers of a model, read; a fault is shown with the text as the model has it. -/
def readMatchers : List (String × String) → Except Error (List (String × Matcher))
  | [] => .ok []
  | (name, expression) :: rest =>
    match Matcher.read expression with
    | .ok matcher => do
      let more ← readMatchers rest
      return (name, matcher) :: more
    | .error (.syntaxFault fault _) => .error (.syntaxFault fault expression)
    | .error error => .error error

/-- The warnings about effects, and the effects that there were warnings for afterwards. -/
def effectRecords (warned : List String) : List String → List Record × List String
  | [] => ([], warned)
  | effect :: rest =>
    let (warning, warned) := Selector.warn warned effect
    let (records, warned) := effectRecords warned rest
    ((warning.toList.map fun text => ⟨.warning, .effect, text⟩) ++ records, warned)

/-- The enforcer with another model; the grouping types that it keeps keep their managers. -/
def setModel (enforcer : Enforcer) (model : Model) : Logged Enforcer := do
  Logged.ofExcept model.validate
  let matchers ← Logged.ofExcept (readMatchers model.matchers)
  let (records, warned) := effectRecords enforcer.warned (model.effects.map (·.2))
  Logged.note records
  let roster := enforcer.roster.reseat (model.roles.map (·.1))
    (.ofLimit enforcer.config.maxHierarchyLevel)
  followRules <| refresh { enforcer with
    model := model
    matchers := matchers
    roster := roster
    warned := warned }

/-- The first type that is not among the declared ones is refused. -/
def checkTypes (isDeclared : String → Bool) (fault : String → PolicyFault)
    (given : List (String × Value)) : Except Error Unit :=
  match given.find? fun table => !isDeclared table.1 with
  | some table => .error (.policy (fault table.1) table.1)
  | none => .ok ()

/-- The store after a change to the rules of a type, or nothing if there is nothing to change. -/
def changedStore (enforcer : Enforcer) (ptype : String) (change : Change) :
    Except Error (Option Store) :=
  @Store.apply enforcer.host.toRuntime enforcer.store ptype change

/-- The rule that a value gives is stored. -/
def holdsRule (enforcer : Enforcer) (ptype : String) (given : Value) : Except Error Bool :=
  @Store.has enforcer.host.toRuntime enforcer.store ptype given

/-- The store of the given rules alone. -/
def newStore (enforcer : Enforcer) (given : List (String × Value)) : Except Error Store :=
  @Store.replace enforcer.host.toRuntime given

/-- The enforcer with the given rules in the place of all others. -/
def load (enforcer : Enforcer) (policies groupings : List (String × Value)) : Logged Enforcer := do
  Logged.ofExcept (checkTypes enforcer.model.isPolicyType .undeclaredPolicy policies)
  Logged.ofExcept (checkTypes enforcer.model.isGroupingType .undeclaredGrouping groupings)
  let store ← Logged.ofExcept (enforcer.newStore (collectKeys (policies ++ groupings)))
  let enforcer ← followRules { enforcer with store := store }
  Logged.note [⟨.debug, .enforcer, "Loaded " ++ intText (store.count none) ++ " rules"⟩]
  return enforcer

/-- An enforcer without rules. -/
def create [Host] (functions : Registry) (config : Config) (model : Model) : Logged Enforcer :=
  setModel
    { config := config
      enabled := config.enabled
      model := model
      matchers := []
      store := Store.empty
      functions := functions
      roster := Roster.empty
      evaluator := ⟨functions, []⟩
      warned := [] }
    model

/-- The enforcer with what is given for the name of a function, which has to be a function. -/
def addFunction (enforcer : Enforcer) (name : String) (given : Option Callable) :
    Except Error Enforcer := do
  return refresh { enforcer with functions := ← enforcer.functions.register name given }

/-- The manager of a grouping type, which takes tests for names and domains. -/
def testableManager (enforcer : Enforcer) (gtype : String) : Except Error RoleManager := do
  let manager ← enforcer.manager gtype
  if manager.takesTests then return manager else throw (.policy (.noMatchingFunctions gtype) none)

/-- The enforcer with a test for the names of a grouping type. -/
def setNameTest (enforcer : Enforcer) (gtype label : String) (given : Option Callable) :
    Except Error Enforcer := do
  let manager ← (← enforcer.testableManager gtype).setNameTest label given
  return enforcer.modifyManager gtype fun _ => manager

/-- The enforcer with a test for the domains of a grouping type. -/
def setDomainTest (enforcer : Enforcer) (gtype label : String) (given : Option Callable) :
    Except Error Enforcer := do
  let manager ← (← enforcer.testableManager gtype).setDomainTest label given
  return enforcer.modifyManager gtype fun _ => manager

end Enforcer

end AccessControl
