import AccessControl.Proofs.Enforcer.Links
import AccessControl.Proofs.Text.Distinct

/-! A load replaces all rules with the given ones, unless rules for one type are given in both
ways. -/

namespace AccessControl

namespace Store

variable {runtime : Runtime} {given : List (String × Value)} (ptype : String)

/-- The different rules that are given for a type are prepared for it, and for no type others. -/
theorem lookupKey_prepare {tables : List (String × List Rule)}
    (prepared : prepare given = .ok tables) : match lookupKey ptype given with
    | some value => ∃ rules, Rule.listOfValue (some ptype) value = .ok rules ∧
        lookupKey ptype tables = some (Text.distinct rules)
    | none => lookupKey ptype tables = none := by
  induction given generalizing tables with
  | nil =>
    obtain rfl := Except.ok.inj prepared
    rfl
  | cons first rest ih =>
    obtain ⟨name, value⟩ := first
    obtain ⟨rules, more, read, prepare, rfl⟩ := Store.prepare_cons_eq_ok.mp prepared
    rw [lookupKey_cons, lookupKey_cons]
    by_cases same : name = ptype
    · -- The table of the type is the first one.
      subst same
      simpa using ⟨rules, read, rfl⟩
    · -- It is one of the others, if any.
      simpa [same] using ih prepare

/-- A store of given rules alone has the different ones for each type. -/
theorem rules_replace {store : Store} (replaced : replace given = .ok store) :
    match lookupKey ptype given with
    | some value => ∃ rules, Rule.listOfValue (some ptype) value = .ok rules ∧
        store.rules ptype = Text.distinct rules
    | none => store.rules ptype = [] := by
  obtain ⟨tables, prepared, replaced⟩ := bind_eq_ok.mp replaced
  obtain rfl := Except.ok.inj replaced
  have found := lookupKey_prepare ptype prepared
  -- The tables are what was prepared, and a type without a table has no rules.
  split <;> rename_i asked <;> simp only [asked] at found
  · -- The type has a table.
    obtain ⟨rules, read, found⟩ := found
    exact ⟨rules, read, by simp [Store.rules, found]⟩
  · -- The type has none.
    simp [Store.rules, found]

end Store

namespace Enforcer

/-- The stored rules of a type are those that a value gives for it, without blanks at the ends of
their fields, in their order and each of them once. -/
def Stores (enforcer : Enforcer) (ptype : String) (given : Value) : Prop :=
  ∃ rules, @Rule.listOfValue enforcer.host.toRuntime (some ptype) given = .ok rules ∧
    enforcer.store.rules ptype = Text.distinct rules

variable {enforcer changed : Enforcer} {policies groupings : List (String × Value)}

/-- If all types are declared, each given one is. -/
theorem isDeclared_of_checkTypes {isDeclared : String → Bool} {fault : String → PolicyFault}
    {given : List (String × Value)} (checked : checkTypes isDeclared fault given = .ok ())
    {table : String × Value} (member : table ∈ given) : isDeclared table.1 = true := by
  simp only [checkTypes] at checked
  split at checked
  · -- A type is not declared.
    cases checked
  · -- All types are declared.
    rename_i all
    simpa using List.find?_eq_none.mp all table member

/-- New links leave the rules. -/
theorem followRules_store (follows : enforcer.followRules.result = .ok changed) :
    changed.store = enforcer.store := by
  simp only [followRules] at follows
  split at follows
  · -- The links are built, and the rules are left.
    obtain rfl := Except.ok.inj ((buildLinks_result enforcer).symm.trans follows)
    rfl
  · -- Nothing is done.
    obtain rfl := Except.ok.inj follows
    rfl

/-- A load that succeeds has found all types declared, and stores the rules of both kinds as those
of one. -/
theorem load_store (loads : (enforcer.load policies groupings).result = .ok changed) :
    checkTypes enforcer.model.isPolicyType .undeclaredPolicy policies = .ok () ∧
      checkTypes enforcer.model.isGroupingType .undeclaredGrouping groupings = .ok () ∧
      changed.newStore (collectKeys (policies ++ groupings)) = .ok changed.store := by
  obtain ⟨⟨⟩, policyTypes, loads⟩ := Logged.bind_ok.mp loads
  obtain ⟨⟨⟩, groupingTypes, loads⟩ := Logged.bind_ok.mp loads
  obtain ⟨store, replaced, loads⟩ := Logged.bind_ok.mp loads
  obtain ⟨followed, follows, loads⟩ := Logged.bind_ok.mp loads
  -- The record of the load in the end is no part of its result.
  obtain ⟨_, _, loads⟩ := Logged.bind_ok.mp loads
  obtain rfl : followed = changed := Except.ok.inj loads
  have stored : followed.store = store := followRules_store follows
  -- It is the host that makes texts of values, and links do not change it.
  have sameHost : followed.host = enforcer.host := congrArg (·.host) (followRules_bare follows)
  refine ⟨policyTypes, groupingTypes, ?_⟩
  rw [newStore, sameHost, stored]
  exact replaced

/-- A load that succeeds stores the rules of a type that are given as groupings, else those that are
given as policies, and else none. -/
theorem load_stores_either (policyKeys : (policies.map (·.1)).Nodup)
    (groupingKeys : (groupings.map (·.1)).Nodup)
    (loads : (enforcer.load policies groupings).result = .ok changed) (ptype : String) :
    match (lookupKey ptype groupings).or (lookupKey ptype policies) with
    | some given => changed.Stores ptype given
    | none => changed.store.rules ptype = [] := by
  obtain ⟨_, _, replaced⟩ := load_store loads
  -- Of the entries of one key the last one counts, and the groupings come last.
  rw [← lookupKey_collectKeys_append policyKeys groupingKeys]
  exact Store.rules_replace ptype replaced

/-- A load that succeeds stores the rules that are given as groupings, the rules that are given as
policies for types without groupings, and no others. So it stores all rules if no type is both a
policy type and a grouping type. -/
theorem load_stores (policyKeys : (policies.map (·.1)).Nodup)
    (groupingKeys : (groupings.map (·.1)).Nodup)
    (loads : (enforcer.load policies groupings).result = .ok changed) :
    (∀ table ∈ groupings, changed.Stores table.1 table.2) ∧
      (∀ table ∈ policies, table.1 ∉ groupings.map (·.1) → changed.Stores table.1 table.2) ∧
      (∀ ptype, ptype ∉ policies.map (·.1) → ptype ∉ groupings.map (·.1) →
        changed.store.rules ptype = []) ∧
      (enforcer.model.TypesApart → ∀ table ∈ policies, changed.Stores table.1 table.2) := by
  have stored := load_stores_either policyKeys groupingKeys loads
  have absent {entries : List (String × Value)} {ptype : String}
      (missing : ptype ∉ entries.map (·.1)) : lookupKey ptype entries = none :=
    Option.isNone_iff_eq_none.mp (lookupKey_isNone.mpr missing)
  have onlyPolicies : ∀ table ∈ policies, table.1 ∉ groupings.map (·.1) →
      changed.Stores table.1 table.2 := by
    intro table member missing
    have found := stored table.1
    rw [absent missing, (lookupKey_eq_some_iff policyKeys).mpr member] at found
    exact found
  refine ⟨fun table member => ?_, onlyPolicies, fun ptype noPolicy noGrouping => ?_,
    fun apart table member => onlyPolicies table member fun listed => ?_⟩
  · -- The rules of a grouping type are those that were given last.
    have found := stored table.1
    rw [(lookupKey_eq_some_iff groupingKeys).mpr member] at found
    exact found
  · -- A type that is given nowhere has none.
    have found := stored ptype
    rw [absent noGrouping, absent noPolicy] at found
    exact found
  · -- A type of both kinds would have been declared as both.
    obtain ⟨policyTypes, groupingTypes, _⟩ := load_store loads
    obtain ⟨grouping, given, same⟩ := List.mem_map.mp listed
    have isGrouping := isDeclared_of_checkTypes groupingTypes given
    rw [same, apart table.1 (isDeclared_of_checkTypes policyTypes member)] at isGrouping
    cases isGrouping

/-- Rules with blanks and with a repetition among the policies, and rules among the groupings. -/
def givenPolicies : List (String × Value) := [
  ("p", .list [.list [.text " alice", .text "data", .text "read"],
    .list [.text "bob", .text "data", .int 7], .list [.text "alice", .text "data ", .text "read"]])]

/-- A rule for the grouping type. -/
def givenGroupings : List (String × Value) := [("g", .list [.list [.text "alice", .text "admin"]])]

/-- A load stores each of these rules once, without its blanks. -/
theorem load_stores_trimmed :
    (givenPolicies.map (·.1)).Nodup ∧ (givenGroupings.map (·.1)).Nodup ∧
      ∃ start, (create .empty .default .classic).result = .ok start ∧
      ∃ changed, (start.load givenPolicies givenGroupings).result = .ok changed ∧
        changed.store.rules "p" = [["alice", "data", "read"], ["bob", "data", "7"]] ∧
        changed.store.rules "g" = [["alice", "admin"]] := by
  have policyKeys : (givenPolicies.map (·.1)).Nodup := by decide
  have groupingKeys : (givenGroupings.map (·.1)).Nodup := by decide
  obtain ⟨start, created⟩ := create_classic .empty .default
  have returns : ((create .empty .default .classic).result.toOption.map fun start =>
      (start.load givenPolicies givenGroupings).result.isOk) = some true := by
    rw [result_create_classic]
    decide +kernel
  rw [created] at returns
  cases loads : (start.load givenPolicies givenGroupings).result with
  | error error => simp [loads, Except.toOption, Except.isOk, Except.toBool] at returns
  | ok changed =>
    obtain ⟨byGroupings, byPolicies, _⟩ := load_stores policyKeys groupingKeys loads
    obtain ⟨_, read, stored⟩ := byPolicies ("p", _) (List.mem_singleton_self _) (by decide)
    obtain ⟨_, readToo, storedToo⟩ := byGroupings ("g", _) (List.mem_singleton_self _)
    have host : changed.host = .usual :=
      (congrArg (·.host) (load_bare loads)).trans (create_host created)
    rw [host] at read readToo
    cases read
    cases readToo
    exact ⟨policyKeys, groupingKeys, start, created, changed, loads, stored, storedToo⟩

/-- The classic model with its grouping type as a second policy type. -/
def doubledModel : Model :=
  { Model.classic with policies := [("p", classicFields), ("g", ["sub", "role"])] }

/-- With a type of both kinds a load returns, and the rule that is given for it as a policy is
lost. -/
theorem load_loses_rule :
    (create .empty .default doubledModel).result.toOption.map (fun start =>
      (start.load [("g", .list [.list [.text "alice", .text "admin"]])]
        [("g", .list [.list [.text "bob", .text "staff"]])]).result.toOption.map fun changed =>
          changed.store.rules "g") = some (some [["bob", "staff"]]) := by
  rw [@result_create _ doubledModel _ rfl readMatchers_classic]
  decide +kernel

end Enforcer

end AccessControl
