import AccessControl.Proofs.Rule.Run

/-! A store with an index of the rules of each type beside them. Whatever it is asked to write, the
index has exactly the rules of the type, so that the store comes to the same as one without an
index. -/

namespace AccessControl

/-- Rules by type in their order, and beside them for each type the set of its rules. -/
structure IndexedStore where
  tables : List (String × List Rule)
  index : List (String × Finset Rule)

/-- A write that goes on step by step. An error takes back nothing. -/
abbrev IndexedWrite := EStateM Error IndexedStore

namespace IndexedStore

/-- The store without rules. -/
def empty : IndexedStore := ⟨[], []⟩

/-- The rules of a type, in their order. -/
def rules (store : IndexedStore) (ptype : String) : List Rule :=
  (lookupKey ptype store.tables).getD []

/-- The rules of a type, by the index. -/
def members (store : IndexedStore) (ptype : String) : Finset Rule :=
  (lookupKey ptype store.index).getD ∅

/-- The rule that a value gives is stored, by the index. -/
def has [Runtime] (store : IndexedStore) (ptype : String) (given : Value) : Except Error Bool := do
  return decide ((← Rule.ofValue ptype given) ∈ store.members ptype)

/-- The rules of a type give way to others, and then its index does. -/
def publish (ptype : String) (rules : List Rule) : IndexedWrite Unit := do
  modify fun store => { store with tables := insertKey ptype rules store.tables }
  modify fun store => { store with index := insertKey ptype rules.toFinset store.index }

/-- A rule is appended, unless the index has it. -/
def add [Runtime] (ptype : String) (given : Value) : IndexedWrite Bool := do
  let rule ← ofExcept (Rule.ofValue ptype given)
  let store ← get
  if rule ∈ store.members ptype then return false
  else
    publish ptype (store.rules ptype ++ [rule])
    return true

/-- Rules are appended, unless there are none or the index has one of them. -/
def addMany [Runtime] (ptype : String) (given : Value) : IndexedWrite Bool := do
  let rules := Text.distinct (← ofExcept (Rule.listOfValue ptype given))
  let store ← get
  if rules = [] ∨ ∃ rule ∈ rules, rule ∈ store.members ptype then return false
  else
    publish ptype (store.rules ptype ++ rules)
    return true

/-- A rule is removed, if the index has it. -/
def remove [Runtime] (ptype : String) (given : Value) : IndexedWrite Bool := do
  let rule ← ofExcept (Rule.ofValue ptype given)
  let store ← get
  if rule ∈ store.members ptype then
    publish ptype ((store.rules ptype).filter (· != rule))
    return true
  else return false

/-- Rules are removed, unless there are none or the index lacks one of them. -/
def removeMany [Runtime] (ptype : String) (given : Value) : IndexedWrite Bool := do
  let targets := (← ofExcept (Rule.listOfValue ptype given)).toFinset
  let store ← get
  if targets = ∅ ∨ ¬ targets ⊆ store.members ptype then return false
  else
    publish ptype ((store.rules ptype).filter (· ∉ targets))
    return true

/-- The rules that pass a filter are removed; no filter passes none. -/
def removeFiltered (ptype : String) (position : Int) (wanted : List Value) :
    IndexedWrite (List Rule) := do
  if wanted = [] then return []
  else
    let store ← get
    let removed ← ofExcept
      (Store.select (fun rule => rule.matchesFilter position wanted) (store.rules ptype))
    if removed ≠ [] then publish ptype ((store.rules ptype).filter (· ∉ removed.toFinset))
    return removed

/-- Rules take the place of others, if the index has all of these and none of the new ones, which
are all different. -/
def updateMany [Runtime] (ptype : String) (old new : Value) : IndexedWrite Bool := do
  let oldCount ← ofExcept old.length
  let newCount ← ofExcept new.length
  if oldCount ≠ newCount then throw (.policy (.counts oldCount newCount) ptype)
  else
    let olds ← ofExcept (Rule.listOfValue ptype old)
    let news ← ofExcept (Rule.listOfValue ptype new)
    let store ← get
    if ∃ rule ∈ olds, rule ∉ store.members ptype then return false
    else if (∃ rule ∈ news, rule ∈ store.members ptype) ∨ news.toFinset.card ≠ news.length then
      return false
    else
      publish ptype ((store.rules ptype).map (Store.replacement (olds.zip news)))
      return true

/-- A change to the rules of a type, and whether it took place. -/
def change [Runtime] (ptype : String) : Change → IndexedWrite Bool
  | .add rule => add ptype rule
  | .addMany rules => addMany ptype rules
  | .remove rule => remove ptype rule
  | .removeMany rules => removeMany ptype rules
  | .removeFiltered position wanted => do
    return !(← removeFiltered ptype position wanted).isEmpty
  | .update old new => updateMany ptype (.list [old]) (.list [new])
  | .updateMany olds news => updateMany ptype olds news

/-- Rules are published for one type after the other. -/
def publishEach : List (String × List Rule) → IndexedWrite Unit
  | [] => return
  | (ptype, rules) :: rest => do
    publish ptype rules
    publishEach rest

/-- What a call does, step by step. -/
def write [Runtime] : StoreCall → IndexedWrite Unit
  | .change ptype change => do
    let _ ← IndexedStore.change ptype change
  | .load given => do publishEach (← ofExcept (Store.prepare given))
  | .replace given => do
    let tables ← ofExcept (Store.prepare given)
    set (⟨tables, tables.map fun table => (table.1, table.2.toFinset)⟩ : IndexedStore)
  | .clear => set empty

/-- The store that a call leaves, whether it succeeds or fails. -/
def after [Runtime] (store : IndexedStore) (call : StoreCall) : IndexedStore :=
  match (write call).run store with
  | .ok _ left => left
  | .error _ left => left

/-- The store that calls in a row leave. -/
def run [Runtime] (store : IndexedStore) (calls : List StoreCall) : IndexedStore :=
  calls.foldl after store

end IndexedStore

/-! ### The index is that of the rules -/

namespace Store

/-- The store with the index of its rules. -/
def indexed (store : Store) : IndexedStore :=
  ⟨store.tables, store.tables.map fun table => (table.1, table.2.toFinset)⟩

/-- What a change in one go comes to: the store that it makes, or else the one before it. -/
def settled (store : Store) : Except Error (Option Store) → EStateM.Result Error IndexedStore Bool
  | .ok (some next) => .ok true next.indexed
  | .ok none => .ok false store.indexed
  | .error error => .error error store.indexed

end Store

namespace IndexedStore

section

variable {runtime : Runtime} {ptype : String}

/-- The index of a type has the rules of the type. -/
@[simp] theorem members_indexed (store : Store) (ptype : String) :
    store.indexed.members ptype = (store.rules ptype).toFinset := by
  simp only [members, Store.indexed, lookupKey_mapValues, Store.rules]
  -- Under a type without a table both are empty.
  cases lookupKey ptype store.tables <;> rfl

/-- With an index or without one a type has the same rules. -/
@[simp] theorem rules_indexed (store : Store) (ptype : String) :
    store.indexed.rules ptype = store.rules ptype := rfl

/-- With an index or without one a store has the same rules. -/
theorem has_indexed (store : Store) (ptype : String) (given : Value) :
    store.indexed.has ptype given = store.has ptype given := by
  simp only [has, Store.has, members_indexed]
  cases Rule.ofValue ptype given with
  | error error => rfl
  | ok rule =>
    -- A rule that is in the index is one of the rules, and no other is.
    by_cases stored : rule ∈ store.rules ptype <;> simp [stored]

/-- Rules that are published are in the index. -/
theorem publish_run (store : Store) (ptype : String) (rules : List Rule) :
    (publish ptype rules).run store.indexed = .ok () (store.publish ptype rules).indexed := by
  -- The index of the table is made of the same rules.
  simp only [publish, EStateM.run_bind, EStateM.run_modify, Store.indexed, Store.publish,
    insertKey_mapValues List.toFinset]

/-- A rule is appended in one go. -/
theorem add_run (store : Store) (ptype : String) (given : Value) :
    (add ptype given).run store.indexed = store.settled (store.add ptype given) := by
  simp only [add, Store.add, EStateM.run_bind, run_ofExcept, EStateM.run_get]
  cases Rule.ofValue ptype given with
  | error error => rfl
  | ok rule =>
    simp only [ok_bind, members_indexed, rules_indexed, List.mem_toFinset, List.contains_iff_mem]
    split
    · -- The rule is there, so nothing happens.
      rfl
    · -- The rule is appended to both.
      simp only [EStateM.run_bind, publish_run]
      rfl

/-- Rules are appended in one go. -/
theorem addMany_run (store : Store) (ptype : String) (given : Value) :
    (addMany ptype given).run store.indexed = store.settled (store.addMany ptype given) := by
  simp only [addMany, Store.addMany, EStateM.run_bind, run_ofExcept, EStateM.run_get]
  cases Rule.listOfValue ptype given with
  | error error => rfl
  | ok rules =>
    simp only [ok_bind, members_indexed, rules_indexed, List.mem_toFinset, Bool.or_eq_true,
      List.isEmpty_iff, List.any_eq_true, List.contains_iff_mem]
    split
    · -- One of the rules is there, or none is given.
      rfl
    · -- All of them are appended to both.
      simp only [EStateM.run_bind, publish_run]
      rfl

/-- A rule is removed in one go. -/
theorem remove_run (store : Store) (ptype : String) (given : Value) :
    (remove ptype given).run store.indexed = store.settled (store.remove ptype given) := by
  simp only [remove, Store.remove, EStateM.run_bind, run_ofExcept, EStateM.run_get]
  cases Rule.ofValue ptype given with
  | error error => rfl
  | ok rule =>
    simp only [ok_bind, members_indexed, rules_indexed, List.mem_toFinset, List.contains_iff_mem]
    split
    · -- The rule is in the index, and is removed from both.
      simp only [EStateM.run_bind, publish_run]
      rfl
    · rfl

/-- Of the rules of a type those stay that are none of the targets. -/
theorem filter_toFinset (rules targets : List Rule) :
    rules.filter (· ∉ targets.toFinset) = rules.filter fun rule => !targets.contains rule :=
  List.filter_congr fun rule _ => by simp

/-- Rules are removed in one go. -/
theorem removeMany_run (store : Store) (ptype : String) (given : Value) :
    (removeMany ptype given).run store.indexed = store.settled (store.removeMany ptype given) := by
  simp only [removeMany, Store.removeMany, EStateM.run_bind, run_ofExcept, EStateM.run_get]
  cases Rule.listOfValue ptype given with
  | error error => rfl
  | ok rules =>
    -- To be no part of a set is to have a member that is not in the list.
    have refuses : (rules.toFinset = ∅ ∨ ¬ rules.toFinset ⊆ (store.rules ptype).toFinset) ↔
        (rules.isEmpty || !rules.all (store.rules ptype).contains) = true := by
      simp [Finset.subset_iff]
    simp only [ok_bind, members_indexed, rules_indexed, refuses, filter_toFinset]
    split
    · -- One of the rules is missing, so none goes.
      rfl
    · simp only [EStateM.run_bind, publish_run]
      rfl

/-- Rules that pass a filter are removed in one go. -/
theorem removeFiltered_run (store : Store) (ptype : String) (position : Int) (wanted : List Value) :
    (removeFiltered ptype position wanted).run store.indexed =
      match store.removeFiltered ptype position wanted with
      | .ok (next, removed) => .ok removed next.indexed
      | .error error => .error error store.indexed := by
  simp only [removeFiltered, Store.removeFiltered, List.isEmpty_iff]
  -- Without wanted values nothing passes.
  by_cases open_ : wanted = []
  · simp only [open_, if_true]
    rfl
  · simp only [open_, if_false, EStateM.run_bind, EStateM.run_get, run_ofExcept, rules_indexed,
      Store.filter]
    cases Store.select (fun rule => rule.matchesFilter position wanted) (store.rules ptype) with
    -- A field of some rule is not there.
    | error error => rfl
    | ok removed =>
      simp only [ok_bind, filter_toFinset]
      -- Without a rule that passes nothing is published.
      by_cases none : removed = []
      · simp only [none, ne_eq, not_true_eq_false, if_false, if_true]
        rfl
      · simp only [none, ne_eq, not_false_eq_true, if_true, if_false, EStateM.run_bind, publish_run]
        rfl

/-- Rules take the place of others in one go. -/
theorem updateMany_run (store : Store) (ptype : String) (old new : Value) :
    (updateMany ptype old new).run store.indexed =
      store.settled (store.updateMany ptype old new) := by
  simp only [updateMany, Store.updateMany, EStateM.run_bind, run_ofExcept]
  cases old.length with
  -- What has no length is no batch.
  | error error => rfl
  | ok oldCount =>
    cases new.length with
    | error error => rfl
    | ok newCount =>
      simp only [ok_bind, bne_iff_ne]
      split
      · -- The batches are of different lengths.
        rfl
      simp only [EStateM.run_bind, run_ofExcept, EStateM.run_get]
      cases Rule.listOfValue ptype old with
      | error error => rfl
      | ok olds =>
        cases Rule.listOfValue ptype new with
        | error error => rfl
        | ok news =>
          -- The index tells of the old rules what the list tells.
          have absent : (∃ rule ∈ olds, rule ∉ (store.rules ptype).toFinset) ↔
              (!olds.all (store.rules ptype).contains) = true := by simp
          -- A set as large as the list has no repetition in it.
          have refuses : ((∃ rule ∈ news, rule ∈ (store.rules ptype).toFinset) ∨
                news.toFinset.card ≠ news.length) ↔
              (news.any (store.rules ptype).contains ||
                (Text.distinct news).length != news.length) = true := by
            simp [Text.length_distinct]
          simp only [ok_bind, members_indexed, rules_indexed, absent, refuses]
          split
          · -- One of the old rules is missing.
            rfl
          · split
            · -- One of the new rules is there, or is given twice.
              rfl
            · -- The new rules take the places of the old ones.
              simp only [EStateM.run_bind, publish_run]
              rfl

/-- A change to the rules of a type happens in one go. -/
theorem change_run (store : Store) (ptype : String) (change : Change) :
    (IndexedStore.change ptype change).run store.indexed =
      store.settled (store.apply ptype change) := by
  cases change with
  -- Each kind of change is one of the operations above.
  | add rule => exact add_run store ptype rule
  | addMany rules => exact addMany_run store ptype rules
  | remove rule => exact remove_run store ptype rule
  | removeMany rules => exact removeMany_run store ptype rules
  | removeFiltered position wanted =>
    simp only [IndexedStore.change, Store.apply, EStateM.run_bind, removeFiltered_run]
    cases filtered : store.removeFiltered ptype position wanted with
    | error error => rfl
    | ok result =>
      obtain ⟨next, removed⟩ := result
      -- Without a rule that passes the store is the one before.
      rcases Store.removeFiltered_cases filtered with ⟨rfl, rfl⟩ | ⟨nonempty, _⟩
      · rfl
      · simp only [ok_bind, List.isEmpty_iff, nonempty]
        -- A rule that passes is a change.
        cases removed with
        | nil => exact absurd rfl nonempty
        | cons rule rest => rfl
  | update old new => exact updateMany_run store ptype (.list [old]) (.list [new])
  | updateMany olds news => exact updateMany_run store ptype olds news

/-- Rules that are published for one type after the other are in the index. -/
theorem publishEach_run (tables : List (String × List Rule)) (store : Store) :
    (publishEach tables).run store.indexed =
      .ok () (tables.foldl (fun store table => store.publish table.1 table.2) store).indexed := by
  -- The induction is on the tables, for any store with its index.
  induction tables generalizing store with
  | nil => rfl
  | cons table rest ih =>
    simp only [publishEach, EStateM.run_bind, publish_run, ih, List.foldl_cons]

/-- Whatever a call does, the store that it leaves has the index of its rules. -/
theorem after_indexed (store : Store) (call : StoreCall) :
    store.indexed.after call = (store.after call).indexed := by
  cases call with
  | change ptype change =>
    simp only [after, write, Store.after, EStateM.run_bind, change_run]
    cases store.apply ptype change with
    -- A change that fails leaves the store with its index.
    | error error => rfl
    | ok stored => cases stored <;> rfl
  | load given =>
    simp only [after, write, Store.after, Store.load, EStateM.run_bind, run_ofExcept]
    cases Store.prepare given with
    -- The tables are prepared before the first of them is published.
    | error error => rfl
    | ok tables =>
      simp only [publishEach_run]
      rfl
  | replace given =>
    simp only [after, write, Store.after, Store.replace, EStateM.run_bind, run_ofExcept]
    cases Store.prepare given <;> rfl
  | clear => rfl

/-- After calls in a row the store has the index of its rules. -/
theorem run_indexed (store : Store) (calls : List StoreCall) :
    store.indexed.run calls = (store.run calls).indexed := by
  induction calls generalizing store with
  -- The index is right before every call, so the next one finds it right.
  | nil => rfl
  | cons call rest ih =>
    simp only [run, Store.run, List.foldl_cons, after_indexed] at ih ⊢
    exact ih _

/-- After calls in a row, whether they succeed or fail, the tables are those of the store without an
index. Each type has each of its rules once and in its index, and has no others there; all rules are
normal; a value is found exactly if the rule that it gives is stored; and a further call leaves the
rules that stay in their order, unless it brings rules of its own. -/
theorem run_consistent [Runtime] (calls : List StoreCall) :
    (empty.run calls).tables = (Store.empty.run calls).tables ∧
      ∀ ptype,
        ((empty.run calls).rules ptype).Nodup ∧
        (∀ rule, rule ∈ (empty.run calls).members ptype ↔ rule ∈ (empty.run calls).rules ptype) ∧
        (∀ rule ∈ (empty.run calls).rules ptype, rule.IsNormal) ∧
        (∀ given, (empty.run calls).has ptype given = .ok true ↔
          ∃ rule, Rule.ofValue ptype given = .ok rule ∧ rule ∈ (empty.run calls).rules ptype) ∧
        ∀ call : StoreCall, call.bringsRules = false →
          ((empty.run calls).rules ptype).filter
              (· ∈ ((empty.run calls).after call).rules ptype) =
            (((empty.run calls).after call).rules ptype).filter
              (· ∈ (empty.run calls).rules ptype) := by
  -- All that is said of the index is said of the store without it.
  have reached : empty.run calls = (Store.empty.run calls).indexed := run_indexed .empty calls
  have sound : (Store.empty.run calls).IsSound := Store.isSound_empty.run calls
  rw [reached]
  refine ⟨rfl, fun ptype => ⟨sound.distinct ptype, fun rule => by simp, sound.normal ptype,
    fun given => ?_, fun call changes => ?_⟩⟩
  · -- A value is found by the rule that it gives.
    rw [has_indexed, Store.has, bind_eq_ok]
    simp
  · -- The order is that of the rules without an index.
    rw [after_indexed]
    exact Store.sameOrder_after _ changes ptype

end

/-- A rule with blanks, a batch of which one is no rule, a batch that repeats its rule, and a rule
in the place of another one that is stored already. -/
def blankCalls : List StoreCall := [
  .change "p" (.add (.list [.text " alice ", .text "read"])),
  .change "p" (.addMany (.list [.list [.text "bob", .text "read"], .text "carol"])),
  .change "p"
    (.addMany (.list [.list [.text "bob", .text "read"], .list [.text "bob ", .text "read"]])),
  .change "p" (.update (.list [.text "bob", .text "read"]) (.list [.text "alice", .text "read"]))]

/-- One more rule takes the place of another one. -/
def carolCall : StoreCall :=
  .change "p" (.update (.list [.text "bob", .text "read"]) (.list [.text "carol", .text "read"]))

/-- The rule with blanks is stored without them, is found with them, and stays when the other one
goes. -/
theorem run_consistent_blankCalls :
    ["alice", "read"] ∈ (empty.run blankCalls).rules "p" ∧ Rule.IsNormal ["alice", "read"] ∧
      (empty.run blankCalls).has "p" (.list [.text "alice\t", .text "read"]) = .ok true ∧
      carolCall.bringsRules = false ∧
      ((empty.run blankCalls).rules "p").filter
          (· ∈ ((empty.run blankCalls).after carolCall).rules "p") = [["alice", "read"]] ∧
      (((empty.run blankCalls).after carolCall).rules "p").filter
          (· ∈ (empty.run blankCalls).rules "p") = [["alice", "read"]] := by
  obtain ⟨_, consistent⟩ := run_consistent blankCalls
  obtain ⟨_, _, normal, found, order⟩ := consistent "p"
  have stored : (empty.run blankCalls).rules "p" = [["alice", "read"], ["bob", "read"]] := by
    decide +kernel
  have left : ((empty.run blankCalls).after carolCall).rules "p" =
      [["alice", "read"], ["carol", "read"]] := by decide +kernel
  have first : ["alice", "read"] ∈ (empty.run blankCalls).rules "p" := by simp [stored]
  have before : ((empty.run blankCalls).rules "p").filter
      (· ∈ ((empty.run blankCalls).after carolCall).rules "p") = [["alice", "read"]] := by
    rw [stored, left]
    decide
  exact ⟨first, normal _ first, (found _).mpr ⟨_, rfl, first⟩, rfl, before,
    (order carolCall rfl).symm.trans before⟩

end IndexedStore

end AccessControl
