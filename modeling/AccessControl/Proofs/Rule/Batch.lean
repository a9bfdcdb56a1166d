import AccessControl.Proofs.Rule.Run

/-! Batches of rules against single rules: a batch is accepted as a whole or refused as a whole, and
what an accepted one leaves is what its rules leave one by one. -/

namespace AccessControl

/-- The calls that make one change for each thing that a value holds. -/
def StoreCall.each (change : Value → Change) (ptype : String) (given : Value) : List StoreCall :=
  (given.items.toOption.getD []).map fun item => .change ptype (change item)

namespace Store

section

variable {runtime : Runtime} {store : Store} {ptype : String} {given : Value} {rules : List Rule}

/-- If a change depends only on the rule that it is given, a change for each thing that a value
holds is a step for each of the rules that these give. -/
theorem run_each {change : Value → Change} {step : Store → Rule → Store}
    (steps : ∀ (store : Store) (item : Value) (rule : Rule), Rule.ofValue ptype item = .ok rule →
      store.after (.change ptype (change item)) = step store rule)
    (gives : Rule.listOfValue ptype given = .ok rules) (store : Store) :
    store.run (StoreCall.each change ptype given) = rules.foldl step store := by
  obtain ⟨items, held, made⟩ := bind_eq_ok.mp gives
  have calls : StoreCall.each change ptype given =
      items.map fun item => .change ptype (change item) := by
    simp [StoreCall.each, held, Except.toOption]
  rw [calls]
  clear gives calls held
  induction items generalizing rules store with
  | nil =>
    -- Nothing is done for no rules.
    obtain rfl : [] = rules := Except.ok.inj made
    rfl
  | cons item rest ih =>
    -- The first item gives the first rule, with which the step is made.
    obtain ⟨rule, more, first, later, rfl⟩ := mapM_cons_eq_ok.mp made
    rw [List.map_cons, Store.run, List.foldl_cons, List.foldl_cons, steps store item rule first]
    exact ih _ later

/-! ### Rules added one by one -/

/-- The store with more rules of a type at the end; without any it stays as it is. -/
def appended (store : Store) (ptype : String) (added : List Rule) : Store :=
  if added = [] then store else store.publish ptype (store.rules ptype ++ added)

/-- More rules are appended behind those of their type. -/
theorem rules_appended (added : List Rule) :
    (store.appended ptype added).rules ptype = store.rules ptype ++ added := by
  by_cases none : added = [] <;> simp [appended, none]

/-- Rules can be appended in two goes. -/
theorem appended_appended (first last : List Rule) :
    (store.appended ptype first).appended ptype last = store.appended ptype (first ++ last) := by
  by_cases none : first = [] <;> by_cases more : last = [] <;> simp [appended, none, more]

/-- Of rules in a row those that are new to a type, each at its first place. -/
def newRules (store : Store) (ptype : String) (rules : List Rule) : List Rule :=
  (Text.distinct rules).filter (· ∉ store.rules ptype)

/-- One more rule is new if it is neither stored nor among those before it. -/
theorem newRules_concat (rule : Rule) :
    store.newRules ptype (rules ++ [rule]) = store.newRules ptype rules ++
      if rule ∈ store.rules ptype ++ store.newRules ptype rules then [] else [rule] := by
  by_cases stored : rule ∈ store.rules ptype <;> by_cases repeated : rule ∈ rules <;>
    simp [newRules, Text.distinct_concat, stored, repeated]

/-- A rule that is added is appended if it is new. -/
theorem after_add {rule : Rule} (gives : Rule.ofValue ptype given = .ok rule) :
    store.after (.change ptype (.add given)) =
      store.appended ptype (if rule ∈ store.rules ptype then [] else [rule]) := by
  rw [Store.after, apply_add gives]
  by_cases stored : rule ∈ store.rules ptype <;> simp [appended, stored]

/-- Rules that are added one by one are appended as far as they are new, each at its first place. -/
theorem run_each_add (gives : Rule.listOfValue ptype given = .ok rules) :
    store.run (StoreCall.each .add ptype given) =
      store.appended ptype (store.newRules ptype rules) := by
  rw [run_each (fun _ _ _ => after_add) gives]
  clear gives
  -- The last rule is looked for among those stored and those that were new before it.
  induction rules using List.reverseRecOn with
  | nil => simp [newRules, Text.distinct, appended]
  | append_singleton earlier last ih =>
    rw [List.foldl_concat, ih, rules_appended, appended_appended, newRules_concat]

/-! ### Rules removed one by one -/

/-- The store without the rules of a type that fail a test; if none fails it stays as it is. -/
def reduced (store : Store) (ptype : String) (keeps : Rule → Bool) : Store :=
  if (store.rules ptype).all keeps then store
  else store.publish ptype ((store.rules ptype).filter keeps)

/-- Where all rules pass a test, it leaves all of them. -/
theorem filter_of_all {rules : List Rule} {keeps : Rule → Bool} (all : rules.all keeps = true) :
    rules.filter keeps = rules :=
  List.filter_eq_self.mpr (List.all_eq_true.mp all)

/-- Rules can be left out in two goes. -/
theorem reduced_reduced (first last : Rule → Bool) :
    (store.reduced ptype first).reduced ptype last =
      store.reduced ptype fun rule => last rule && first rule := by
  have both : (store.rules ptype).all (fun rule => last rule && first rule) =
      ((store.rules ptype).all first && ((store.rules ptype).filter first).all last) := by
    rw [Bool.eq_iff_iff]
    simp only [List.all_eq_true, Bool.and_eq_true, List.mem_filter]
    exact ⟨fun all => ⟨fun rule stored => (all rule stored).2, fun rule kept =>
      (all rule kept.1).1⟩,
      fun each rule stored => ⟨each.2 rule ⟨stored, each.1 rule stored⟩, each.1 rule stored⟩⟩
  -- It depends on whether a rule goes in the first step, and in the second.
  cases some : (store.rules ptype).all first with
  | true => simp [reduced, some, both, ← List.filter_filter, filter_of_all some]
  | false =>
    cases more : ((store.rules ptype).filter first).all last with
    | true => simp [reduced, some, both, more, ← List.filter_filter, filter_of_all more]
    | false => simp [reduced, some, both, more]

/-- A rule that is removed is left out. -/
theorem after_remove {rule : Rule} (gives : Rule.ofValue ptype given = .ok rule) :
    store.after (.change ptype (.remove given)) = store.reduced ptype (· != rule) := by
  rw [Store.after, apply_remove gives]
  by_cases stored : rule ∈ store.rules ptype
  · -- The rule goes.
    have some : (store.rules ptype).all (· != rule) = false := by simpa using stored
    simp [reduced, stored, some]
  · -- No rule goes.
    have all : (store.rules ptype).all (· != rule) = true := by
      simp only [List.all_eq_true, bne_iff_ne]
      exact fun other there same => stored (same ▸ there)
    simp [reduced, stored, all]

/-- Rules that are removed one by one are left out, and nothing else is. -/
theorem run_each_remove (gives : Rule.listOfValue ptype given = .ok rules) :
    store.run (StoreCall.each .remove ptype given) = store.reduced ptype (!rules.contains ·) := by
  rw [run_each (fun _ _ _ => after_remove) gives]
  clear gives
  induction rules generalizing store with
  | nil => simp [reduced]
  | cons first rest ih =>
    rw [List.foldl_cons, ih, reduced_reduced]
    congr 1
    funext rule
    by_cases same : rule = first <;> simp [same]

/-! ### Batches -/

/-- A batch is added if it has rules and none of them is stored. -/
theorem addMany_eq (gives : Rule.listOfValue ptype given = .ok rules) :
    store.addMany ptype given = .ok (if rules ≠ [] ∧ ∀ rule ∈ rules, rule ∉ store.rules ptype then
      some (store.publish ptype (store.rules ptype ++ Text.distinct rules)) else none) := by
  have refused : (Text.distinct rules).isEmpty ||
      (Text.distinct rules).any (store.rules ptype).contains ↔
      ¬ (rules ≠ [] ∧ ∀ rule ∈ rules, rule ∉ store.rules ptype) := by
    simp [List.eq_nil_iff_forall_not_mem, imp_iff_not_or]
  simp only [addMany, gives, ok_bind, pure_eq_ok, refused, ite_not]

/-- A batch is removed if it has rules and all of them are stored. -/
theorem removeMany_eq (gives : Rule.listOfValue ptype given = .ok rules) :
    store.removeMany ptype given =
      .ok (if rules ≠ [] ∧ ∀ rule ∈ rules, rule ∈ store.rules ptype then
      some (store.publish ptype ((store.rules ptype).filter (!rules.contains ·))) else none) := by
  have refused : rules.isEmpty || !rules.all (store.rules ptype).contains ↔
      ¬ (rules ≠ [] ∧ ∀ rule ∈ rules, rule ∈ store.rules ptype) := by
    simp [imp_iff_not_or]
  simp only [removeMany, gives, ok_bind, pure_eq_ok, refused, ite_not]

/-- Rules that are all new are appended one by one as they are in a batch. -/
theorem run_each_add_of_new (gives : Rule.listOfValue ptype given = .ok rules) (some : rules ≠ [])
    (fresh : ∀ rule ∈ rules, rule ∉ store.rules ptype) :
    store.run (StoreCall.each .add ptype given) =
      store.publish ptype (store.rules ptype ++ Text.distinct rules) := by
  have all : store.newRules ptype rules = Text.distinct rules :=
    List.filter_eq_self.mpr (by simpa using fresh)
  have filled : Text.distinct rules ≠ [] := by
    obtain ⟨rule, member⟩ := List.exists_mem_of_ne_nil _ some
    exact List.ne_nil_of_mem (Text.mem_distinct.mpr member)
  rw [run_each_add gives, all, appended, if_neg filled]

/-- Rules that are all stored are removed one by one as they are in a batch. -/
theorem run_each_remove_of_stored (gives : Rule.listOfValue ptype given = .ok rules)
    (some : rules ≠ []) (stored : ∀ rule ∈ rules, rule ∈ store.rules ptype) :
    store.run (StoreCall.each .remove ptype given) =
      store.publish ptype ((store.rules ptype).filter (!rules.contains ·)) := by
  -- The first rule of the batch is stored, so something is left out.
  obtain ⟨rule, member⟩ := List.exists_mem_of_ne_nil _ some
  have lessened : ¬ (store.rules ptype).all (!rules.contains ·) = true := fun all => by
    simpa [member] using List.all_eq_true.mp all rule (stored rule member)
  rw [run_each_remove gives, reduced, if_neg lessened]

/-! ### Whole stores -/

/-- The store without the types that have no rules. -/
def filled (store : Store) : Store :=
  ⟨store.tables.filter fun table => !table.2.isEmpty⟩

/-- Calls for one type after the other, each of which adds a rule. -/
def addEach (given : List (String × Value)) : List StoreCall :=
  given.flatMap fun table => StoreCall.each .add table.1 table.2

/-- Calls in a row go on from what the first of them leave. -/
theorem run_append (first last : List StoreCall) :
    store.run (first ++ last) = (store.run first).run last :=
  List.foldl_append

/-- A type that is new has no rules. -/
theorem rules_of_fresh (fresh : ptype ∉ store.tables.map (·.1)) : store.rules ptype = [] := by
  rw [← lookupKey_isSome, Bool.not_eq_true, Option.isSome_eq_false_iff,
    Option.isNone_iff_eq_none] at fresh
  rw [rules, fresh, Option.getD_none]

/-- The rules of a type that is new make one more table, unless there are none. -/
theorem appended_of_fresh (fresh : ptype ∉ store.tables.map (·.1)) (added : List Rule) :
    store.appended ptype added = ⟨store.tables ++ (filled ⟨[(ptype, added)]⟩).tables⟩ := by
  -- Without rules no table is made.
  by_cases none : added = []
  · -- With some of them the table comes last.
    simp [appended, filled, none]
  · simp [appended, filled, none, publish, rules_of_fresh fresh, insertKey_of_notMem fresh]

/-- Rules that are added to types that are new make further tables, one for each type that has
rules. -/
theorem run_addEach {given : List (String × Value)} {tables : List (String × List Rule)}
    (distinct : (given.map (·.1)).Nodup) (prepared : prepare given = .ok tables)
    (fresh : ∀ table ∈ given, table.1 ∉ store.tables.map (·.1)) :
    store.run (addEach given) = ⟨store.tables ++ (filled ⟨tables⟩).tables⟩ := by
  induction given generalizing tables store with
  | nil =>
    -- There is nothing to add, and nothing is kept of it.
    obtain rfl : [] = tables := Except.ok.inj prepared
    simp [addEach, run, filled]
  | cons first rest ih =>
    obtain ⟨ptype, batch⟩ := first
    obtain ⟨rules, more, gives, later, rfl⟩ := prepare_cons_eq_ok.mp prepared
    obtain ⟨other, distinct⟩ := List.nodup_cons.mp distinct
    -- The type is new, so of its rules just the repetitions are left out.
    have new : ptype ∉ store.tables.map (·.1) := fresh _ (List.mem_cons_self ..)
    have all : store.newRules ptype rules = Text.distinct rules := by
      simp [newRules, rules_of_fresh new]
    have step : store.run (StoreCall.each .add ptype batch) =
        ⟨store.tables ++ (filled ⟨[(ptype, Text.distinct rules)]⟩).tables⟩ := by
      rw [run_each_add gives, all, appended_of_fresh new]
    -- None of the other types is the one that has just got its rules.
    have onward : ∀ table ∈ rest,
        table.1 ∉ (store.tables ++ (filled ⟨[(ptype, Text.distinct rules)]⟩).tables).map (·.1) := by
      intro table member there
      rw [List.map_append, List.mem_append] at there
      rcases there with before | now
      · exact fresh table (List.mem_cons_of_mem _ member) before
      · obtain ⟨entry, kept, same⟩ := List.mem_map.mp now
        obtain rfl := List.mem_singleton.mp (List.mem_filter.mp kept).1
        exact other (List.mem_map.mpr ⟨table, member, same.symm⟩)
    calc store.run (addEach ((ptype, batch) :: rest))
      _ = (store.run (StoreCall.each .add ptype batch)).run (addEach rest) := run_append _ _
      _ = ⟨store.tables ++ (filled ⟨[(ptype, Text.distinct rules)]⟩).tables ++
          (filled ⟨more⟩).tables⟩ := by
        rw [step, ih distinct later onward]
      _ = ⟨store.tables ++ (filled ⟨(ptype, Text.distinct rules) :: more⟩).tables⟩ := by
        rw [List.append_assoc, filled, filled, filled, ← List.filter_append, List.singleton_append]

/-- A batch whose things all give rules is added exactly if it has some and none of them is stored,
and it is removed exactly if it has some and all of them are stored; what either leaves is what the
same rules leave that are added or removed one by one. Other batches change nothing. A store that is
replaced has, but for types without rules, what rules leave that are added one by one to a store
that was cleared; `distinct` says that no type is given twice. -/
theorem batches_eq_singles [Runtime] (store : Store) (ptype : String) {batch : Value}
    {rules : List Rule}
    (gives : Rule.listOfValue ptype batch = .ok rules) {given : List (String × Value)}
    {tables : List (String × List Rule)} (distinct : (given.map (·.1)).Nodup)
    (prepared : prepare given = .ok tables) :
    store.addMany ptype batch = .ok (if rules ≠ [] ∧ ∀ rule ∈ rules, rule ∉ store.rules ptype then
      some (store.run (StoreCall.each .add ptype batch)) else none) ∧
    store.removeMany ptype batch =
      .ok (if rules ≠ [] ∧ ∀ rule ∈ rules, rule ∈ store.rules ptype then
      some (store.run (StoreCall.each .remove ptype batch)) else none) ∧
    ∃ replaced, replace given = .ok replaced ∧
      replaced.filled = store.run (.clear :: addEach given) := by
  refine ⟨?_, ?_, ⟨tables⟩, by rw [replace, prepared]; rfl, ?_⟩
  · -- A batch with a rule that is stored is refused as a whole.
    rw [addMany_eq gives]
    congr 1
    exact if_ctx_congr Iff.rfl
      (fun accepted => by rw [run_each_add_of_new gives accepted.1 accepted.2]) fun _ => rfl
  · -- And so is one with a rule that is not, for the removal.
    rw [removeMany_eq gives]
    congr 1
    exact if_ctx_congr Iff.rfl
      (fun accepted => by rw [run_each_remove_of_stored gives accepted.1 accepted.2]) fun _ => rfl
  · -- What the store had is gone before the first rule is added.
    have cleared : store.run (.clear :: addEach given) = empty.run (addEach given) := rfl
    rw [cleared, run_addEach distinct prepared (by simp [empty])]
    rfl

end

/-- A store with one rule. -/
def annStore : Store := ⟨[("p", [["ann", "read"]])]⟩

/-- A rule that is given twice, once with a blank. -/
def bobTwice : Value :=
  .list [.list [.text "bob", .text " read"], .list [.text "bob", .text "read"]]

/-- Rules of two types, of which one has none. -/
def bobAlone : List (String × Value) := [("g", .list []), ("p", bobTwice)]

/-- The rule is added once, is not removed while it is absent, and is the only one of a store that
is replaced. -/
theorem batches_eq_singles_bobTwice :
    Rule.listOfValue "p" bobTwice = .ok [["bob", "read"], ["bob", "read"]] ∧
    (bobAlone.map (·.1)).Nodup ∧ prepare bobAlone = .ok [("g", []), ("p", [["bob", "read"]])] ∧
    annStore.addMany "p" bobTwice = .ok (some (annStore.run (StoreCall.each .add "p" bobTwice))) ∧
    annStore.removeMany "p" bobTwice = .ok none ∧
    ∃ replaced, replace bobAlone = .ok replaced ∧
      replaced.filled = annStore.run (.clear :: addEach bobAlone) := by
  have gives : Rule.listOfValue "p" bobTwice = .ok [["bob", "read"], ["bob", "read"]] := rfl
  have distinct : (bobAlone.map (·.1)).Nodup := by decide
  have prepared : prepare bobAlone = .ok [("g", []), ("p", [["bob", "read"]])] := rfl
  obtain ⟨added, removed, replaced⟩ := batches_eq_singles annStore "p" gives distinct prepared
  rw [if_pos (by decide)] at added
  rw [if_neg (by decide)] at removed
  exact ⟨gives, distinct, prepared, added, removed, replaced⟩

end Store

end AccessControl
