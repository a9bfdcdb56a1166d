import AccessControl.Proofs.Rule.Rewrite
import AccessControl.Proofs.Value.Keys

/-! Changes to the rules of one type leave all others, and filters fail only where they count from
the end. -/

namespace AccessControl

namespace Store

variable {runtime : Runtime} {store next : Store} {ptype other : String}

/-- Publishing rules for a type gives them to it and to no other type. -/
theorem rules_publish (rules : List Rule) :
    (store.publish ptype rules).rules other = if other =
      ptype then rules else store.rules other := by
  by_cases same : other = ptype <;> simp [publish, Store.rules, lookupKey_insertKey, same]

/-- What is published for a type are its rules. -/
@[simp] theorem rules_publish_self (rules : List Rule) :
    (store.publish ptype rules).rules ptype = rules := by
  rw [rules_publish, if_pos rfl]

/-- What is published last for a type counts. -/
@[simp] theorem publish_publish (first last : List Rule) :
    (store.publish ptype first).publish ptype last = store.publish ptype last := by
  simp [publish]

/-- What is prepared begins with the different rules of the first type and goes on with the
others. -/
theorem prepare_cons_eq_ok {ptype : String} {given : Value} {rest : List (String × Value)}
    {tables : List (String × List Rule)} : prepare ((ptype, given) :: rest) = .ok tables ↔
      ∃ rules more, Rule.listOfValue (some ptype) given = .ok rules ∧ prepare rest = .ok more ∧
        (ptype, Text.distinct rules) :: more = tables := by
  rw [prepare, bind_eq_ok]
  constructor
  · -- The rules of the first type are read, and those of the others.
    rintro ⟨rules, gives, made⟩
    obtain ⟨more, later, made⟩ := bind_eq_ok.mp made
    exact ⟨rules, more, gives, later, Except.ok.inj made⟩
  · -- Read one after the other they are the tables.
    rintro ⟨rules, more, gives, later, rfl⟩
    exact ⟨rules, gives, bind_eq_ok.mpr ⟨more, later, rfl⟩⟩

/-- A change that takes place publishes rules of its type and does nothing else. -/
theorem apply_eq_publish {change : Change} (applied : store.apply ptype change = .ok (some next)) :
    ∃ rules, next = store.publish ptype rules :=
  (apply_rewrites applied).imp fun _ made => made.1

/-- A rule that can be made is added unless it is there. -/
theorem apply_add {given : Value} {rule : Rule} (gives : Rule.ofValue ptype given = .ok rule) :
    store.apply ptype (.add given) = .ok (if rule ∈ store.rules ptype then none
      else some (store.publish ptype (store.rules ptype ++ [rule]))) := by
  simp [apply, add, gives]

/-- A rule that can be made is removed if it is there. -/
theorem apply_remove {given : Value} {rule : Rule} (gives : Rule.ofValue ptype given = .ok rule) :
    store.apply ptype (.remove given) = .ok (if rule ∈ store.rules ptype then
      some (store.publish ptype ((store.rules ptype).filter (· != rule))) else none) := by
  simp [apply, remove, gives]

end Store

/-! ### Filters -/

/-- From a position on, a rule has a field there or ends before it. -/
theorem Rule.fieldAt_ok (rule : Rule) {position : Int} (onward : 0 ≤ position) :
    ∃ field, rule.fieldAt position = .ok field := by
  unfold Rule.fieldAt
  split
  · exact ⟨none, rfl⟩
  · -- Such a position does not count from the end, so it cannot lie before the start.
    have start : ¬ position < 0 := by omega
    exact ⟨rule[position.toNat]?, by simp [start]⟩

/-- A filter from a position on tells of every rule whether it passes. -/
theorem Rule.matchesFilter_ok (rule : Rule) (wanted : List Value) {position : Int}
    (onward : 0 ≤ position) : ∃ passes, rule.matchesFilter position wanted = .ok passes := by
  induction wanted generalizing position with
  | nil => exact ⟨true, rfl⟩
  | cons first rest ih =>
    have beyond : 0 ≤ position + 1 := by omega
    obtain ⟨later, filtered⟩ := ih beyond
    obtain ⟨field, found⟩ := rule.fieldAt_ok onward
    simp only [Rule.matchesFilter, found, ok_bind, filtered]
    -- Wherever the filter is not passed at once, the rest of it decides.
    repeat' split
    all_goals exact ⟨_, rfl⟩

/-- From a place that counts from the start the field there is read, if there is one. -/
theorem Rule.fieldAt_natCast (rule : Rule) (place : Nat) :
    rule.fieldAt place = .ok rule[place]? := by
  have start : ¬ (place : Int) < 0 := by omega
  by_cases beyond : rule.length ≤ place
  · -- There is no such field.
    simp [Rule.fieldAt, beyond]
  · -- A place from the start on never counts from the end.
    simp [Rule.fieldAt, beyond, start]

/-- A rule passes a filter on texts if it has each of them that is not empty at its own place. -/
theorem Rule.matchesFilter_texts (rule : Rule) (place : Nat) (names : List String) :
    rule.matchesFilter place (names.map .text) =
      .ok ((names.zipIdx place).all fun named => named.1 == "" ||
        rule[named.2]? == some named.1) := by
  induction names generalizing place with
  | nil => rfl
  | cons name rest ih =>
    -- The names behind this one are compared with the fields behind its own.
    have next : rule.matchesFilter ((place : Int) + 1) (rest.map .text) =
        .ok ((rest.zipIdx (place + 1)).all fun named =>
          named.1 == "" || rule[named.2]? == some named.1) := by
      exact_mod_cast ih (place + 1)
    by_cases empty : name = ""
    · -- An empty name passes every field.
      simp [Rule.matchesFilter, Rule.isField, empty, next]
    · simp only [List.map_cons, Rule.matchesFilter, Rule.isField, Rule.fieldAt_natCast,
        ok_bind, next, List.zipIdx_cons, List.all_cons]
      cases rule[place]? with
      -- A field that is missing is no name.
      | none => simp [empty]
      | some field =>
        -- A field that is there passes if it is the name.
        by_cases same : name = field
        · simp [same]
        · simp [same, Ne.symm same, empty]

/-- Every rule passes a filter on the empty name, and one on any other name if it has it at the
place. -/
theorem Rule.matchesFilter_text (rule : Rule) (place : Nat) (name : String) :
    rule.matchesFilter place [.text name] = .ok (name == "" || rule[place]? == some name) := by
  simpa using rule.matchesFilter_texts place [name]

/-- A rule passes a filter on one name if it has that name at the place. -/
theorem Rule.matchesFilter_name (rule : Rule) (place : Nat) {name : String} (named : name ≠ "") :
    rule.matchesFilter place [.text name] = .ok (rule[place]? == some name) := by
  simp [rule.matchesFilter_text place name, named]

namespace Store

/-- A test that tells of every rule selects some of them. -/
theorem select_ok {test : Rule → Except Error Bool}
    (tells : ∀ rule, ∃ passes, test rule = .ok passes)
    (rules : List Rule) : ∃ selected, select test rules = .ok selected := by
  induction rules with
  | nil => exact ⟨[], rfl⟩
  | cons rule rest ih =>
    obtain ⟨passes, tested⟩ := tells rule
    obtain ⟨more, selected⟩ := ih
    exact ⟨_, by simp only [select, tested, selected, ok_bind]; rfl⟩

/-- Rules that pass a filter from a position on can be removed, whatever the rules are. -/
theorem apply_removeFiltered_ok (runtime : Runtime) (store : Store) (ptype : String)
    {position : Int} (onward : 0 ≤ position) (wanted : List Value) :
    ∃ stored, store.apply ptype (.removeFiltered position wanted) = .ok stored := by
  obtain ⟨removed, filtered⟩ : ∃ removed, store.filter ptype position wanted = .ok removed :=
    select_ok (fun rule => rule.matchesFilter_ok wanted onward) _
  simp only [apply, removeFiltered, filtered, ok_bind]
  repeat' split
  all_goals exact ⟨_, rfl⟩

/-- A test that tells of every rule what another one does selects those for which that holds. -/
theorem select_eq_filter {test : Rule → Except Error Bool} {passes : Rule → Bool}
    (tells : ∀ rule, test rule = .ok (passes rule)) (rules : List Rule) :
    select test rules = .ok (rules.filter passes) := by
  induction rules with
  | nil => rfl
  | cons rule rest ih =>
    simp only [select, tells, ih, ok_bind, pure_eq_ok, List.filter_cons]

/-- If a filter tells of every rule whether it passes, those that pass can be removed, and no others
go. -/
theorem apply_removeFiltered_passes (runtime : Runtime) (store : Store) (ptype : String)
    {position : Int} {wanted : List Value} {passes : Rule → Bool} (asks : wanted ≠ [])
    (tells : ∀ rule : Rule, rule.matchesFilter position wanted = .ok (passes rule)) :
    ∃ stored, store.apply ptype (.removeFiltered position wanted) = .ok stored ∧
      (stored.isSome = true ↔ ∃ rule ∈ store.rules ptype, passes rule = true) ∧
      ∀ other, (stored.getD store).rules other =
        if other = ptype then (store.rules other).filter fun rule => !passes rule
        else store.rules other := by
  have removed : store.filter ptype position wanted = .ok ((store.rules ptype).filter passes) :=
    select_eq_filter tells _
  have asked : ¬ wanted.isEmpty = true := mt List.isEmpty_iff.mp asks
  by_cases nothing : (store.rules ptype).filter passes = []
  · have fails := List.filter_eq_nil_iff.mp nothing
    refine ⟨none, ?_, by simpa using fails, fun other => ?_⟩
    · -- Nothing is removed.
      simp only [apply, removeFiltered, asked, removed, ok_bind, nothing]
      rfl
    · -- There is no such rule, so all rules are left.
      split
      · rename_i same
        subst same
        exact (List.filter_eq_self.mpr fun rule stored => by simpa using fails rule stored).symm
      · rfl
  · have some_removed := mt List.isEmpty_iff.mp nothing
    obtain ⟨rule, member⟩ := List.exists_mem_of_ne_nil _ nothing
    refine ⟨some (store.publish ptype ((store.rules ptype).filter fun rule =>
      !((store.rules ptype).filter passes).contains rule)), ?_, ?_, fun other => ?_⟩
    · -- The rules that are left take the place of all.
      simp only [apply, removeFiltered, asked, removed, ok_bind, Bool.false_eq_true, if_false,
        some_removed, pure_eq_ok]
    · -- One of the rules passes.
      exact ⟨fun _ => ⟨rule, List.mem_filter.mp member⟩, fun _ => rfl⟩
    · rw [Option.getD_some, rules_publish]
      -- A stored rule is removed just if it passes the filter.
      split
      · rename_i same
        subst same
        refine List.filter_congr fun rule stored => ?_
        rw [Bool.eq_iff_iff]
        simp [stored]
      · rfl

/-- The rules with a name at a place can always be removed, and none are removed but these. An empty
name would stand for any. -/
theorem apply_removeFiltered_name (runtime : Runtime) (store : Store) (ptype : String) (place : Nat)
    {name : String} (named : name ≠ "") :
    ∃ stored, store.apply ptype (.removeFiltered place [.text name]) = .ok stored ∧
      ∀ other, (stored.getD store).rules other =
        if other = ptype then (store.rules other).filter fun rule => rule[place]? != some name
        else store.rules other := by
  obtain ⟨stored, applied, _, left⟩ := store.apply_removeFiltered_passes runtime ptype (by simp)
    fun rule => rule.matchesFilter_name place named
  exact ⟨stored, applied, left⟩

end Store

end AccessControl
