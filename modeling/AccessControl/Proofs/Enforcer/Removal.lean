import AccessControl.Proofs.Enforcer.Change
import AccessControl.Proofs.Enforcer.Classic

/-! Users, roles and permissions are removed with just the rules that have their name at its place,
unless the name is empty, which stands for any. -/

namespace AccessControl

/-- The rule has the name at a place that is listed for its type. -/
def Rule.isAt (places : List (String × Nat)) (name ptype : String) (rule : Rule) : Bool :=
  places.any fun place => place.1 == ptype && rule[place.2]? == some name

namespace Enforcer

variable {enforcer changed : Enforcer}

/-- What is asked for does not fail, and it leaves of each type the rules without the name at a
listed place, in their order. -/
def Leaves (enforcer : Enforcer) (places : List (String × Nat)) (name : String)
    (asked : Logged (Enforcer × Bool)) : Prop :=
  ∃ changed isDone, asked.result = .ok (changed, isDone) ∧ ∀ ptype,
    changed.store.rules ptype =
      (enforcer.store.rules ptype).filter fun rule => !rule.isAt places name ptype

/-- Rules without a name at one place are those that are not listed by this place. -/
theorem filter_isAt_singleton {ptype other name : String} {place : Nat} (rules : List Rule) :
    (rules.filter fun rule => !rule.isAt [(ptype, place)] name other) =
      if other = ptype then rules.filter fun rule => rule[place]? != some name else rules := by
  by_cases same : other = ptype
  · -- This is the type that the name is removed from.
    simp [Rule.isAt, same, bne]
  · -- Other types are left as they are.
    simp [Rule.isAt, same, Ne.symm same]

/-- Two lists of places leave in turn what both of them leave at once. -/
theorem filter_isAt_append {places more : List (String × Nat)} {name ptype : String}
    (rules : List Rule) : ((rules.filter fun rule => !rule.isAt places name ptype).filter
      fun rule => !rule.isAt more name ptype) =
      rules.filter fun rule => !rule.isAt (places ++ more) name ptype := by
  rw [List.filter_filter]
  exact List.filter_congr fun rule _ => by simp [Rule.isAt, Bool.and_comm]

variable {name : String}

/-- The rules of a policy type with a name at a place can be removed, and no others go. -/
theorem changePolicy_leaves {ptype : String} (declared : enforcer.model.isPolicyType ptype = true)
    (place : Nat) (named : name ≠ "") :
    enforcer.Leaves [(ptype, place)] name
      (enforcer.changePolicy ptype (.removeFiltered place [.text name])) := by
  obtain ⟨stored, applied, left⟩ := enforcer.store.apply_removeFiltered_name enforcer.host.toRuntime
      ptype place named
  refine ⟨_, _, changePolicy_of_apply declared applied, fun other => ?_⟩
  rw [left, filter_isAt_singleton]

/-- The rules of a grouping type with a name at a place can be removed, and no others go. -/
theorem IsValid.changeGrouping_leaves (valid : enforcer.IsValid) {gtype : String}
    (declared : enforcer.model.isGroupingType gtype = true) (place : Nat) (named : name ≠ "") :
    enforcer.Leaves [(gtype, place)] name
      (enforcer.changeGrouping gtype (.removeFiltered place [.text name])) := by
  obtain ⟨stored, applied, left⟩ := enforcer.store.apply_removeFiltered_name enforcer.host.toRuntime
      gtype place named
  refine ⟨_, _, valid.changeGrouping_of_apply declared applied, fun other => ?_⟩
  rw [published_store, left, filter_isAt_singleton]

/-- Grouping rules with a name at one place and rules with it at another can be removed in a row. -/
theorem IsValid.changeBoth_leaves (valid : enforcer.IsValid)
    (declared : enforcer.model.isGroupingType "g" = true) (linkPlace rulePlace : Nat)
    (named : name ≠ "") :
    enforcer.Leaves [("g", linkPlace), ("p", rulePlace)] name
      (enforcer.changeBoth (.removeFiltered linkPlace [.text name])
        (.removeFiltered rulePlace [.text name])) := by
  obtain ⟨between, hadLinks, first, linksLeft⟩ :=
    valid.changeGrouping_leaves declared linkPlace named
  -- What is left after the first removal is valid again, so the second one takes place as well.
  have declaresRules := (valid.of_bare (changeGrouping_bare first)).declaresRules
  obtain ⟨last, hadRules, second, rulesLeft⟩ := changePolicy_leaves declaresRules rulePlace named
  refine ⟨last, hadLinks || hadRules, ?_, fun ptype => ?_⟩
  · simp only [changeBoth, Logged.result_bind, first, second, ok_bind, Logged.result_pure]
  · rw [rulesLeft, linksLeft, filter_isAt_append]
    rfl

/-- In an enforcer that can be come by and whose model declares `g`, a name that is not empty is
removed as a user with the grouping rules that it begins and the rules with it as their subject, as
a role with the grouping rules that have it in the second place and the rules with it as their
subject, and its roles or its permissions with the one kind of rules or the other. All other rules
of all types stay in their order. -/
theorem Reachable.removals_leave (reachable : enforcer.Reachable)
    (declared : enforcer.model.isGroupingType "g" = true) (named : name ≠ "") :
    enforcer.Leaves [("g", 0), ("p", enforcer.subjectPosition "p")] name
        (enforcer.deleteUser (.text name)) ∧
      enforcer.Leaves [("g", 1), ("p", enforcer.subjectPosition "p")] name
        (enforcer.deleteRole (.text name)) ∧
      enforcer.Leaves [("g", 0)] name (enforcer.deleteRolesOf (.text name) (.text "")) ∧
      enforcer.Leaves [("p", enforcer.subjectPosition "p")] name
        (enforcer.deletePermissionsOf (.text name)) := by
  have valid := reachable.isValid
  exact ⟨valid.changeBoth_leaves declared 0 _ named, valid.changeBoth_leaves declared 1 _ named,
    valid.changeGrouping_leaves declared 0 named, changePolicy_leaves valid.declaresRules _ named⟩

/-- Rules for two users, a role of one of them, and the other one as her member. -/
def userWrites : List Write := [
  .policy "p" (.add (.list [.text "alice", .text "data", .text "read"])),
  .policy "p" (.add (.list [.text "bob", .text "data", .text "read"])),
  .grouping "g" (.add (.list [.text "alice", .text "staff"])),
  .grouping "g" (.add (.list [.text "bob", .text "alice"]))]

/-- An enforcer with these rules can be come by. -/
theorem exists_userWrites : ∃ start, (create .empty .default .classic).result = .ok start ∧
    (start.writes userWrites).Reachable ∧
    (start.writes userWrites).model.isGroupingType "g" = true ∧
    (start.writes userWrites).subjectPosition "p" = 0 ∧
    (start.writes userWrites).store.rules "p" =
    [["alice", "data", "read"], ["bob", "data", "read"]] ∧
    (start.writes userWrites).store.rules "g" = [["alice", "staff"], ["bob", "alice"]] := by
  obtain ⟨start, created⟩ := create_classic .empty .default
  have evaluated : (create .empty .default .classic).result.toOption.map (fun start =>
      ((start.writes userWrites).model.isGroupingType "g",
        (start.writes userWrites).subjectPosition "p",
        (start.writes userWrites).store.rules "p", (start.writes userWrites).store.rules "g")) =
      some (true, 0, [["alice", "data", "read"], ["bob", "data", "read"]],
        [["alice", "staff"], ["bob", "alice"]]) := by
    rw [result_create_classic]
    decide +kernel
  rw [created] at evaluated
  obtain ⟨declared, evaluated⟩ := Prod.mk.inj (Option.some.inj evaluated)
  obtain ⟨place, evaluated⟩ := Prod.mk.inj evaluated
  obtain ⟨rules, groupings⟩ := Prod.mk.inj evaluated
  exact ⟨start, created, (Reachable.of_default created).writes userWrites, declared, place, rules,
    groupings⟩

/-- The user is removed with her own rule and role, and the other user keeps his. -/
theorem Reachable.removals_leave_bob :
    ∃ start, (create .empty .default .classic).result = .ok start ∧
      (start.writes userWrites).Reachable ∧
      (start.writes userWrites).model.isGroupingType "g" = true ∧ "alice" ≠ "" ∧
      ∃ changed isDone, ((start.writes userWrites).deleteUser (.text "alice")).result =
          .ok (changed, isDone) ∧
        changed.store.rules "p" = [["bob", "data", "read"]] ∧
        changed.store.rules "g" = [["bob", "alice"]] := by
  obtain ⟨start, created, reachable, declared, place, rules, groupings⟩ := exists_userWrites
  have named : "alice" ≠ "" := by decide
  obtain ⟨⟨changed, isDone, removed, left⟩, _⟩ := reachable.removals_leave declared named
  rw [place] at left
  refine ⟨start, created, reachable, declared, named, changed, isDone, removed, ?_, ?_⟩
  · -- Of the permissions that of another user is left.
    rw [left, rules]
    decide
  · -- Of the groupings the one in which the name is the group is left.
    rw [left, groupings]
    decide

/-- A user without a name is removed with all rules of all users, none of which has an empty
field. -/
theorem deleteUser_unnamed :
    ∃ start changed, (create .empty .default .classic).result = .ok start ∧
      (start.writes userWrites).Reachable ∧
      (start.writes userWrites).model.isGroupingType "g" = true ∧
      ((start.writes userWrites).deleteUser (.text "")).result = .ok (changed, true) ∧
      changed.store.rules "p" = [] ∧ changed.store.rules "g" = [] ∧
      ¬(start.writes userWrites).Leaves
        [("g", 0), ("p", (start.writes userWrites).subjectPosition "p")] ""
        ((start.writes userWrites).deleteUser (.text "")) := by
  obtain ⟨start, created, reachable, declared, place, rules, groupings⟩ := exists_userWrites
  have evaluated : (create .empty .default .classic).result.toOption.map (fun start =>
      ((start.writes userWrites).deleteUser (.text "")).result.toOption.map fun changed =>
        (changed.2, changed.1.store.rules "p", changed.1.store.rules "g")) =
      some (some (true, [], [])) := by
    rw [result_create_classic]
    decide +kernel
  rw [created] at evaluated
  obtain ⟨⟨changed, isDone⟩, removed, evaluated⟩ :=
    toOption_map_eq_some.mp (Option.some.inj evaluated)
  obtain ⟨rfl, evaluated⟩ := Prod.mk.inj evaluated
  obtain ⟨noRules, noGroupings⟩ := Prod.mk.inj evaluated
  refine ⟨start, changed, created, reachable, declared, removed, noRules, noGroupings, ?_⟩
  -- Both grouping rules would have to be left.
  rintro ⟨other, hasChanged, asked, left⟩
  obtain ⟨rfl, _⟩ := Prod.mk.inj (Except.ok.inj (removed.symm.trans asked))
  have both := left "g"
  rw [groupings, noGroupings, place] at both
  exact absurd both (by decide)

end Enforcer

end AccessControl
