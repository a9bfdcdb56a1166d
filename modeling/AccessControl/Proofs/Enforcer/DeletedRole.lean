import AccessControl.Proofs.Enforcer.DomainRoles
import AccessControl.Proofs.Enforcer.Removal
import AccessControl.Proofs.Enforcer.Stored
import AccessControl.Proofs.Role.Closure

/-! A role that is deleted is no group and no subject any more, but it stays a member of its own
groups: whoever is given a role of that name later on belongs to these groups as well. -/

namespace AccessControl

/-- The rule has the name in the place of its member or of its group. -/
def Rule.Mentions (name : String) (rule : Rule) : Prop :=
  rule[0]? = some name ∨ rule[1]? = some name

namespace Enforcer

variable {enforcer changed : Enforcer} {role : String}

/-! ### What is left of the rules -/

/-- The rules that are left of a type are those without the name at each place that is listed for
it. -/
theorem mem_filter_isAt {places : List (String × Nat)} {name ptype : String} {rules : List Rule}
    {rule : Rule} : rule ∈ (rules.filter fun rule => !rule.isAt places name ptype) ↔
      rule ∈ rules ∧ ∀ place, (ptype, place) ∈ places → rule[place]? ≠ some name := by
  simp only [List.mem_filter, Rule.isAt, Bool.not_eq_true', List.any_eq_false,
    Bool.and_eq_true, beq_iff_eq, not_and, Prod.forall]
  refine and_congr_right fun _ => ⟨fun absent place listed => absent ptype place listed rfl, ?_⟩
  rintro absent _ place listed rfl
  exact absent place listed

/-- In an enforcer that can be come by and whose model declares `g`, a role whose name is not empty
can be deleted. The rules that are left are those without it as their subject, and the grouping
rules that are left are those without it as their group. -/
theorem Reachable.deleteRole_leaves (reachable : enforcer.Reachable)
    (declared : enforcer.model.isGroupingType "g" = true) (named : role ≠ "") :
    ∃ changed isDone, (enforcer.deleteRole (.text role)).result = .ok (changed, isDone) ∧
      (∀ rule, rule ∈ changed.store.rules "p" ↔
        rule ∈ enforcer.store.rules "p" ∧ rule[enforcer.subjectPosition "p"]? ≠ some role) ∧
      ∀ rule, rule ∈ changed.store.rules "g" ↔ rule ∈ enforcer.store.rules "g" ∧
        rule[1]? ≠ some role := by
  obtain ⟨changed, isDone, deleted, left⟩ := reachable.isValid.changeBoth_leaves declared 1
    (enforcer.subjectPosition "p") named
  refine ⟨changed, isDone, deleted, fun rule => ?_, fun rule => ?_⟩
  · -- A permission goes if the role is its subject.
    rw [left, mem_filter_isAt]
    simp
  · -- A grouping goes if the role is its group.
    rw [left, mem_filter_isAt]
    simp

/-- After a role is deleted, no rule has it as its subject and no grouping rule as its group. A
grouping rule mentions it all the same exactly if there was one before that began with it and had
another group, and it is that rule. -/
theorem Reachable.deleteRole_mentions (reachable : enforcer.Reachable)
    (declared : enforcer.model.isGroupingType "g" = true) (named : role ≠ "") :
    ∃ changed isDone, (enforcer.deleteRole (.text role)).result = .ok (changed, isDone) ∧
      (∀ rule ∈ changed.store.rules "p", rule[enforcer.subjectPosition "p"]? ≠ some role) ∧
      (∀ rule ∈ changed.store.rules "g", rule[1]? ≠ some role) ∧
      (∀ rule, rule ∈ changed.store.rules "g" ∧ rule.Mentions role ↔
        rule ∈ enforcer.store.rules "g" ∧ rule[0]? = some role ∧ rule[1]? ≠ some role) := by
  obtain ⟨changed, isDone, deleted, rules, groupings⟩ := reachable.deleteRole_leaves declared named
  refine ⟨changed, isDone, deleted, fun rule left => ((rules rule).mp left).2,
    fun rule left => ((groupings rule).mp left).2, fun rule => ?_⟩
  rw [groupings, Rule.Mentions]
  constructor
  · -- A rule that is left has another group, so it mentions the role as its member.
    rintro ⟨⟨stored, other⟩, mentions⟩
    exact ⟨stored, mentions.resolve_right other, other⟩
  · rintro ⟨stored, begins, other⟩
    exact ⟨⟨stored, other⟩, .inl begins⟩

/-- The links of the enforcer are compared as they are, and at this moment they are those of its
rules. -/
structure FollowsPlainly (enforcer : Enforcer) : Prop extends enforcer.LinksPlainly where
  follows : enforcer.Follows "g"

/-- A rule about a role, a member of this role, and its own group. -/
def nestedWrites : List Write := [
  .policy "p" (.add (.list [.text "admin", .text "data", .text "read"])),
  .grouping "g" (.add (.list [.text "alice", .text "admin"])),
  .grouping "g" (.add (.list [.text "admin", .text "staff"]))]

/-- An enforcer with these rules has links that follow them. -/
theorem exists_nestedWrites : ∃ start, (create .empty .default .classic).result = .ok start ∧
    (start.writes nestedWrites).FollowsPlainly ∧
    (start.writes nestedWrites).store.rules "g" = [["alice", "admin"], ["admin", "staff"]] := by
  obtain ⟨start, created, writes⟩ := exists_linksPlainly
  obtain ⟨plainly, follows⟩ := writes nestedWrites
  have evaluated : (create .empty .default .classic).result.toOption.map (fun start =>
      (start.writes nestedWrites).store.rules "g") =
        some [["alice", "admin"], ["admin", "staff"]] := by
    rw [result_create_classic]
    decide +kernel
  rw [created] at evaluated
  exact ⟨start, created, ⟨plainly, follows⟩, Option.some.inj evaluated⟩

/-- The outer role is a member of no group, so no grouping rule mentions it after it is deleted. -/
theorem Reachable.deleteRole_mentions_outer :
    ∃ start changed isDone, (create .empty .default .classic).result = .ok start ∧
      (start.writes nestedWrites).Reachable ∧
      (start.writes nestedWrites).model.isGroupingType "g" = true ∧ "staff" ≠ "" ∧
      ((start.writes nestedWrites).deleteRole (.text "staff")).result = .ok (changed, isDone) ∧
      ∀ rule ∈ changed.store.rules "g", ¬rule.Mentions "staff" := by
  obtain ⟨start, created, plainly, groupings⟩ := exists_nestedWrites
  have named : "staff" ≠ "" := by decide
  obtain ⟨changed, isDone, deleted, _, _, mentions⟩ :=
    plainly.reachable.deleteRole_mentions plainly.declared named
  have unbegun : ∀ rule ∈ (start.writes nestedWrites).store.rules "g", rule[0]? ≠ some "staff" := by
    rw [groupings]
    decide
  refine ⟨start, changed, isDone, created, plainly.reachable, plainly.declared, named, deleted,
    fun rule left mentioned => ?_⟩
  obtain ⟨stored, begins, _⟩ := (mentions rule).mp ⟨left, mentioned⟩
  exact unbegun rule stored begins

/-- The inner role is left as a member of its own group after it is deleted. -/
theorem deleted_role_mentioned :
    ∃ start changed isDone, (create .empty .default .classic).result = .ok start ∧
      (start.writes nestedWrites).Reachable ∧
      (start.writes nestedWrites).model.isGroupingType "g" = true ∧ "admin" ≠ "" ∧
      ((start.writes nestedWrites).deleteRole (.text "admin")).result = .ok (changed, isDone) ∧
      ["admin", "staff"] ∈ changed.store.rules "g" ∧ Rule.Mentions "admin" ["admin", "staff"] := by
  obtain ⟨start, created, plainly, groupings⟩ := exists_nestedWrites
  have named : "admin" ≠ "" := by decide
  obtain ⟨changed, isDone, deleted, _, kept⟩ :=
    plainly.reachable.deleteRole_leaves plainly.declared named
  have left : ["admin", "staff"] ∈ changed.store.rules "g" := by
    rw [kept, groupings]
    decide
  exact ⟨start, changed, isDone, created, plainly.reachable, plainly.declared, named, deleted,
    left, .inl rfl⟩

/-! ### What is left of the links -/

/-- A grouping rule that stands for a link has the group in its second place. -/
theorem second_of_link {rule : Rule} {link : Link} (linked : Link.ofRule? rule = some link) :
    rule[1]? = some link.group := by
  match rule, linked with
  | _ :: _ :: _, linked =>
    obtain rfl := Option.some.inj linked
    rfl

/-- The names of a link have no blanks at their ends if its rule is one as it is stored. -/
theorem trim_of_link {rule : Rule} (normal : rule.IsNormal) {link : Link}
    (linked : Link.ofRule? rule = some link) :
    Text.trim link.member = link.member ∧ Text.trim link.domain = link.domain := by
  match rule, linked with
  | member :: group :: more, linked =>
    obtain rfl := Option.some.inj linked
    refine ⟨normal.trimmed member (by simp), ?_⟩
    -- The domain is the last of the other fields, or empty without any.
    rcases List.eq_nil_or_concat more with rfl | ⟨before, last, rfl⟩
    · have nothing : Text.trim "" = "" := by decide
      exact nothing
    · -- The domain is the last field.
      simpa using normal.trimmed last (by simp)

/-- What can be come by and differs in rules and links alone compares its links in the same way. -/
theorem LinksPlainly.of_bare (plainly : enforcer.LinksPlainly) (reachable : changed.Reachable)
    (same : changed.bare = enforcer.bare) : changed.LinksPlainly where
  reachable := reachable
  builds := (congrArg (·.config.buildsLinks) same).trans plainly.builds
  declared := by
    have model : changed.model = enforcer.model := congrArg (·.model) same
    exact model ▸ plainly.declared
  plain := by
    obtain ⟨h, found, plain⟩ := plainly.plain
    have bare := map_clear_of_bare same "g"
    rw [found] at bare
    -- The manager is one that has the tests of the former, and so none.
    obtain ⟨manager, present, cleared⟩ := Option.map_eq_some_iff.mp bare
    cases manager with
    | direct links => cases cleared
    | hierarchy other =>
      obtain ⟨_, _, names, domains⟩ := Hierarchy.mk.inj (RoleManager.hierarchy.inj cleared)
      exact ⟨other, present, names.trans plain.names, domains.trans plain.domains⟩

namespace FollowsPlainly

variable {change grouping policy : Change} {isDone : Bool}

/-- A change to the grouping rules is followed by the links. -/
theorem changeGrouping (plainly : enforcer.FollowsPlainly)
    (changes : (enforcer.changeGrouping "g" change).result = .ok (changed, isDone)) :
    changed.FollowsPlainly := by
  have made : enforcer.write (.grouping "g" change) = changed := by
    simp [write, changes, leave, Except.map]
  refine ⟨plainly.of_bare (made ▸ plainly.reachable.writes [.grouping "g" change])
    (changeGrouping_bare changes), ?_⟩
  -- Where the change is refused nothing is changed.
  cases applied : enforcer.changedStore "g" change with
  | error error =>
    simp [Enforcer.changeGrouping, plainly.declared, applied] at changes
  | ok stored =>
    have published := plainly.reachable.isValid.changeGrouping_of_apply plainly.declared applied
    obtain ⟨rfl, _⟩ := Prod.mk.inj (Except.ok.inj (published.symm.trans changes))
    cases stored with
    -- Nothing is new, so the links are those of the same rules.
    | none => exact plainly.follows
    -- The links are those of the new rules.
    | some store =>
      obtain ⟨h, found, _⟩ := plainly.plain
      exact ⟨_, find?_published plainly.reachable.isValid.seated plainly.builds found
        store, by simp⟩

/-- A change to the rules about subjects leaves links and grouping rules. -/
theorem changePolicy (plainly : enforcer.FollowsPlainly)
    (changes : (enforcer.changePolicy "p" change).result = .ok (changed, isDone)) :
    changed.FollowsPlainly := by
  have made : enforcer.write (.policy "p" change) = changed := by
    simp [write, changes, leave, Except.map]
  refine ⟨plainly.of_bare (made ▸ plainly.reachable.writes [.policy "p" change])
    (changePolicy_bare changes), ?_⟩
  obtain rfl | ⟨_, rules, rfl⟩ := changePolicy_cases changes
  · -- Nothing is changed.
    exact plainly.follows
  · -- The rules of the other type are as before, and so are the links.
    obtain ⟨h, found, graph⟩ := plainly.follows
    exact ⟨h, found, by simpa [Store.rules_publish] using graph⟩

/-- Both changes in a row are followed by the links. -/
theorem changeBoth (plainly : enforcer.FollowsPlainly)
    (changes : (enforcer.changeBoth grouping policy).result = .ok (changed, isDone)) :
    changed.FollowsPlainly := by
  obtain ⟨⟨linked, hadLinks⟩, first, changes⟩ := Logged.bind_ok.mp changes
  obtain ⟨⟨last, hadRules⟩, second, changes⟩ := Logged.bind_ok.mp changes
  obtain ⟨rfl, _⟩ := Prod.mk.inj (Except.ok.inj changes)
  exact (plainly.changeGrouping first).changePolicy second

/-- A name belongs to the group of its role, as two rules in a row stand for that. -/
theorem implicitRolesOf (plainly : enforcer.FollowsPlainly) {first second : Rule}
    {member role group domain : String}
    (given : first ∈ enforcer.store.rules "g")
    (leads : Link.ofRule? first = some ⟨member, role, domain⟩)
    (stored : second ∈ enforcer.store.rules "g")
    (onward : Link.ofRule? second = some ⟨role, group, domain⟩)
    (other : group ≠ member) :
    ∃ roles, enforcer.implicitRolesOf member domain = .ok roles ∧ group ∈ roles := by
  obtain ⟨h, found, plain⟩ := plainly.plain
  obtain ⟨own, present, graph⟩ := plainly.follows
  obtain rfl : h = own := by simpa [found] using present
  -- Each stored rule is a step in its domain.
  have step {rule : Rule} {name target : String} (stored : rule ∈ enforcer.store.rules "g")
      (linked : Link.ofRule? rule = some ⟨name, target, domain⟩) : h.Steps domain name target := by
    rw [plain.steps_iff, graph, RoleGraph.ofLinks_has, Link.ofRules, List.mem_filterMap]
    exact ⟨rule, stored, linked⟩
  obtain ⟨roles, listed, exactly⟩ := Hierarchy.implicitRoles_total plain.isTotal member domain
  refine ⟨roles, ?_, (exactly group).mpr ⟨other, 2, ?_⟩⟩
  · -- The listed groups are those of the only manager.
    simp only [Enforcer.implicitRolesOf, manager_eq_ok.mpr found, ok_bind,
      RoleManager.implicitRoles, listed]
  · -- The two rules are a walk of two steps.
    exact .onward (step given leads) (.onward (step stored onward) (.here group))

/-- A role that has a group of its own is deleted. If it is given to somebody again, in the domain
of that group, this one has the group as well. -/
theorem deleteRole_inherits (plainly : enforcer.FollowsPlainly) (named : role ≠ "") {rule : Rule}
    (stored : rule ∈ enforcer.store.rules "g") {group domain : String}
    (linked : Link.ofRule? rule = some ⟨role, group, domain⟩) (other : group ≠ role) {user : String}
    (apart : group ≠ Text.trim user) :
    ∃ deleted isDone granted isNew roles, (enforcer.deleteRole (.text role)).result =
      .ok (deleted, isDone) ∧
      (deleted.addRole (.text user) (.text role) (.text domain)).result = .ok (granted, isNew) ∧
      granted.implicitRolesOf (Text.trim user) domain = .ok roles ∧ group ∈ roles := by
  obtain ⟨deleted, isDone, deletes, _, kept⟩ :=
    plainly.reachable.deleteRole_leaves plainly.declared named
  -- The rule has another group, so it is left.
  have left : rule ∈ deleted.store.rules "g" :=
    (kept rule).mpr ⟨stored, by simpa [second_of_link linked] using other⟩
  have between : deleted.FollowsPlainly := plainly.changeBoth deletes
  -- What is given is a rule for the link of the role in the same domain.
  obtain ⟨sameRole, sameDomain⟩ := trim_of_link (plainly.reachable.isSound.normal _ _ stored) linked
  have leads := ofRule?_grantRule user role domain
  rw [sameRole, sameDomain] at leads
  rcases between.addRole_cases user role domain with ⟨known, added⟩ | ⟨_, store, added, rules⟩
  · -- The rule is there already.
    obtain ⟨roles, listed, member⟩ := between.implicitRolesOf known leads left linked apart
    exact ⟨deleted, isDone, deleted, false, roles, deletes, added, listed, member⟩
  · -- The rule is new, and the links are those of all rules again.
    have granted := between.changeGrouping added
    have given : grantRule user role domain ∈ store.rules "g" := by simp [rules]
    have still : rule ∈ store.rules "g" := by simp [rules, left]
    obtain ⟨roles, listed, member⟩ :=
      granted.implicitRolesOf (by simpa using given) leads (by simpa using still)
      linked apart
    exact ⟨deleted, isDone, _, true, roles, deletes, added, listed, member⟩

end FollowsPlainly

/-- The inner role is deleted, and the user who is given it again has the outer role as well. -/
theorem deleteRole_inherits_nested : ∃ start deleted isDone granted isNew roles,
    (create .empty .default .classic).result = .ok start ∧
      ((start.writes nestedWrites).deleteRole (.text "admin")).result = .ok (deleted, isDone) ∧
      (deleted.addRole (.text "alice") (.text "admin") (.text "")).result = .ok (granted, isNew) ∧
      granted.implicitRolesOf "alice" "" = .ok roles ∧ "staff" ∈ roles := by
  obtain ⟨start, created, plainly, groupings⟩ := exists_nestedWrites
  have apart : "staff" ≠ Text.trim "alice" := by decide
  have stored : ["admin", "staff"] ∈ (start.writes nestedWrites).store.rules "g" := by
    simp [groupings]
  obtain ⟨deleted, isDone, granted, isNew, roles, inherits⟩ :=
    plainly.deleteRole_inherits (by decide) stored rfl (by decide) apart
  exact ⟨start, deleted, isDone, granted, isNew, roles, created, inherits⟩

end Enforcer

end AccessControl
