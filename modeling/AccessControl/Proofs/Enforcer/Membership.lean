import AccessControl.Proofs.Enforcer.Change
import AccessControl.Proofs.Enforcer.Grant

/-! A role that is granted is held right away, and one that is revoked is held only by another rule
that stands for the same link. -/

namespace AccessControl

/-- The rule that is stored for a role of a user. -/
def grantRule (user role domain : String) : Rule :=
  Text.trim user :: Text.trim role :: if domain == "" then [] else [Text.trim domain]

/-- Whatever is given, a rule for a role can be made of it. -/
theorem ofValue_grant {runtime : Runtime} (ptype : Option String) (user role domain : String) :
    Rule.ofValue ptype (ruleOfArguments (withDomain [.text user, .text role] (.text domain))) =
      .ok (grantRule user role domain) := by
  by_cases unnamed : domain = "" <;>
    simp [withDomain, Value.isTrue, unnamed, ruleOfArguments, Rule.ofValue, Value.items, grantRule]

/-- The rule for a role stands for the link of the names without the blanks at their ends. -/
theorem ofRule?_grantRule (user role domain : String) :
    Link.ofRule? (grantRule user role domain) =
      some ⟨Text.trim user, Text.trim role, Text.trim domain⟩ := by
  have nothing : Text.trim "" = "" := by decide
  by_cases unnamed : domain = "" <;> simp [grantRule, Link.ofRule?, unnamed, nothing]

/-- Without tests the direct groups of a name are those of its links. -/
theorem Hierarchy.IsPlain.roles_ofLinks {h : Hierarchy} (plain : h.IsPlain) {links : List Link}
    (graph : h.graph = .ofLinks links) (name domain : String) :
    ∃ groups, h.roles name domain = .ok groups ∧
      ∀ group, group ∈ groups ↔ ⟨name, group, domain⟩ ∈ links := by
  obtain ⟨groups, listed, exactly⟩ := roles_total plain.isTotal name domain
  refine ⟨groups, listed, fun group => ?_⟩
  rw [exactly, plain.steps_iff, graph, RoleGraph.ofLinks_has]

namespace Enforcer

variable {enforcer : Enforcer}

/-- A role is held exactly if one of the rules that the hierarchy of `g` follows stands for its
link. -/
theorem hasRole_iff {h : Hierarchy} (found : enforcer.roster.find? "g" = some (.hierarchy h))
    (plain : h.IsPlain) {rules : List Rule} (graph : h.graph = .ofLinks (Link.ofRules rules))
    (user role domain : String) :
    ∃ answer, enforcer.hasRole user role domain = .ok answer ∧
      (answer = true ↔ ∃ rule ∈ rules, Link.ofRule? rule = some ⟨user, role, domain⟩) := by
  obtain ⟨groups, listed, exactly⟩ := plain.roles_ofLinks graph user domain
  refine ⟨groups.contains role, ?_, ?_⟩
  · -- The answer is whether the role is among the listed groups.
    simp only [hasRole, rolesOf, manager_eq_ok.mpr found, ok_bind, RoleManager.roles, listed]
    rfl
  · -- The listed groups are those of the links of the rules.
    rw [List.contains_iff_mem, exactly, Link.ofRules, List.mem_filterMap]

/-- The enforcer can be come by, it has links follow the rules, and its model declares `g`, whose
hierarchy compares names and domains as they are. -/
structure LinksPlainly (enforcer : Enforcer) : Prop where
  reachable : enforcer.Reachable
  builds : enforcer.config.buildsLinks = true
  declared : enforcer.model.isGroupingType "g" = true
  plain : ∃ h, enforcer.roster.find? "g" = some (.hierarchy h) ∧ h.IsPlain

/-- After a change that takes place, a role is held exactly if one of the rules stored now stands
for its link, whatever links there were before. -/
theorem LinksPlainly.hasRole_published (plainly : enforcer.LinksPlainly) (store : Store)
    (user role domain : String) :
    ∃ answer, (enforcer.published "g" (some store)).hasRole user role domain = .ok answer ∧
      (answer = true ↔ ∃ rule ∈ store.rules "g",
        Link.ofRule? rule = some ⟨user, role, domain⟩) := by
  obtain ⟨h, found, plain⟩ := plainly.plain
  have linked := find?_published plainly.reachable.isValid.seated plainly.builds found store
  exact hasRole_iff linked ⟨plain.names, plain.domains⟩ rfl user role domain

/-- A role can always be added, and unless it is there already the rule for it is stored behind all
others. -/
theorem LinksPlainly.addRole_cases (plainly : enforcer.LinksPlainly) (user role domain : String) :
    grantRule user role domain ∈ enforcer.store.rules "g" ∧
        (enforcer.addRole (.text user) (.text role) (.text domain)).result = .ok (enforcer, false) ∨
      grantRule user role domain ∉ enforcer.store.rules "g" ∧
      ∃ store, (enforcer.addRole (.text user) (.text role) (.text domain)).result =
          .ok (enforcer.published "g" (some store), true) ∧
        store.rules "g" = enforcer.store.rules "g" ++ [grantRule user role domain] := by
  have changed := plainly.reachable.isValid.changeGrouping_of_apply plainly.declared
    (Store.apply_add (ofValue_grant "g" user role domain))
  by_cases known : grantRule user role domain ∈ enforcer.store.rules "g"
  · -- A rule that is stored is not added.
    rw [if_pos known] at changed
    exact .inl ⟨known, changed⟩
  · -- A rule that is new is stored behind the others.
    rw [if_neg known] at changed
    exact .inr ⟨known, _, changed, Store.rules_publish_self _⟩

/-- A role can always be taken away, and the rule for it is the one that goes, if it is stored. -/
theorem LinksPlainly.deleteRoleOf_cases (plainly : enforcer.LinksPlainly)
    (user role domain : String) : grantRule user role domain ∉ enforcer.store.rules "g" ∧
        (enforcer.deleteRoleOf (.text user) (.text role) (.text domain)).result =
          .ok (enforcer, false) ∨
      grantRule user role domain ∈ enforcer.store.rules "g" ∧
      ∃ store, (enforcer.deleteRoleOf (.text user) (.text role) (.text domain)).result =
          .ok (enforcer.published "g" (some store), true) ∧
        store.rules "g" = (enforcer.store.rules "g").filter (· != grantRule user role domain) := by
  have changed := plainly.reachable.isValid.changeGrouping_of_apply plainly.declared
    (Store.apply_remove (ofValue_grant "g" user role domain))
  by_cases known : grantRule user role domain ∈ enforcer.store.rules "g"
  · -- A rule that is stored is taken out.
    rw [if_pos known] at changed
    exact .inr ⟨known, _, changed, Store.rules_publish_self _⟩
  · -- A rule that is not stored is not removed.
    rw [if_neg known] at changed
    exact .inl ⟨known, changed⟩

/-- A role can be given to any user, and is new if its rule is not stored yet; it is held right
after that under the names without the blanks at their ends, if it is new or if the links followed
the rules before. A role can be taken from any user, which has an effect if its rule is stored; then
exactly those roles are held right after that for which there is another rule. -/
theorem LinksPlainly.grant_and_revoke (plainly : enforcer.LinksPlainly)
    (user role domain : String) : (∃ granted isNew,
      (enforcer.addRole (.text user) (.text role) (.text domain)).result = .ok (granted, isNew) ∧
      (isNew = true ↔ grantRule user role domain ∉ enforcer.store.rules "g") ∧
      (isNew = true ∨ enforcer.Follows "g" →
        granted.hasRole (Text.trim user) (Text.trim role) (Text.trim domain) = .ok true)) ∧
    ∃ revoked isDone,
      (enforcer.deleteRoleOf (.text user) (.text role) (.text domain)).result =
        .ok (revoked, isDone) ∧
      (isDone = true ↔ grantRule user role domain ∈ enforcer.store.rules "g") ∧
      (isDone = true → ∀ member group inside, ∃ answer,
        revoked.hasRole member group inside = .ok answer ∧
        (answer = true ↔ ∃ rule ∈ enforcer.store.rules "g", rule ≠ grantRule user role domain ∧
          Link.ofRule? rule = some ⟨member, group, inside⟩)) := by
  refine ⟨?_, ?_⟩
  · rcases plainly.addRole_cases user role domain
      with ⟨known, added⟩ | ⟨fresh, store, added, stored⟩
    · -- Nothing is done, so the links have to be those of the rules already.
      refine ⟨enforcer, false, added, by simp [known], fun either => ?_⟩
      obtain ⟨h, found, plain⟩ := plainly.plain
      obtain ⟨own, present, graph⟩ := either.resolve_left Bool.false_ne_true
      obtain rfl : h = own := by simpa [found] using present
      obtain ⟨answer, asked, tells⟩ :=
        hasRole_iff found plain graph (Text.trim user) (Text.trim role)
        (Text.trim domain)
      rw [asked, tells.mpr ⟨_, known, ofRule?_grantRule user role domain⟩]
    · -- A new rule is stored, and the links are made of the rules again.
      obtain ⟨answer, asked, tells⟩ :=
        plainly.hasRole_published store (Text.trim user) (Text.trim role)
        (Text.trim domain)
      refine ⟨_, true, added, by simp [fresh], fun _ => ?_⟩
      have there : grantRule user role domain ∈ store.rules "g" := by simp [stored]
      rw [asked, tells.mpr ⟨_, there, ofRule?_grantRule user role domain⟩]
  · rcases plainly.deleteRoleOf_cases user role domain with
      ⟨absent, removed⟩ | ⟨known, store, removed, stored⟩
    · -- Nothing is done.
      exact ⟨enforcer, false, removed, by simp [absent], fun done => by cases done⟩
    · -- The rule is taken out, and the links are made of the rules again.
      refine ⟨_, true, removed, by simp [known], fun _ member group inside => ?_⟩
      obtain ⟨answer, asked, tells⟩ := plainly.hasRole_published store member group inside
      refine ⟨answer, asked, tells.trans ?_⟩
      -- The rules that are left are the others from before.
      simp [stored, and_assoc]

/-- An enforcer of the classic model that can be come by is one of these. -/
theorem IsClassic.linksPlainly {limit : Bound} (classic : enforcer.IsClassic limit)
    (reachable : enforcer.Reachable) : enforcer.LinksPlainly := by
  have declared : enforcer.model.isGroupingType "g" = true := classic.model ▸ rfl
  obtain ⟨h, found, _⟩ := classic.linked.follows "g" declared
  exact ⟨reachable, classic.linked.builds, declared, h, found, (classic.isPlain found).2⟩

/-- Without their links managers are as plain as before. -/
theorem LinksPlainly.unlinked (plainly : enforcer.LinksPlainly) :
    (enforcer.modifyManager "g" RoleManager.clear).LinksPlainly := by
  obtain ⟨h, found, plain⟩ := plainly.plain
  refine ⟨plainly.reachable.modified "g" .clear, plainly.builds, plainly.declared,
    { h with graph := .empty }, ?_, plain.names, plain.domains⟩
  simp [modifyManager, Roster.find?_modify plainly.reachable.isValid.seated, found,
    RoleManager.clear]

/-- An enforcer that is made of the classic model is one of these before and after any writes, and
its links follow its rules. -/
theorem exists_linksPlainly : ∃ start, (create .empty .default .classic).result = .ok start ∧
    ∀ writes, (start.writes writes).LinksPlainly ∧ (start.writes writes).Follows "g" := by
  obtain ⟨start, created⟩ := create_classic .empty .default
  have reachable := Reachable.of_default created
  have classic (writes : List Write) := (create_isClassic rfl rfl created).writes writes
  exact ⟨start, created, fun writes => ⟨(classic writes).linksPlainly (reachable.writes writes),
    (classic writes).linked.follows "g" ((classic writes).model ▸ rfl)⟩⟩

/-- Two rules that stand for one link. -/
def aliasWrites : List Write := [
  .grouping "g" (.add (.list [.text "alice", .text "admin"])),
  .grouping "g" (.add (.list [.text "alice", .text "admin", .text ""]))]

/-- Whether a role that is given is new, and whether it is held right after that by the names as
given. -/
def askedAfterGrant (enforcer : Enforcer) (user role domain : String) : Option (Bool × Bool) := do
  let (granted, isNew) ← (enforcer.addRole (.text user) (.text role) (.text domain)).result.toOption
  return (isNew, ← (granted.hasRole user role domain).toOption)

/-- Whether a role that is taken away was there, and whether it is held right after that all the
same. -/
def askedAfterRevoke (enforcer : Enforcer) (user role domain : String) : Option (Bool × Bool) := do
  let (revoked, isDone) ← (enforcer.deleteRoleOf (.text user) (.text role)
    (.text domain)).result.toOption
  return (isDone, ← (revoked.hasRole user role domain).toOption)

/-- An enforcer with these rules is one of those, and what it is asked after a change has these
answers. -/
theorem exists_aliasWrites : ∃ start, (create .empty .default .classic).result = .ok start ∧
    (∀ writes, (start.writes writes).LinksPlainly ∧ (start.writes writes).Follows "g") ∧
    (start.writes aliasWrites).store.rules "g" = [["alice", "admin"], ["alice", "admin", ""]] ∧
    start.askedAfterGrant "alice " "admin" "" = some (true, false) ∧
    (start.writes aliasWrites).askedAfterRevoke "alice" "admin" "" = some (true, true) ∧
    ((start.writes aliasWrites).modifyManager "g" RoleManager.clear).askedAfterGrant
      "alice" "admin" "" = some (false, false) := by
  obtain ⟨start, created, writes⟩ := exists_linksPlainly
  have evaluated : (create .empty .default .classic).result.toOption.map (fun start =>
      ((start.writes aliasWrites).store.rules "g", [start.askedAfterGrant "alice " "admin" "",
        (start.writes aliasWrites).askedAfterRevoke "alice" "admin" "",
        ((start.writes aliasWrites).modifyManager "g" RoleManager.clear).askedAfterGrant
          "alice" "admin" ""])) =
      some ([["alice", "admin"], ["alice", "admin", ""]], [some (true, false), some (true, true),
        some (false, false)]) := by
    rw [result_create_classic]
    decide +kernel
  rw [created] at evaluated
  obtain ⟨stored, answers⟩ := Prod.mk.inj (Option.some.inj evaluated)
  simp only [List.cons.injEq, and_true] at answers
  obtain ⟨blank, kept, unlinked⟩ := answers
  exact ⟨start, created, writes, stored, blank, kept, unlinked⟩

/-- A role that is there is held when it is given again, and when the first of its two rules is
taken away it is held by the other one. -/
theorem grant_and_revoke_alias :
    ∃ start, (create .empty .default .classic).result = .ok start ∧
      (start.writes aliasWrites).LinksPlainly ∧
      (∃ granted isNew,
        ((start.writes aliasWrites).addRole (.text "alice ") (.text "admin") (.text "")).result =
          .ok (granted, isNew) ∧ granted.hasRole "alice" "admin" "" = .ok true) ∧
      ∃ revoked, ((start.writes aliasWrites).deleteRoleOf
          (.text "alice ") (.text "admin") (.text "")).result = .ok (revoked, true) ∧
        revoked.hasRole "alice" "admin" "" = .ok true := by
  obtain ⟨start, created, writes, stored, _⟩ := exists_aliasWrites
  obtain ⟨plainly, follows⟩ := writes aliasWrites
  obtain ⟨⟨granted, isNew, added, _, held⟩, revoked, isDone, removed, wasThere, left⟩ :=
    plainly.grant_and_revoke "alice " "admin" ""
  have there : grantRule "alice " "admin" "" = ["alice", "admin"] := by decide
  obtain rfl : isDone = true := wasThere.mpr (by simp [stored, there])
  obtain ⟨answer, asked, tells⟩ := left rfl "alice" "admin" ""
  have byOther : answer = true := by
    rw [tells, stored, there]
    exact ⟨["alice", "admin", ""], by simp, by decide, rfl⟩
  exact ⟨start, created, plainly, ⟨granted, isNew, added, held (.inr follows)⟩, revoked, removed,
    byOther ▸ asked⟩

/-- A role that is given to a name with a blank at its end is not held by the name as it was given.
A role with two rules is held after one of them is taken away. A role whose rule is stored is not
held when it is given again if its link was taken out of the manager. -/
theorem not_held_as_given :
    ∃ start, (create .empty .default .classic).result = .ok start ∧
      start.LinksPlainly ∧ start.askedAfterGrant "alice " "admin" "" = some (true, false) ∧
      (start.writes aliasWrites).LinksPlainly ∧
      (start.writes aliasWrites).askedAfterRevoke "alice" "admin" "" = some (true, true) ∧
      ((start.writes aliasWrites).modifyManager "g" RoleManager.clear).LinksPlainly ∧
      ((start.writes aliasWrites).modifyManager "g" RoleManager.clear).askedAfterGrant
        "alice" "admin" "" = some (false, false) := by
  obtain ⟨start, created, writes, _, blank, kept, unlinked⟩ := exists_aliasWrites
  exact ⟨start, created, (writes []).1, blank, (writes aliasWrites).1, kept,
    (writes aliasWrites).1.unlinked, unlinked⟩

end Enforcer

end AccessControl
