import AccessControl.Proofs.Enforcer.Membership

/-! The roles of a user in a domain are deleted by the third field of their rules, and linked by the
last one: both are the same for rules of three fields at most. -/

namespace AccessControl

/-- The rule begins with the user and has the domain as its third field. -/
def Rule.isRoleIn (user domain : String) (rule : Rule) : Bool :=
  rule[0]? == some user && rule[2]? == some domain

/-- A filter on a user and a domain, and on no role between them, passes such rules. -/
theorem Rule.matchesFilter_roleIn (rule : Rule) {user domain : String} (named : user ≠ "")
    (inside : domain ≠ "") :
    rule.matchesFilter 0 [.text user, .text "", .text domain] =
      .ok (rule.isRoleIn user domain) := by
  have ofUser : (user == "") = false := by simpa using named
  have ofDomain : (domain == "") = false := by simpa using inside
  simpa [ofUser, ofDomain, Rule.isRoleIn] using rule.matchesFilter_texts 0 [user, "", domain]

/-- A rule of three fields at most stands for a link in a domain exactly if that is its third
field. -/
theorem Rule.third_of_link {rule : Rule} (short : rule.length ≤ 3) {link : Link}
    (linked : Link.ofRule? rule = some link) (inside : link.domain ≠ "") :
    rule[2]? = some link.domain := by
  match rule, linked with
  | [_, _], linked =>
    -- Two fields link in the empty domain.
    obtain rfl := Option.some.inj linked
    exact absurd rfl inside
  | [_, _, third], linked =>
    obtain rfl := Option.some.inj linked
    rfl
  | _ :: _ :: _ :: _ :: _, _ =>
    simp only [List.length_cons] at short
    omega

/-- A rule of three fields at most links its first field within its third one alone. -/
theorem Rule.domain_of_third {rule : Rule} (short : rule.length ≤ 3) {domain : String}
    (third : rule[2]? = some domain) {link : Link} (linked : Link.ofRule? rule = some link) :
    link.domain = domain := by
  match rule, linked with
  -- Two fields are too few.
  | [_, _], _ => simp at third
  -- The third of three fields is the domain.
  | [_, _, last], linked =>
    obtain rfl := Option.some.inj linked
    simpa using third
  -- Four fields are too many.
  | _ :: _ :: _ :: _ :: _, _ =>
    simp only [List.length_cons] at short
    omega

/-- A rule that stands for a link begins with its member. -/
theorem Rule.first_of_link {rule : Rule} {link : Link} (linked : Link.ofRule? rule = some link) :
    rule[0]? = some link.member := by
  match rule, linked with
  | _ :: _ :: _, linked =>
    obtain rfl := Option.some.inj linked
    rfl

namespace Enforcer

variable {enforcer changed : Enforcer} {rules : List Rule} {user domain : String}

/-- The roles that are held are those of the links that the rules stand for. -/
def HasRoles (enforcer : Enforcer) (rules : List Rule) : Prop :=
  ∀ member domain, ∃ roles, enforcer.rolesOf member domain = .ok roles ∧
    ∀ role, role ∈ roles ↔ ∃ rule ∈ rules, Link.ofRule? rule = some ⟨member, role, domain⟩

/-- A name has the same roles in a domain as it had before. -/
def KeepsRoles (enforcer changed : Enforcer) (member domain : String) : Prop :=
  ∃ before after, enforcer.rolesOf member domain = .ok before ∧
    changed.rolesOf member domain = .ok after ∧ ∀ role, role ∈ after ↔ role ∈ before

/-- The roles are those of the rules that the hierarchy of `g` follows. -/
theorem hasRoles_of_graph {h : Hierarchy} (found : enforcer.roster.find? "g" = some (.hierarchy h))
    (plain : h.IsPlain) (graph : h.graph = .ofLinks (Link.ofRules rules)) :
    enforcer.HasRoles rules := by
  intro member domain
  obtain ⟨groups, listed, exactly⟩ := plain.roles_ofLinks graph member domain
  refine ⟨groups, ?_, fun role => ?_⟩
  · -- The groups of the only manager are listed.
    simp only [rolesOf, manager_eq_ok.mpr found, ok_bind, RoleManager.roles, listed]
  · -- They are those of the links.
    rw [exactly, Link.ofRules, List.mem_filterMap]

/-- Links that follow the stored rules give their roles. -/
theorem LinksPlainly.hasRoles_of_follows (plainly : enforcer.LinksPlainly)
    (follows : enforcer.Follows "g") : enforcer.HasRoles (enforcer.store.rules "g") := by
  obtain ⟨h, found, plain⟩ := plainly.plain
  obtain ⟨own, present, graph⟩ := follows
  obtain rfl : h = own := by simpa [found] using present
  exact hasRoles_of_graph found plain graph

/-- After a change that takes place the roles are those of the rules that are stored now. -/
theorem LinksPlainly.hasRoles_published (plainly : enforcer.LinksPlainly) (store : Store) :
    (enforcer.published "g" (some store)).HasRoles (store.rules "g") := by
  obtain ⟨h, found, plain⟩ := plainly.plain
  have linked := find?_published plainly.reachable.isValid.seated plainly.builds found store
  exact hasRoles_of_graph linked ⟨plain.names, plain.domains⟩ rfl

/-- A name keeps its roles in a domain if all rules that stand for them are kept. -/
theorem HasRoles.keepsRoles {kept : Rule → Bool} (before : enforcer.HasRoles rules)
    (after : changed.HasRoles (rules.filter kept)) {member domain : String}
    (keeps : ∀ rule ∈ rules, ∀ role, Link.ofRule? rule = some ⟨member, role, domain⟩ →
      kept rule = true) :
    enforcer.KeepsRoles changed member domain := by
  obtain ⟨had, listed, exactly⟩ := before member domain
  obtain ⟨has, listedNow, exactlyNow⟩ := after member domain
  refine ⟨had, has, listed, listedNow, fun role => ?_⟩
  -- Both lists hold the roles of rules, of which those that stand for a link are the same.
  rw [exactly, exactlyNow]
  constructor
  · rintro ⟨rule, stored, linked⟩
    exact ⟨rule, List.mem_of_mem_filter stored, linked⟩
  · rintro ⟨rule, stored, linked⟩
    exact ⟨rule, List.mem_filter.mpr ⟨stored, keeps rule stored role linked⟩, linked⟩

/-- The roles of a user in a domain can always be deleted, and the rules that go are those that
begin with the user and have the domain as their third field. -/
theorem LinksPlainly.deleteRolesIn_cases (plainly : enforcer.LinksPlainly) (named : user ≠ "")
    (inside : domain ≠ "") :
    ∃ changed isDone,
      (enforcer.deleteRolesIn (.text user) (.text domain)).result = .ok (changed, isDone) ∧
      (isDone = true ↔ ∃ rule ∈ enforcer.store.rules "g", rule.isRoleIn user domain = true) ∧
      (isDone = true ∨ enforcer.Follows "g" → changed.HasRoles
        ((enforcer.store.rules "g").filter fun rule => !rule.isRoleIn user domain)) := by
  obtain ⟨stored, applied, done, left⟩ :=
      enforcer.store.apply_removeFiltered_passes enforcer.host.toRuntime
      "g"
    (by simp) fun rule => rule.matchesFilter_roleIn named inside
  have removed := plainly.reachable.isValid.changeGrouping_of_apply plainly.declared applied
  refine ⟨_, _, removed, done, fun either => ?_⟩
  have now := left "g"
  rw [if_pos rfl] at now
  rw [← now]
  cases stored with
  -- Nothing is removed, so the links have to be those of the rules already.
  | none => exact plainly.hasRoles_of_follows (either.resolve_left Bool.false_ne_true)
  -- The links are made of the rules that are left.
  | some store => exact plainly.hasRoles_published store

/-- The roles of a user in a domain can always be deleted. This removes the grouping rules that
begin with the user and have the domain as their third field, if there are any. After that, or if
the links followed the rules before, the roles are those of the rules that are left, and the user
has none in the domain exactly if all rules for such roles had it as their third field. If the links
followed the rules before, all other names keep their roles. If besides no rule of the user has more
than three fields, the user has no role in the domain and keeps those in all others. -/
theorem LinksPlainly.deleteRolesIn_leaves (plainly : enforcer.LinksPlainly) (named : user ≠ "")
    (inside : domain ≠ "") :
    ∃ changed isDone,
      (enforcer.deleteRolesIn (.text user) (.text domain)).result = .ok (changed, isDone) ∧
      (isDone = true ↔ ∃ rule ∈ enforcer.store.rules "g", rule.isRoleIn user domain = true) ∧
      (isDone = true ∨ enforcer.Follows "g" →
        changed.HasRoles ((enforcer.store.rules "g").filter fun rule =>
          !rule.isRoleIn user domain) ∧
        (changed.rolesOf user domain = .ok [] ↔ ∀ rule ∈ enforcer.store.rules "g", ∀ role,
          Link.ofRule? rule = some ⟨user, role, domain⟩ → rule[2]? = some domain)) ∧
      (enforcer.Follows "g" → ∀ member inner, member ≠ user →
        enforcer.KeepsRoles changed member inner) ∧
      (enforcer.Follows "g" →
        (∀ rule ∈ enforcer.store.rules "g", rule[0]? = some user → rule.length ≤ 3) →
        changed.rolesOf user domain = .ok [] ∧
          ∀ inner, inner ≠ domain → enforcer.KeepsRoles changed user inner) := by
  obtain ⟨changed, isDone, removed, done, has⟩ := plainly.deleteRolesIn_cases named inside
  -- What goes begins with the user and has the domain as its third field.
  have goes {rule : Rule} (gone : ¬ (!rule.isRoleIn user domain) = true) :
      rule[0]? = some user ∧ rule[2]? = some domain := by
    simpa [Rule.isRoleIn] using gone
  have emptied (either : isDone = true ∨ enforcer.Follows "g") :
      changed.rolesOf user domain = .ok [] ↔ ∀ rule ∈ enforcer.store.rules "g", ∀ role,
        Link.ofRule? rule = some ⟨user, role, domain⟩ → rule[2]? = some domain := by
    obtain ⟨roles, listed, exactly⟩ := has either user domain
    rw [listed, Except.ok.injEq, List.eq_nil_iff_forall_not_mem]
    constructor
    · -- A rule that stands for a role of the user would be left if it had another third field.
      intro none rule stored role linked
      by_contra other
      refine none role ((exactly role).mpr ⟨rule, List.mem_filter.mpr ⟨stored, ?_⟩, linked⟩)
      simp [Rule.isRoleIn, other]
    · -- What is left would be removed.
      intro third role member
      obtain ⟨rule, kept, linked⟩ := (exactly role).mp member
      obtain ⟨stored, left⟩ := List.mem_filter.mp kept
      simp [Rule.isRoleIn, third rule stored role linked, Rule.first_of_link linked] at left
  refine ⟨changed, isDone, removed, done, fun either => ⟨has either, emptied either⟩,
    fun follows member inner other => ?_, fun follows short => ⟨?_, fun inner outside => ?_⟩⟩
  · -- Of another member no rule goes.
    refine (plainly.hasRoles_of_follows follows).keepsRoles (has (.inr follows)) ?_
    intro rule stored role linked
    by_contra gone
    exact other (Option.some.inj ((Rule.first_of_link linked).symm.trans (goes gone).1))
  · -- A short rule of the user has the domain as its third field.
    refine (emptied (.inr follows)).mpr fun rule stored role linked => ?_
    exact Rule.third_of_link (short rule stored (Rule.first_of_link linked)) linked inside
  · refine (plainly.hasRoles_of_follows follows).keepsRoles (has (.inr follows)) ?_
    -- Within three fields a rule that goes links in the domain alone.
    intro rule stored role linked
    by_contra gone
    obtain ⟨first, third⟩ := goes gone
    exact outside (Rule.domain_of_third (short rule stored first) third linked)

/-- Roles of two users in two domains. -/
def domainWrites : List Write := [
  .grouping "g" (.addMany (.list [
    .list [.text "alice", .text "admin", .text "acme"], .list
    [.text "alice", .text "staff", .text "acme"],
    .list [.text "alice", .text "staff", .text "globex"], .list
    [.text "bob", .text "admin", .text "acme"]]))]

/-- The one user has no role left in the one domain, and keeps that in the other, as does the other
user. -/
theorem deleteRolesIn_leaves_staff :
    ∃ start, (create .empty .default .classic).result = .ok start ∧
      (start.writes domainWrites).LinksPlainly ∧ "alice" ≠ "" ∧ "acme" ≠ "" ∧
      ∃ changed isDone,
        ((start.writes domainWrites).deleteRolesIn (.text "alice") (.text "acme")).result =
          .ok (changed, isDone) ∧
        isDone = true ∧ changed.rolesOf "alice" "acme" = .ok [] ∧
        (start.writes domainWrites).KeepsRoles changed "alice" "globex" ∧
        (start.writes domainWrites).KeepsRoles changed "bob" "acme" := by
  obtain ⟨start, created, writes⟩ := exists_linksPlainly
  obtain ⟨plainly, follows⟩ := writes domainWrites
  have evaluated : (create .empty .default .classic).result.toOption.map (fun start =>
      (start.writes domainWrites).store.rules "g") =
      some [["alice", "admin", "acme"], ["alice", "staff", "acme"], ["alice", "staff", "globex"],
        ["bob", "admin", "acme"]] := by
    rw [result_create_classic]
    decide +kernel
  rw [created] at evaluated
  have stored := Option.some.inj evaluated
  have named : "alice" ≠ "" := by decide
  have inside : "acme" ≠ "" := by decide
  obtain ⟨changed, isDone, removed, done, _, others, full⟩ :=
    plainly.deleteRolesIn_leaves named inside
  simp only [stored] at done full
  obtain ⟨emptied, keeps⟩ := full follows (by decide)
  exact ⟨start, created, plainly, named, inside, changed, isDone, removed,
    done.mpr (by decide), emptied,
    keeps "globex" (by decide), others follows "bob" "acme" (by decide)⟩

/-- The classic model with grouping rules of four fields. -/
def wideModel : Model := { Model.classic with roles := [("g", ⟨"g", 4, by decide⟩)] }

/-- The roles of a user in two domains, before those in the first one are deleted and after that,
where one rule is stored. -/
def rolesAround (rule : Rule) (user first second : String) :
    Option ((List String × List String) × List String × List String) := do
  let start ← (create .empty .default wideModel).result.toOption
  let (linked, _) ← (start.changeGrouping "g" (.add (.list (rule.map .text)))).result.toOption
  let (changed, _) ← (linked.deleteRolesIn (.text user) (.text first)).result.toOption
  return ((← (linked.rolesOf user first).toOption, ← (linked.rolesOf user second).toOption),
    ← (changed.rolesOf user first).toOption, ← (changed.rolesOf user second).toOption)

/-- A role in a domain that is the last of four fields is not deleted with those in this domain, and
it is deleted with those in the domain of the third field. -/
theorem deleteRolesIn_misses :
    rolesAround ["alice", "admin", "acme", "globex"] "alice" "globex" "acme" =
        some ((["admin"], []), ["admin"], []) ∧
      rolesAround ["alice", "admin", "acme", "globex"] "alice" "acme" "globex" =
        some (([], ["admin"]), [], []) := by
  simp only [rolesAround, @result_create _ wideModel _ rfl readMatchers_classic]
  decide +kernel

end Enforcer

end AccessControl
