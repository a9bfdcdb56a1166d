import AccessControl.Proofs.Enforcer.Grant
import AccessControl.Proofs.Enforcer.Validity
import AccessControl.Proofs.Role.Closure

/-! Permissions as they are listed and as they are enforced: the list goes on through all roles, and
a decision through as many of them as the limit allows. -/

namespace AccessControl

namespace Enforcer

/-- A user has a role by so many memberships in a row, all of them direct; by none of them,
itself. -/
def Inherits (enforcer : Enforcer) (length : Nat) (user role : String) : Prop :=
  Walk (fun member group => ∃ groups, enforcer.rolesOf member "" = .ok groups ∧ group ∈ groups)
    length user role

variable {enforcer : Enforcer} {h : Hierarchy}

/-! ### Roles -/

/-- Memberships are the steps of the hierarchy of `g`. -/
theorem inherits_eq (found : enforcer.roster.find? "g" = some (.hierarchy h)) :
    enforcer.Inherits = Walk (h.Steps "") := by
  have listed (member : String) : enforcer.rolesOf member "" = h.roles member "" := by
    simp only [rolesOf, manager_eq_ok.mpr found, ok_bind, RoleManager.roles]
  funext length user role
  simp only [Inherits, listed]
  rfl

/-- The hierarchy of `g` links a user to the roles that no more memberships than its limit lead
to. -/
theorem hasLink_iff_inherits (found : enforcer.roster.find? "g" = some (.hierarchy h))
    (plain : h.IsPlain) {most : Nat} (counted : h.limit.count = .ok most) (user role : String) :
    ∃ answer, h.hasLink user role "" = .ok answer ∧
      (answer = true ↔ ∃ length ≤ most, enforcer.Inherits length user role) := by
  have steps : h.Steps "" = h.graph.roles.Has "" := by
    funext member group
    exact propext plain.steps_iff
  obtain ⟨answer, asked, tells⟩ := plain.hasLink_eq_ok counted user role ""
  rw [inherits_eq found, steps]
  refine ⟨answer, asked, tells.trans ?_⟩
  -- A user is linked to itself by no membership at all.
  constructor
  · rintro (rfl | ⟨length, _, bounded, walk⟩)
    · -- The user is the role.
      exact ⟨0, Nat.zero_le _, .here user⟩
    · -- There is a walk to the role.
      exact ⟨length, bounded, walk⟩
  · rintro ⟨length, bounded, walk⟩
    cases walk with
    -- A walk without steps does not leave the user.
    | here => exact .inl rfl
    -- Any other walk has a first step.
    | @onward length name next final first rest =>
      exact .inr ⟨length + 1, Nat.succ_le_succ (Nat.zero_le _), bounded, .onward first rest⟩

/-- A user and the listed roles of that user are what memberships lead to, however many. -/
theorem implicitRolesOf_total (found : enforcer.roster.find? "g" = some (.hierarchy h))
    (plain : h.IsPlain) (user : String) :
    ∃ roles, enforcer.implicitRolesOf user "" = .ok roles ∧
      ∀ role, role ∈ user :: roles ↔ ∃ length, enforcer.Inherits length user role := by
  obtain ⟨roles, listed, exactly⟩ := Hierarchy.implicitRoles_total plain.isTotal user ""
  refine ⟨roles, ?_, fun role => ?_⟩
  · -- The groups of the only manager are listed.
    simp only [implicitRolesOf, manager_eq_ok.mpr found, ok_bind, RoleManager.implicitRoles, listed]
  · rw [List.mem_cons, exactly, inherits_eq found]
    constructor
    · -- The user is its own role.
      rintro (rfl | ⟨_, reached⟩)
      · exact ⟨0, .here role⟩
      · -- The role is reached.
        exact reached
    · intro reached
      -- The role is the user.
      by_cases same : role = user
      · exact .inl same
      · -- The role is another one.
        exact .inr ⟨same, reached⟩

/-! ### Lists of permissions -/

/-- The permissions of a subject are the rules whose first field it is; without a name it has all
rules. -/
theorem permissionsOf_classic (model : enforcer.model = .classic) (subject : String) :
    enforcer.permissionsOf "p" subject "" =
      .ok ((enforcer.store.rules "p").filter fun rule =>
        subject == "" || rule[0]? == some subject) := by
  have place : enforcer.subjectPosition "p" = 0 := by
    simp only [subjectPosition, position, model]
    rfl
  have passing : enforcer.store.filter "p" 0 [.text subject] =
      .ok ((enforcer.store.rules "p").filter fun rule =>
        subject == "" || rule[0]? == some subject) :=
    Store.select_eq_filter (fun rule => Rule.matchesFilter_text rule 0 subject) _
  simp only [permissionsOf, place, Int.ofNat_zero, passing, ok_bind]
  rfl

/-- The permissions that are listed for a user are those of all subjects that memberships lead
to. -/
theorem implicitPermissionsOf_classic (model : enforcer.model = .classic)
    (found : enforcer.roster.find? "g" = some (.hierarchy h)) (plain : h.IsPlain) (user : String) :
    ∃ rules, enforcer.implicitPermissionsOf user "" = .ok rules ∧
      ∀ rule, rule ∈ rules ↔ rule ∈ enforcer.store.rules "p" ∧
        ∃ length subject, enforcer.Inherits length user subject ∧
          (subject = "" ∨ rule[0]? = some subject) := by
  obtain ⟨roles, listed, reached⟩ := implicitRolesOf_total found plain user
  obtain ⟨lists, given, exactly⟩ := Hierarchy.mapM_total
    (fun subject => enforcer.permissionsOf "p" subject "") (user :: roles)
    fun subject _ => ⟨_, permissionsOf_classic model subject⟩
  -- Leaving out repetitions does not change what is listed.
  refine ⟨Text.distinct lists.flatten, ?_, fun rule => ?_⟩
  · -- The rules are those of the user and of all its roles.
    simp only [implicitPermissionsOf, listed, ok_bind, given]
    rfl
  · simp only [Text.mem_distinct, List.mem_flatten, exactly, permissionsOf_classic model]
    constructor
    · -- The rule is listed for a subject that the user is or inherits.
      rintro ⟨rules, ⟨subject, member, same⟩, inRules⟩
      obtain rfl := Except.ok.inj same
      obtain ⟨stored, passes⟩ := List.mem_filter.mp inRules
      obtain ⟨length, inherits⟩ := (reached subject).mp member
      exact ⟨stored, length, subject, inherits, by simpa using passes⟩
    · -- A rule for such a subject is listed for it.
      rintro ⟨stored, length, subject, inherits, passes⟩
      have member := (reached subject).mpr ⟨length, inherits⟩
      exact ⟨_, ⟨subject, member, rfl⟩, List.mem_filter.mpr ⟨stored, by simpa using passes⟩⟩

/-! ### Lists and decisions -/

/-- What can be come by, with the classic model and switched on, runs it. -/
theorem Reachable.runsClassic (reachable : enforcer.Reachable) (model : enforcer.model = .classic)
    (enabled : enforcer.enabled.isTrue = true) : enforcer.RunsClassic := by
  have read := reachable.isValid.matchers
  rw [model] at read
  exact ⟨model, Except.ok.inj (read.symm.trans readMatchers_classic), enabled⟩

/-- Decisions are about the rules of the subjects that no more memberships than the limit lead
to. -/
theorem enforce_iff_inherits (reachable : enforcer.Reachable) (model : enforcer.model = .classic)
    (enabled : enforcer.enabled.isTrue = true)
    (found : enforcer.roster.find? "g" = some (.hierarchy h)) (plain : h.IsPlain) {most : Nat}
    (counted : h.limit.count = .ok most) (user object action : String) :
    ∃ allowed,
      (enforcer.enforce [.text user, .text object, .text action]).result = .ok allowed ∧
        (allowed = true ↔ ∃ rule ∈ enforcer.store.rules "p",
          rule.cell 1 = object ∧ rule.cell 2 = action ∧
            ∃ length ≤ most, enforcer.Inherits length user (rule.cell 0)) := by
  -- Matchers ask the hierarchy that memberships are listed by.
  obtain ⟨linked, tells⟩ := Classical.skolem.mp (hasLink_iff_inherits found plain counted user)
  have called := reachable.knowsSeats.function?_of_find? found
  obtain ⟨allowed, enforced, exactly⟩ := (reachable.runsClassic model enabled).enforce called
    (fun role => (tells role).1) object action
  simp only [(tells _).2] at exactly
  exact ⟨allowed, enforced, exactly⟩

/-- In the classic model a user is allowed what a listed permission grants whose subject the user
has as a role by no more memberships than the limit. If all subjects that memberships lead to have
names and are within the limit, a user is allowed just what the listed permissions grant. -/
theorem enforce_iff_listed {most : Nat} (reachable : enforcer.Reachable)
    (model : enforcer.model = .classic) (enabled : enforcer.enabled.isTrue = true)
    (found : enforcer.roster.find? "g" = some (.hierarchy h)) (plain : h.IsPlain)
    (counted : h.limit.count = .ok most) (user object action : String) :
    ∃ allowed rules,
      (enforcer.enforce [.text user, .text object, .text action]).result = .ok allowed ∧
      enforcer.implicitPermissionsOf user "" = .ok rules ∧
      (allowed = true ↔ ∃ rule ∈ rules, rule.cell 1 = object ∧ rule.cell 2 = action ∧
        ∃ length ≤ most, enforcer.Inherits length user (rule.cell 0)) ∧
      ((∀ length role, enforcer.Inherits length user role →
          role ≠ "" ∧ ∃ shorter ≤ most, enforcer.Inherits shorter user role) →
        (allowed = true ↔ ∃ rule ∈ rules, rule.cell 1 = object ∧ rule.cell 2 = action)) := by
  obtain ⟨allowed, enforced, tells⟩ :=
    enforce_iff_inherits reachable model enabled found plain counted user object action
  obtain ⟨rules, listed, exactly⟩ := implicitPermissionsOf_classic model found plain user
  have within : allowed = true ↔ ∃ rule ∈ rules, rule.cell 1 = object ∧ rule.cell 2 = action ∧
      ∃ length ≤ most, enforcer.Inherits length user (rule.cell 0) := by
    rw [tells]
    constructor
    · -- A rule is listed for its own subject, and one without a subject for the empty name.
      rintro ⟨rule, stored, sameObject, sameAction, length, bounded, inherits⟩
      have subject : rule.cell 0 = "" ∨ rule[0]? = some (rule.cell 0) := by
        cases field : rule[0]? <;> simp [Rule.cell, field]
      exact ⟨rule, (exactly rule).mpr ⟨stored, length, _, inherits, subject⟩,
        sameObject, sameAction, length, bounded, inherits⟩
    · -- A rule that is listed is stored.
      rintro ⟨rule, member, granted⟩
      exact ⟨rule, ((exactly rule).mp member).1, granted⟩
  refine ⟨allowed, rules, enforced, listed, within, fun near => within.trans ?_⟩
  constructor
  · -- What is allowed has a rule that is listed.
    rintro ⟨rule, member, sameObject, sameAction, _⟩
    exact ⟨rule, member, sameObject, sameAction⟩
  · rintro ⟨rule, member, sameObject, sameAction⟩
    -- A listed rule has a subject with a name, and it is the one that the rule was listed for.
    obtain ⟨_, length, subject, inherits, field⟩ := (exactly rule).mp member
    obtain ⟨named, bounded⟩ := near length subject inherits
    have own : rule.cell 0 = subject := by
      simp [Rule.cell, field.resolve_left named]
    exact ⟨rule, member, sameObject, sameAction, own ▸ bounded⟩

/-! ### Roles in a row -/

/-- A rule for everyone, the staff as a part of that, and one who is of the staff. -/
def staffWrites : List Write := [
  .policy "p" (.add (.list [.text "everyone", .text "data", .text "read"])),
  .grouping "g" (.add (.list [.text "alice", .text "staff"])),
  .grouping "g" (.add (.list [.text "staff", .text "everyone"]))]

/-- Settings that do not switch an enforcer off make one of the classic model that can be come by,
with the limit that is set. -/
theorem exists_classic [Host] {settings : List (String × Value)} {config : Config}
    (configured : Config.create settings = .ok config) (builds : config.buildsLinks = true)
    (enabled : config.enabled.isTrue = true) (writes : List Write) :
    ∃ start h, (create .empty config .classic).result = .ok start ∧
      (start.writes writes).Reachable ∧
      (start.writes writes).model = .classic ∧ (start.writes writes).enabled.isTrue = true ∧
      (start.writes writes).roster.find? "g" = some (.hierarchy h) ∧ h.IsPlain ∧
      h.limit = config.maxHierarchyLevel := by
  obtain ⟨start, created⟩ := create_classic .empty config
  have classic := (create_isClassic builds enabled created).writes writes
  obtain ⟨h, found, _⟩ := classic.linked.follows "g" (by rw [classic.model]; rfl)
  obtain ⟨limit, plain⟩ := classic.isPlain found
  exact ⟨start, h, created, (Reachable.created configured created).writes writes, classic.model,
    classic.enabled, found, plain, limit⟩

/-- Both roles in a row are within the limit, and what is listed for them is allowed. -/
theorem enforce_iff_listed_staff :
    ∃ start h, (create .empty .default .classic).result = .ok start ∧
      (start.writes staffWrites).Reachable ∧ (start.writes staffWrites).model = .classic ∧
      (start.writes staffWrites).enabled.isTrue = true ∧
      (start.writes staffWrites).roster.find? "g" = some (.hierarchy h) ∧ h.IsPlain ∧
      h.limit.count = .ok 10 ∧
      (∀ length role, (start.writes staffWrites).Inherits length "alice" role →
        role ≠ "" ∧ ∃ shorter ≤ 10, (start.writes staffWrites).Inherits shorter "alice" role) ∧
      ((start.writes staffWrites).enforce [.text "alice", .text "data", .text "read"]).result =
        .ok true ∧
      ∃ rules, (start.writes staffWrites).implicitPermissionsOf "alice" "" = .ok rules ∧
        ∃ rule ∈ rules, rule.cell 1 = "data" ∧ rule.cell 2 = "read" := by
  obtain ⟨start, h, created, reachable, model, enabled, found, plain, limit⟩ :=
    exists_classic (by rfl : Config.create [] = .ok .default) rfl rfl staffWrites
  have counted : h.limit.count = .ok 10 := by
    rw [limit]
    rfl
  have evaluated : (create .empty .default .classic).result.toOption.map (fun start =>
      (((start.writes staffWrites).enforce
        [.text "alice", .text "data", .text "read"]).result.toOption,
        ((start.writes staffWrites).rolesOf "alice" "").toOption,
        ((start.writes staffWrites).rolesOf "staff" "").toOption,
        ((start.writes staffWrites).rolesOf "everyone" "").toOption)) =
      some (some true, some ["staff"], some ["everyone"], some []) := by
    rw [result_create_classic]
    decide +kernel
  rw [created] at evaluated
  obtain ⟨granted, evaluated⟩ := Prod.mk.inj (Option.some.inj evaluated)
  obtain ⟨alice, evaluated⟩ := Prod.mk.inj evaluated
  obtain ⟨staff, everyone⟩ := Prod.mk.inj evaluated
  rw [toOption_eq_some] at granted alice staff everyone
  have near : ∀ length role, (start.writes staffWrites).Inherits length "alice" role →
      role ≠ "" ∧ ∃ shorter ≤ 10, (start.writes staffWrites).Inherits shorter "alice" role := by
    intro length role walk
    cases walk with
    | here => exact ⟨by decide, 0, by omega, .here _⟩
    | onward first rest =>
      obtain ⟨groups, listed, member⟩ := first
      obtain rfl : ["staff"] = groups := Except.ok.inj (alice.symm.trans listed)
      obtain rfl := List.mem_singleton.mp member
      cases rest with
      | here => exact ⟨by decide, 1, by omega, .onward ⟨_, alice, member⟩ (.here _)⟩
      | onward second rest =>
        obtain ⟨groups, listed, inside⟩ := second
        obtain rfl : ["everyone"] = groups := Except.ok.inj (staff.symm.trans listed)
        obtain rfl := List.mem_singleton.mp inside
        cases rest with
        | here =>
          exact ⟨by decide, 2, by omega,
            .onward ⟨_, alice, member⟩ (.onward ⟨_, staff, inside⟩ (.here _))⟩
        | onward third rest =>
          -- Nothing is a role of everyone.
          obtain ⟨groups, listed, none⟩ := third
          obtain rfl : [] = groups := Except.ok.inj (everyone.symm.trans listed)
          cases none
  obtain ⟨allowed, rules, enforced, listed, _, exactly⟩ :=
    enforce_iff_listed reachable model enabled found plain counted "alice" "data" "read"
  obtain rfl : true = allowed := Except.ok.inj (granted.symm.trans enforced)
  exact ⟨start, h, created, reachable, model, enabled, found, plain, counted, near, granted,
    rules, listed, (exactly near).mp rfl⟩

/-- A configuration that allows for one membership. -/
def oneStep : Config :=
  { Config.default with maxHierarchyLevel := .whole 1 }

/-- Behind the limit of one membership a permission is listed and not allowed. One without a name is
allowed nothing, and has the permissions of everyone listed. -/
theorem listed_not_enforced :
    ∃ start h, Config.create [("max_hierarchy_level", .int 1)] = .ok oneStep ∧
      oneStep.buildsLinks = true ∧ (create .empty oneStep .classic).result = .ok start ∧
      (start.writes staffWrites).Reachable ∧ (start.writes staffWrites).model = .classic ∧
      (start.writes staffWrites).enabled.isTrue = true ∧
      (start.writes staffWrites).roster.find? "g" = some (.hierarchy h) ∧ h.IsPlain ∧
      ∀ user ∈ ["alice", ""], ¬ ∃ allowed rules,
        ((start.writes staffWrites).enforce [.text user, .text "data", .text "read"]).result =
          .ok allowed ∧
        (start.writes staffWrites).implicitPermissionsOf user "" = .ok rules ∧
        (allowed = true ↔ ∃ rule ∈ rules, rule.cell 1 = "data" ∧ rule.cell 2 = "read") := by
  have configured : Config.create [("max_hierarchy_level", .int 1)] = .ok oneStep := rfl
  obtain ⟨start, h, created, reachable, model, enabled, found, plain, _⟩ :=
    exists_classic configured rfl rfl staffWrites
  have evaluated : (create .empty oneStep .classic).result.toOption.map (fun start =>
      ["alice", ""].map fun user =>
        (((start.writes staffWrites).enforce
          [.text user, .text "data", .text "read"]).result.toOption,
          ((start.writes staffWrites).implicitPermissionsOf user "").toOption)) =
      some [(some false, some [["everyone", "data", "read"]]),
        (some false, some [["everyone", "data", "read"]])] := by
    rw [result_create_classic]
    decide +kernel
  rw [created] at evaluated
  have answers : ∀ user ∈ ["alice", ""],
      ((start.writes staffWrites).enforce [.text user, .text "data", .text "read"]).result =
      .ok false ∧
        (start.writes staffWrites).implicitPermissionsOf user "" =
        .ok [["everyone", "data", "read"]] := by
    have both := Option.some.inj evaluated
    simp only [List.map_cons, List.map_nil, List.cons.injEq, Prod.mk.injEq,
      toOption_eq_some] at both
    obtain ⟨alice, unnamed, _⟩ := both
    intro user asked
    rcases List.mem_cons.mp asked with rfl | asked
    · exact alice
    · obtain rfl := List.mem_singleton.mp asked
      exact unnamed
  refine ⟨start, h, configured, rfl, created, reachable, model, enabled, found, plain, ?_⟩
  rintro user asked ⟨allowed, rules, enforced, given, exactly⟩
  obtain ⟨refused, listed⟩ := answers user asked
  obtain rfl : false = allowed := Except.ok.inj (refused.symm.trans enforced)
  obtain rfl := Except.ok.inj (listed.symm.trans given)
  -- The listed rule grants what is not allowed.
  exact absurd (exactly.mpr ⟨_, List.mem_singleton_self _, rfl, rfl⟩) (by decide)

end Enforcer

end AccessControl
