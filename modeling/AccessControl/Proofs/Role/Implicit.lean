import AccessControl.Proofs.Role.Levels
import AccessControl.Proofs.Role.Mirror

/-! All groups of a name are listed once and the nearest first, and all members of a group are the
names that have it among all their groups. -/

namespace AccessControl

namespace Hierarchy

variable {hierarchy : Hierarchy} {domain name : String}

/-! ### The order of what is found -/

/-- What a queue finds in an index stays the same with more turns than there are edges, and it is
listed once and the nearest first. -/
theorem reach_order {index : EdgeIndex} {found : List String}
    (listed : reachByQueue (hierarchy.neighbours index domain) index.size name = .ok found) :
    (∀ turns ≥ index.size, reachByQueue (hierarchy.neighbours index domain) turns name =
      .ok found) ∧
      found.Nodup ∧
      found.Pairwise (NoFarther (StepsBy (hierarchy.neighbours index domain)) name) := by
  obtain ⟨finite, few⟩ := reached_few (fun _ _ => mem_allTargets) name
  -- The levels of the same search are what its order is known of.
  have byLevels : ∀ turns ≥ index.size,
      reachByLevels (hierarchy.neighbours index domain) index.size name =
      reachByQueue (hierarchy.neighbours index domain) turns name :=
    fun turns enough => reachByLevels_eq finite few (few.trans enough)
  have listedByLevels := (byLevels index.size le_rfl).trans listed
  exact ⟨fun turns enough => (byLevels turns enough).symm.trans listedByLevels,
    reachByLevels_order listedByLevels⟩

/-- To another name every walk has a step. -/
theorem walk_of_ne {step : String → String → Prop} {other : String} (different : other ≠ name) :
    (∃ length, Walk step length name other) ↔ ∃ length, 1 ≤ length ∧
    Walk step length name other := by
  constructor
  · rintro ⟨length, walk⟩
    cases length with
    -- No step leads to the name itself.
    | zero => exact absurd (walk_zero_iff.mp walk) different
    -- There is a step at least.
    | succ length => exact ⟨length + 1, Nat.le_add_left 1 length, walk⟩
  · rintro ⟨length, _, walk⟩
    exact ⟨length, walk⟩

/-! ### Both directions -/

/-- Without a test for names, the neighbours of a name are its own targets in all domains that stand
for the given one. -/
theorem neighbours_iff_has (total : hierarchy.IsTotal) (plain : hierarchy.nameTest = none)
    {index : EdgeIndex} {target : String} :
    StepsBy (hierarchy.neighbours index domain) name target ↔
      ∃ stored, hierarchy.matchesDomain domain stored = .ok true ∧
        index.Has stored name target := by
  obtain ⟨found, listed, exactly⟩ := neighbours_total total index domain name
  have own (source : String) : hierarchy.matchesName name source = .ok true ↔ source = name := by
    -- The name is that of the source.
    by_cases same : name = source
    · simp [matchesName, same]
    · -- Without a test of names no other one stands for it.
      simp [matchesName, plain, same, Ne.symm same]
  rw [StepsBy, listed]
  simp only [Except.ok.injEq, exists_eq_left', exactly, own]
  constructor
  · -- An entry for the source lists the target.
    rintro ⟨table, member, matching, entry⟩
    exact ⟨table.1, matching, table, member, rfl, entry⟩
  · -- What the entry lists is a step.
    rintro ⟨_, matching, table, member, rfl, entry⟩
    exact ⟨table, member, matching, entry⟩

/-- Without a test for names, a mirrored graph leads from a member to a group where it leads
back. -/
theorem steps_turned (mirrored : hierarchy.graph.IsMirrored) (total : hierarchy.IsTotal)
    (plain : hierarchy.nameTest = none) {member group : String} :
    hierarchy.Steps domain member group ↔ StepsBy (hierarchy.users · domain) group member := by
  -- In every stored domain the link is listed in both directions.
  have turned (stored : String) :
      hierarchy.graph.roles.Has stored member group ↔
      hierarchy.graph.users.Has stored group member := by
    rw [← mirrored.roles.mem_targets, ← mirrored.users.mem_targets, mirrored.turned]
  calc hierarchy.Steps domain member group
      ↔ ∃ stored, hierarchy.matchesDomain domain stored = .ok true ∧
          hierarchy.graph.roles.Has stored member group := neighbours_iff_has total plain
    _ ↔ ∃ stored, hierarchy.matchesDomain domain stored = .ok true ∧
          hierarchy.graph.users.Has stored group member := by simp only [turned]
    _ ↔ StepsBy (hierarchy.users · domain) group member := (neighbours_iff_has total plain).symm

/-- Without a test for names, a walk through groups is one through members taken backwards. -/
theorem walk_turned (mirrored : hierarchy.graph.IsMirrored) (total : hierarchy.IsTotal)
    (plain : hierarchy.nameTest = none) {length : Nat} {group : String} :
    Walk (hierarchy.Steps domain) length name group ↔
      Walk (StepsBy (hierarchy.users · domain)) length group name :=
  ⟨fun walk => walk.turned fun _ _ => (steps_turned mirrored total plain).mp,
    fun walk => walk.turned fun _ _ => (steps_turned mirrored total plain).mpr⟩

/-- Whatever links were added, removed and rebuilt, and with any total tests: all groups of a name
are found, and further turns find no more; they are listed once, without the name, and are just the
other names that one or more steps lead to, none behind one that is farther away; and without a test
for names, a role has a name among all its members exactly if it is among all groups of the name. -/
theorem implicitRoles_reached {changes : List GraphChange}
    (built : hierarchy.graph = RoleGraph.empty.run changes) (total : hierarchy.IsTotal)
    (name domain : String) :
    ∃ groups, hierarchy.implicitRoles name domain = .ok groups ∧
      (∀ turns ≥ hierarchy.graph.roles.size,
        reachByQueue (hierarchy.roles · domain) turns name = .ok groups) ∧
      groups.Nodup ∧ name ∉ groups ∧
      (∀ group, group ∈ groups ↔
        group ≠ name ∧ ∃ length, 1 ≤ length ∧ Walk (hierarchy.Steps domain) length name group) ∧
      groups.Pairwise (NoFarther (hierarchy.Steps domain) name) ∧
      (hierarchy.nameTest = none → ∀ role, ∃ members,
        hierarchy.implicitUsers role domain = .ok members ∧
        (role ∈ groups ↔ name ∈ members)) := by
  obtain ⟨groups, listed, exactly⟩ := implicitRoles_total total name domain
  obtain ⟨unlimited, different, ordered⟩ := reach_order listed
  have absent : name ∉ groups := fun member => ((exactly name).mp member).1 rfl
  refine ⟨groups, listed, unlimited, different, absent, fun group => ?_, ordered,
    fun plain role => ?_⟩
  · -- A group other than the name is reached in a step at least.
    rw [exactly]
    exact and_congr_right walk_of_ne
  · -- The members of a role are reached in the other direction, and the two mirror each other.
    obtain ⟨members, listedMembers, exactlyMembers⟩ := implicitUsers_total total role domain
    have mirrored : hierarchy.graph.IsMirrored := built ▸ RoleGraph.isMirrored_empty.run changes
    refine ⟨members, listedMembers, ?_⟩
    simp only [exactly, exactlyMembers, ne_comm, walk_turned mirrored total plain]

/-- Links that lead around, partly in a domain that all others share, after one of them was
removed. -/
def shared : Hierarchy where
  limit := .whole 10
  graph := RoleGraph.empty.run [.rebuild [⟨"alice", "guest", "acme"⟩, ⟨"alice", "editor", "acme"⟩],
    .add ⟨"editor", "admin", "*"⟩, .add ⟨"admin", "alice", "acme"⟩,
    .remove ⟨"alice", "guest", "acme"⟩]
  nameTest := none
  domainTest := some ⟨"shared", fun _ stored => .ok (stored == "*")⟩

/-- The test of the shared domain is total. -/
theorem shared_isTotal : shared.IsTotal where
  names _ given := by simp [shared] at given
  domains test given domain stored := by
    obtain rfl : _ = test := Option.some.inj given
    exact ⟨stored == "*", rfl⟩

/-- All groups are found along links that lead around and through the shared domain, and they have
the name back. -/
theorem implicitRoles_reached_shared :
    shared.IsTotal ∧ shared.nameTest = none ∧ shared.implicitRoles "alice" "acme" = .ok
    ["editor", "admin"] ∧
      ["editor", "admin"].Pairwise (NoFarther (shared.Steps "acme") "alice") ∧
      (∃ length, 1 ≤ length ∧ Walk (shared.Steps "acme") length "alice" "admin") ∧
      ∃ members, shared.implicitUsers "admin" "acme" = .ok members ∧ "alice" ∈ members := by
  have found : shared.implicitRoles "alice" "acme" = .ok ["editor", "admin"] := by rfl
  obtain ⟨groups, listed, _, _, _, exactly, ordered, both⟩ :=
    implicitRoles_reached rfl shared_isTotal "alice" "acme"
  obtain rfl : ["editor", "admin"] = groups := Except.ok.inj (found.symm.trans listed)
  obtain ⟨members, listedMembers, same⟩ := both rfl "admin"
  exact ⟨shared_isTotal, rfl, found, ordered, ((exactly "admin").mp (by simp)).2, members,
    listedMembers, same.mp (by simp)⟩

end Hierarchy

end AccessControl
