import AccessControl.Proofs.Role.Search

/-! The graph of links has exactly these links, and a hierarchy without tests takes just their
steps. -/

namespace AccessControl

namespace EdgeIndex

/-- A target is listed for a source within a domain. -/
def Has (index : EdgeIndex) (domain source target : String) : Prop :=
  ∃ table ∈ index, table.1 = domain ∧ ∃ entry ∈ table.2, entry.1 = source ∧ target ∈ entry.2

/-- The index of edges lists exactly these. -/
theorem ofEdges_has {edges : List (String × String × String)} {domain source target : String} :
    (ofEdges edges).Has domain source target ↔ (domain, source, target) ∈ edges := by
  constructor
  · -- What is listed within a domain and for a source was selected from the edges by these two.
    rintro ⟨table, listed, rfl, entry, within, rfl, member⟩
    obtain ⟨domain, _, rfl⟩ := List.mem_map.mp listed
    obtain ⟨source, _, rfl⟩ := List.mem_map.mp within
    simpa using member
  · intro member
    -- The domain and the source are among the distinct ones of the edges because of this edge.
    refine ⟨_, List.mem_map.mpr ⟨domain, ?_, rfl⟩, rfl, _,
      List.mem_map.mpr ⟨source, ?_, rfl⟩, rfl, ?_⟩
    · exact Text.mem_distinct.mpr (List.mem_map.mpr ⟨_, member, rfl⟩)
    · exact Text.mem_distinct.mpr (by simpa using ⟨target, member⟩)
    · simpa using member

end EdgeIndex

namespace RoleGraph

/-- The graph of links lists a group for a member exactly if there is such a link. -/
theorem ofLinks_has {links : List Link} {domain member group : String} :
    (ofLinks links).roles.Has domain member group ↔ ⟨member, group, domain⟩ ∈ links := by
  rw [ofLinks, EdgeIndex.ofEdges_has]
  constructor
  · -- The triple that was selected is the one of a link that is stored.
    intro listed
    obtain ⟨link, stored, parts⟩ := List.mem_map.mp listed
    obtain ⟨rfl, rfl, rfl⟩ : link.domain = domain ∧ link.member = member ∧ link.group = group := by
      simpa using parts
    exact Text.mem_distinct.mp stored
  · exact fun stored => List.mem_map.mpr ⟨_, Text.mem_distinct.mpr stored, rfl⟩

end RoleGraph

namespace Hierarchy

/-- A hierarchy without tests compares names and domains as they are. -/
structure IsPlain (hierarchy : Hierarchy) : Prop where
  names : hierarchy.nameTest = none
  domains : hierarchy.domainTest = none

variable {hierarchy : Hierarchy}

/-- Without tests there is nothing to fail. -/
theorem IsPlain.isTotal (plain : hierarchy.IsPlain) : hierarchy.IsTotal where
  names test given := by simp [plain.names] at given
  domains test given := by simp [plain.domains] at given

/-- Without tests a name stands for itself alone. -/
theorem IsPlain.stands_iff (plain : hierarchy.IsPlain) {name stored : String} :
    hierarchy.Stands name stored ↔ name = stored := by
  simp [Stands, plain.names]

/-- Without tests the steps are the listed links of the domain. -/
theorem IsPlain.steps_iff (plain : hierarchy.IsPlain) {domain name group : String} :
    hierarchy.Steps domain name group ↔ hierarchy.graph.roles.Has domain name group := by
  obtain ⟨found, listed, exact_⟩ := neighbours_total plain.isTotal hierarchy.graph.roles domain name
  -- Without tests only equal domains and equal names match, so the stored ones are those asked for.
  have sameDomain : ∀ stored, hierarchy.matchesDomain domain stored = .ok true ↔ stored = domain :=
    fun stored => by by_cases same : stored = domain <;> simp [matchesDomain, plain.domains, same]
  have sameName : ∀ stored, hierarchy.matchesName name stored = .ok true ↔ stored = name :=
    fun stored => by
      by_cases same : name = stored
      · simp [matchesName, same]
      · have different : stored ≠ name := fun equal => same equal.symm
        simp [matchesName, plain.names, same, different]
  simp only [Steps, roles, listed, Except.ok.injEq, exists_eq_left', exact_, sameDomain, sameName,
    EdgeIndex.Has]

/-- Without tests a name is linked to another one exactly if they are equal or a walk within the
limit leads along the listed links from one to the other. -/
theorem IsPlain.hasLink_eq_ok (plain : hierarchy.IsPlain) {limit : Nat}
    (counted : hierarchy.limit.count = .ok limit) (name target domain : String) :
    ∃ answer, hierarchy.hasLink name target domain = .ok answer ∧
      (answer = true ↔ name = target ∨ ∃ length, 1 ≤ length ∧ length ≤ limit ∧
        Walk (hierarchy.graph.roles.Has domain) length name target) := by
  obtain ⟨answer, asked, tells⟩ := hasLink_leads plain.isTotal counted name target domain
  -- The walks are the same, step by step, and their last name is the target itself.
  refine ⟨answer, asked, tells.trans (or_congr plain.stands_iff ?_)⟩
  constructor
  · rintro ⟨length, final, least, most, walk, stands⟩
    obtain rfl := plain.stands_iff.mp stands
    exact ⟨length, least, most, walk.mono fun _ _ => plain.steps_iff.mp⟩
  · rintro ⟨length, least, most, walk⟩
    exact ⟨length, target, least, most, walk.mono fun _ _ => plain.steps_iff.mpr,
      plain.stands_iff.mpr rfl⟩

/-- Without tests the answer depends on the links of the domain alone, whatever links there are in
other domains. If the limit does not tell how many steps are allowed, both searches fail alike. -/
theorem IsPlain.hasLink_congr {other : Hierarchy} (plain : hierarchy.IsPlain)
    (otherPlain : other.IsPlain) (limit : hierarchy.limit = other.limit) {domain : String}
    (links : ∀ member group, hierarchy.graph.roles.Has domain member group ↔
      other.graph.roles.Has domain member group) (name target : String) :
    hierarchy.hasLink name target domain = other.hasLink name target domain := by
  have steps : hierarchy.graph.roles.Has domain = other.graph.roles.Has domain := by
    funext member group
    exact propext (links member group)
  cases counted : hierarchy.limit.count with
  | ok most =>
    obtain ⟨answer, asked, tells⟩ := plain.hasLink_eq_ok counted name target domain
    obtain ⟨second, askedOther, tellsOther⟩ :=
      otherPlain.hasLink_eq_ok (limit ▸ counted) name target domain
    -- The same walks lead to the same answer.
    have same : answer = second := by
      rw [Bool.eq_iff_iff, tells, tellsOther, steps]
    rw [asked, askedOther, same]
  | error error =>
    -- A limit without a count is noticed only by the searches between different names.
    have otherCounted : other.limit.count = .error error := limit ▸ counted
    by_cases equal : name = target
    · simp [hasLink, matchesName, equal]
    · simp [hasLink, matchesName, equal, plain.names, otherPlain.names, counted, otherCounted]

end Hierarchy

end AccessControl
