import AccessControl.Proofs.Journal
import AccessControl.Proofs.Text.Distinct
import AccessControl.Role.Hierarchy

/-! A search through levels finds exactly what a walk within the limit of steps leads to. -/

namespace AccessControl

/-- A walk of so many steps from one name to another. -/
inductive Walk (step : String → String → Prop) : Nat → String → String → Prop
  | here (name : String) : Walk step 0 name name
  | onward {length : Nat} {name next final : String} (first : step name next)
      (rest : Walk step length next final) : Walk step (length + 1) name final

/-- Replacing the steps by others that they imply keeps a walk. -/
theorem Walk.mono {step other : String → String → Prop}
    (implies : ∀ name next, step name next → other name next) {length : Nat} {name final : String}
    (walk : Walk step length name final) : Walk other length name final := by
  -- Every single step is replaced, so the number of them stays.
  induction walk with
  | here name => exact .here name
  | onward first _ ih => exact .onward (implies _ _ first) ih

namespace Hierarchy

/-- The tests for names and domains have an answer for all of them. -/
structure IsTotal (hierarchy : Hierarchy) : Prop where
  names : ∀ test, hierarchy.nameTest = some test →
    ∀ name stored, ∃ answer, test.holds name stored = .ok answer
  domains : ∀ test, hierarchy.domainTest = some test →
    ∀ domain stored, ∃ answer, test.holds domain stored = .ok answer

/-- A name stands for a stored name: they are equal, or the test for names holds. -/
def Stands (hierarchy : Hierarchy) (name stored : String) : Prop :=
  name = stored ∨ ∃ test, hierarchy.nameTest = some test ∧ test.holds name stored = .ok true

/-- A group is one of the direct groups of a name within a domain. -/
def Steps (hierarchy : Hierarchy) (domain name group : String) : Prop :=
  ∃ groups, hierarchy.roles name domain = .ok groups ∧ group ∈ groups

variable {hierarchy : Hierarchy}

/-- With total tests a comparison of names tells whether one stands for the other. -/
theorem matchesName_total (total : hierarchy.IsTotal) (name stored : String) :
    ∃ answer, hierarchy.matchesName name stored = .ok answer ∧
      (answer = true ↔ hierarchy.Stands name stored) := by
  -- Equal names are not given to the test at all.
  by_cases same : name = stored
  · exact ⟨true, by simp [matchesName, same], by simp [Stands, same]⟩
  · cases given : hierarchy.nameTest with
    | none => exact ⟨false, by simp [matchesName, same, given], by simp [Stands, same, given]⟩
    | some test =>
      obtain ⟨answer, asked⟩ := total.names test given name stored
      exact ⟨answer, by simp [matchesName, same, given, asked], by
        simp [Stands, same, given, asked]⟩

/-- With total tests a comparison of domains has an answer. -/
theorem matchesDomain_total (total : hierarchy.IsTotal) (domain stored : String) :
    ∃ answer, hierarchy.matchesDomain domain stored = .ok answer := by
  by_cases same : stored = domain
  · exact ⟨true, by simp [matchesDomain, same]⟩
  · cases given : hierarchy.domainTest with
    | none => exact ⟨false, by simp [matchesDomain, same, given]⟩
    | some test =>
      obtain ⟨answer, asked⟩ := total.domains test given domain stored
      exact ⟨answer, by simp [matchesDomain, same, given, asked]⟩

/-- A test with an answer for every item keeps exactly those for which it holds. -/
theorem keep_total {α : Type} (test : α → Except Error Bool) (items : List α)
    (answered : ∀ item ∈ items, ∃ answer, test item = .ok answer) :
    ∃ kept, keep test items = .ok kept ∧ ∀ item, item ∈ kept ↔
      item ∈ items ∧ test item = .ok true := by
  induction items with
  | nil => exact ⟨[], rfl, by simp⟩
  | cons first rest ih =>
    -- The answer for the first item decides whether it is kept before those of the rest.
    obtain ⟨answer, asked⟩ := answered first (by simp)
    obtain ⟨kept, keeps, exactly⟩ := ih fun item member => answered item (by simp [member])
    cases answer with
    | true =>
      -- The first item is kept, and it is one for which the test holds.
      refine ⟨first :: kept, by simp [keep, asked, keeps], fun item => ?_⟩
      by_cases same : item = first
      · simp [same, asked]
      · simp [same, exactly]
    | false =>
      -- The first item is left out, although it may be listed again among the rest.
      refine ⟨kept, by simp [keep, asked, keeps], fun item => ?_⟩
      by_cases same : item = first
      · simp [same, asked, exactly]
      · simp [same, exactly]

/-- A function with a value for every item gives the values of all of them. -/
theorem mapM_total {α β : Type} (f : α → Except Error β) (items : List α)
    (valued : ∀ item ∈ items, ∃ value, f item = .ok value) :
    ∃ values, items.mapM f = .ok values ∧
      ∀ value, value ∈ values ↔ ∃ item ∈ items, f item = .ok value := by
  induction items with
  | nil => exact ⟨[], rfl, by simp⟩
  | cons first rest ih =>
    obtain ⟨value, given⟩ := valued first (by simp)
    obtain ⟨values, mapped, exactly⟩ := ih fun item member => valued item (by simp [member])
    refine ⟨value :: values, by simp [List.mapM_cons, given, mapped], fun other => ?_⟩
    simp [exactly, given, eq_comm]

/-- With total tests the neighbours of a name are the targets of all sources and domains that it
stands for. -/
theorem neighbours_total (total : hierarchy.IsTotal) (index : EdgeIndex) (domain name : String) :
    ∃ found, hierarchy.neighbours index domain name = .ok found ∧
      ∀ target, target ∈ found ↔ ∃ table ∈ index,
        hierarchy.matchesDomain domain table.1 = .ok true ∧
        ∃ entry ∈ table.2, hierarchy.matchesName name entry.1 = .ok true ∧ target ∈ entry.2 := by
  -- First the domains are kept, then the sources of each, and both by total tests.
  obtain ⟨domains, keptDomains, domainsExact⟩ :=
    keep_total (fun entry => hierarchy.matchesDomain domain entry.1) index
      fun entry _ => matchesDomain_total total domain entry.1
  have sources (table : String × List (String × List String)) :
      ∃ kept, keep (fun entry => hierarchy.matchesName name entry.1) table.2 = .ok kept ∧
        ∀ entry, entry ∈ kept ↔ entry ∈ table.2 ∧ hierarchy.matchesName name entry.1 = .ok true :=
    keep_total _ table.2 fun entry _ =>
      (matchesName_total total name entry.1).imp fun _ answered => answered.1
  obtain ⟨found, mapped, foundExact⟩ := mapM_total
    (fun table : String × List (String × List String) => do
      let matching ← keep (fun entry => hierarchy.matchesName name entry.1) table.2
      return matching.flatMap (·.2)) domains
    fun table _ => by
      obtain ⟨kept, keeps, _⟩ := sources table
      exact ⟨kept.flatMap (·.2), by simp [keeps]⟩
  have listed : hierarchy.neighbours index domain name = .ok (Text.distinct found.flatten) := by
    simp only [neighbours, keptDomains, ok_bind]
    rw [mapped]
    rfl
  -- Leaving out repetitions and joining the lists changes nothing about what is listed.
  refine ⟨Text.distinct found.flatten, listed, fun target => ?_⟩
  simp only [Text.mem_distinct, List.mem_flatten, foundExact]
  constructor
  · rintro ⟨targets, ⟨table, member, valued⟩, target⟩
    obtain ⟨kept, keeps, keptExact⟩ := sources table
    simp only [keeps, ok_bind, pure_eq_ok, Except.ok.injEq] at valued
    subst valued
    obtain ⟨entry, inside, target⟩ := List.mem_flatMap.mp target
    obtain ⟨stored, stands⟩ := (domainsExact table).mp member
    exact ⟨table, stored, stands, entry, ((keptExact entry).mp inside).1,
      ((keptExact entry).mp inside).2, target⟩
  · rintro ⟨table, stored, stands, entry, inside, matching, target⟩
    obtain ⟨kept, keeps, keptExact⟩ := sources table
    refine ⟨kept.flatMap (·.2), ⟨table, (domainsExact table).mpr ⟨stored, stands⟩, ?_⟩, ?_⟩
    · simp [keeps]
    · exact List.mem_flatMap.mpr ⟨entry, (keptExact entry).mpr ⟨inside, matching⟩, target⟩

/-- With total tests the direct groups of a name are listed, and they are its steps. -/
theorem roles_total (total : hierarchy.IsTotal) (name domain : String) :
    ∃ groups, hierarchy.roles name domain = .ok groups ∧
      ∀ group, group ∈ groups ↔ hierarchy.Steps domain name group := by
  obtain ⟨groups, listed, _⟩ := neighbours_total total hierarchy.graph.roles domain name
  have listed : hierarchy.roles name domain = .ok groups := listed
  exact ⟨groups, listed, fun group => by simp [Steps, listed]⟩

/-- With total tests it is told whether a name stands for one of the sources. -/
theorem anyMatches_total (total : hierarchy.IsTotal) (name : String)
    (sources : List (String × List String)) :
    ∃ answer, hierarchy.anyMatches name sources = .ok answer := by
  induction sources with
  | nil => exact ⟨false, rfl⟩
  | cons entry rest ih =>
    obtain ⟨answer, asked, _⟩ := matchesName_total total name entry.1
    obtain ⟨later, told⟩ := ih
    cases answer with
    | true => exact ⟨true, by simp [anyMatches, asked]⟩
    | false => exact ⟨later, by simp [anyMatches, asked, told]⟩

/-- With total tests the domains are listed in which a name has a group. -/
theorem domains_total (total : hierarchy.IsTotal) (name : String) :
    ∃ domains, hierarchy.domains name = .ok domains := by
  obtain ⟨kept, keeps, _⟩ := keep_total (fun entry => hierarchy.anyMatches name entry.2)
    hierarchy.graph.roles fun entry _ => anyMatches_total total name entry.2
  exact ⟨kept.map (·.1), by simp [domains, keeps]⟩

/-- What a sweep over offered groups comes to: the target is among them, or else each of them is
seen, and those that were not seen before are the ones to go on from. -/
def Sweep.Covers (hierarchy : Hierarchy) (target : String) (offered : String → Prop)
    (seen next : List String) : Sweep → Prop
  | .found => ∃ group, offered group ∧ hierarchy.Stands target group
  | .onward seen' next' =>
    (∀ group, offered group → ¬ hierarchy.Stands target group ∧ group ∈ seen') ∧
      ∃ fresh, seen' = seen ++ fresh ∧ next' = next ++ fresh ∧
        ∀ group ∈ fresh, offered group ∧ group ∉ seen

/-- A sweep after a sweep that went on covers the groups that were offered to both. -/
theorem Sweep.Covers.trans {target : String} {first second offered : String → Prop}
    {seen next seen' next' : List String} {sweep : Sweep}
    (both : ∀ group, offered group ↔ first group ∨ second group)
    (earlier : (Sweep.onward seen' next').Covers hierarchy target first seen next)
    (later : sweep.Covers hierarchy target second seen' next') :
    sweep.Covers hierarchy target offered seen next := by
  obtain ⟨swept, fresh, rfl, rfl, new⟩ := earlier
  cases sweep with
  | found =>
    obtain ⟨group, offers, stands⟩ := later
    exact ⟨group, (both group).mpr (.inr offers), stands⟩
  | onward seen'' next'' =>
    -- What was fresh to the first sweep is seen by the second one, so the fresh names add up.
    obtain ⟨sweptLater, freshLater, rfl, rfl, newLater⟩ := later
    refine ⟨fun group offers => ?_, fresh ++ freshLater, by simp, by simp, fun group member => ?_⟩
    · rcases (both group).mp offers with offers | offers
      · exact ⟨(swept group offers).1, List.mem_append_left _ (swept group offers).2⟩
      · exact sweptLater group offers
    · rcases List.mem_append.mp member with member | member
      · exact ⟨(both group).mpr (.inl (new group member).1), (new group member).2⟩
      · obtain ⟨offers, unseen⟩ := newLater group member
        exact ⟨(both group).mpr (.inr offers), fun early => unseen (List.mem_append_left _ early)⟩

/-- The sweep over the groups of one name covers them. -/
theorem sweepGroups_covers (total : hierarchy.IsTotal) (target : String) (groups : List String) :
    ∀ seen next, ∃ sweep, hierarchy.sweepGroups target seen next groups = .ok sweep ∧
      sweep.Covers hierarchy target (· ∈ groups) seen next := by
  -- The names that are seen grow along the groups, so they stay quantified over.
  induction groups with
  | nil =>
    intro seen next
    exact ⟨.onward seen next, rfl, by simp, [], by simp⟩
  | cons group rest ih =>
    intro seen next
    obtain ⟨answer, asked, tells⟩ := matchesName_total total target group
    cases answer with
    | true =>
      -- The target is found at once, whatever groups come behind it.
      exact ⟨.found, by simp [sweepGroups, asked], group, by simp, tells.mp rfl⟩
    | false =>
      have other : ¬ hierarchy.Stands target group := fun stands => by simpa using tells.mpr stands
      have both (name : String) : name ∈ group :: rest ↔ name = group ∨ name ∈ rest :=
        List.mem_cons
      by_cases old : group ∈ seen
      · -- A group that was seen before is compared with the target but not gone on from.
        obtain ⟨sweep, swept, covers⟩ := ih seen next
        refine ⟨sweep, by simp [sweepGroups, asked, old, swept],
          .trans both ⟨?_, [], by simp⟩ covers⟩
        rintro name rfl
        exact ⟨other, old⟩
      · -- A new group is seen from now on, and the next level goes on from it.
        obtain ⟨sweep, swept, covers⟩ := ih (seen ++ [group]) (next ++ [group])
        refine ⟨sweep, by simp [sweepGroups, asked, old, swept],
          .trans both ⟨?_, [group], by simp [old]⟩ covers⟩
        rintro name rfl
        exact ⟨other, by simp⟩

/-- The sweep over a level covers the groups of all its names. -/
theorem sweepLevel_covers (total : hierarchy.IsTotal) (target domain : String)
    (level : List String) : ∀ seen next,
      ∃ sweep, hierarchy.sweepLevel target domain seen next level = .ok sweep ∧
        sweep.Covers hierarchy target (fun group => ∃ name ∈ level,
          hierarchy.Steps domain name group)
          seen next := by
  induction level with
  | nil =>
    intro seen next
    exact ⟨.onward seen next, rfl, by simp, [], by simp⟩
  | cons name rest ih =>
    intro seen next
    obtain ⟨groups, listed, steps⟩ := roles_total total name domain
    obtain ⟨sweep, swept, covers⟩ := sweepGroups_covers total target groups seen next
    cases sweep with
    | found =>
      -- The target among the groups of one name ends the sweep over all names.
      obtain ⟨group, member, stands⟩ := covers
      exact ⟨.found, by simp [sweepLevel, listed, swept], group,
        ⟨name, by simp, (steps group).mp member⟩, stands⟩
    | onward seen' next' =>
      -- Otherwise the other names go on from what was seen at this one.
      obtain ⟨sweep, sweptLater, coversLater⟩ := ih seen' next'
      refine ⟨sweep, by simp [sweepLevel, listed, swept, sweptLater],
        .trans (fun group => ?_) covers coversLater⟩
      simp [steps]

/-- The search has nothing left to do behind its level: all groups of the other seen names are seen
and are not the target. -/
def IsClosed (hierarchy : Hierarchy) (target domain : String) (seen level : List String) : Prop :=
  ∀ name ∈ seen, name ∉ level → ∀ group, hierarchy.Steps domain name group →
    ¬ hierarchy.Stands target group ∧ group ∈ seen

/-- A walk of at least one and at most so many steps leads from a name to the target. -/
def Leads (hierarchy : Hierarchy) (target domain : String) (limit : Nat) (name : String) : Prop :=
  ∃ length final, 1 ≤ length ∧ length ≤ limit ∧
    Walk (hierarchy.Steps domain) length name final ∧ hierarchy.Stands target final

/-- A walk to the target from a seen name passes the level, from where it is no longer than
before. -/
theorem IsClosed.crosses {target domain : String} {seen level : List String}
    (closed : hierarchy.IsClosed target domain seen level) {limit : Nat} {name : String}
    (member : name ∈ seen) (leads : hierarchy.Leads target domain limit name) :
    ∃ start ∈ level, hierarchy.Leads target domain limit start := by
  obtain ⟨length, final, positive, bounded, walk, stands⟩ := leads
  -- The walk is followed from its start until it meets a name of the level.
  induction walk with
  | here => omega
  | @onward length name next final first rest ih =>
    by_cases here : name ∈ level
    · exact ⟨name, here, length + 1, final, positive, bounded, .onward first rest, stands⟩
    · -- Behind the level the next name is seen, too, and it is not the target.
      obtain ⟨other, seenNext⟩ := closed name member here next first
      cases rest with
      | here => exact absurd stands other
      | onward second rest => exact ih seenNext (by omega) (by omega) stands

/-- After a sweep that went on, the fresh names close the search again. -/
theorem IsClosed.next {target domain : String} {seen level fresh : List String}
    (closed : hierarchy.IsClosed target domain seen level)
    (swept : ∀ group, (∃ name ∈ level, hierarchy.Steps domain name group) →
      ¬ hierarchy.Stands target group ∧ group ∈ seen ++ fresh) :
    hierarchy.IsClosed target domain (seen ++ fresh) fresh := by
  intro name member old group step
  -- A name that is not fresh was on the level before, or behind it.
  rcases List.mem_append.mp member with member | member
  · by_cases here : name ∈ level
    · exact swept group ⟨name, here, step⟩
    · obtain ⟨other, seenGroup⟩ := closed name member here group step
      exact ⟨other, List.mem_append_left _ seenGroup⟩
  · exact absurd member old

/-- The target is reached from a level exactly if fresh names reach it in one step less. -/
theorem IsClosed.leads_next {target domain : String} {seen level fresh : List String}
    (closedNext : hierarchy.IsClosed target domain (seen ++ fresh) fresh)
    (swept : ∀ group, (∃ name ∈ level, hierarchy.Steps domain name group) →
      ¬ hierarchy.Stands target group ∧ group ∈ seen ++ fresh)
    (new : ∀ group ∈ fresh, ∃ name ∈ level, hierarchy.Steps domain name group) {steps : Nat} :
    (∃ name ∈ level, hierarchy.Leads target domain (steps + 1) name) ↔
      ∃ name ∈ fresh, hierarchy.Leads target domain steps name := by
  constructor
  · rintro ⟨name, member, length, final, positive, bounded, walk, stands⟩
    cases walk with
    | here => omega
    | @onward length name group final first rest =>
      -- The first step leads into the seen names, and from there the walk passes the fresh ones.
      obtain ⟨other, seenGroup⟩ := swept group ⟨name, member, first⟩
      refine closedNext.crosses seenGroup ⟨length, final, ?_, by omega, rest, stands⟩
      cases rest with
      -- The sweep would have found the target one step away.
      | here => exact absurd stands other
      | onward => omega
  · rintro ⟨group, member, length, final, positive, bounded, walk, stands⟩
    obtain ⟨name, onLevel, first⟩ := new group member
    exact ⟨name, onLevel, length + 1, final, by omega, by omega, .onward first walk, stands⟩

/-- From a closed state the search has an answer: whether a walk within the steps left leads from a
name of the level to the target. -/
theorem climb_iff (total : hierarchy.IsTotal) (target domain : String) (steps : Nat) :
    ∀ seen level, hierarchy.IsClosed target domain seen level →
      ∃ answer, hierarchy.climb target domain steps seen level = .ok answer ∧
        (answer = true ↔ ∃ name ∈ level, hierarchy.Leads target domain steps name) := by
  -- Every step has a level of its own, so only that the search is closed is carried along.
  induction steps with
  | zero =>
    -- Without a step left no walk is long enough.
    intro seen level _
    refine ⟨false, rfl, by simp, ?_⟩
    rintro ⟨name, _, length, final, positive, bounded, _⟩
    omega
  | succ steps ih =>
    intro seen level closed
    obtain ⟨sweep, swept, covers⟩ := sweepLevel_covers total target domain level seen []
    cases sweep with
    | found =>
      -- The target is one step away from a name of the level.
      obtain ⟨group, ⟨name, member, step⟩, stands⟩ := covers
      have leads : hierarchy.Leads target domain (steps + 1) name :=
        ⟨1, group, by omega, by omega, .onward step (.here group), stands⟩
      exact ⟨true, by simp [climb, swept], fun _ => ⟨name, member, leads⟩, fun _ => rfl⟩
    | onward seen' next =>
      obtain ⟨covered, _, rfl, rfl, new⟩ := covers
      have closedNext := closed.next covered
      -- Nothing but the fresh names is left to go on from, with one step less.
      rw [closedNext.leads_next covered fun group member => (new group member).1]
      by_cases empty : next = []
      · -- The search ends early where no walk is left to follow.
        exact ⟨false, by simp [climb, swept, empty], by simp [empty]⟩
      · obtain ⟨answer, climbed, tells⟩ := ih _ _ closedNext
        exact ⟨answer, by simpa [climb, swept, empty] using climbed, tells⟩

/-- A search from a single name starts in a closed state. -/
theorem isClosed_start (hierarchy : Hierarchy) (target domain name : String) :
    hierarchy.IsClosed target domain [name] [name] :=
  fun _ member old => absurd member old

/-- With total tests and a whole limit, a name is linked to another one exactly when it stands for
it or leads to it within the limit. -/
theorem hasLink_leads (total : hierarchy.IsTotal) {limit : Nat}
    (counted : hierarchy.limit.count = .ok limit) (name target domain : String) :
    ∃ answer, hierarchy.hasLink name target domain = .ok answer ∧
      (answer = true ↔ hierarchy.Stands name target ∨
        hierarchy.Leads target domain limit name) := by
  obtain ⟨same, asked, tells⟩ := matchesName_total total name target
  cases same with
  | true =>
    -- A name that stands for the target is not searched from, so the limit is not even read.
    exact ⟨true, by simp [hasLink, asked], by simp [tells.mp rfl]⟩
  | false =>
    -- The search starts on the level of the name alone, behind which nothing is seen yet.
    have other : ¬ hierarchy.Stands name target := fun stands => by simpa using tells.mpr stands
    obtain ⟨answer, climbed, climbs⟩ :=
      climb_iff total target domain limit _ _ (hierarchy.isClosed_start target domain name)
    exact ⟨answer, by simp [hasLink, asked, counted, climbed],
      by simp [climbs, other]⟩

/-- A name is linked to another one exactly when it stands for it, or when a walk of at least one
step and at most the limit leads through direct groups to one that the other name stands for. -/
theorem hasLink_iff_walk {hierarchy : Hierarchy} (total : hierarchy.IsTotal) {limit : Nat}
    (counted : hierarchy.limit.count = .ok limit) (name target domain : String) :
    ∃ answer, hierarchy.hasLink name target domain = .ok answer ∧
      (answer = true ↔ hierarchy.Stands name target ∨
        ∃ length final, 1 ≤ length ∧ length ≤ limit ∧
          Walk (fun name group => ∃ groups, hierarchy.roles name domain = .ok groups ∧
            group ∈ groups)
            length name final ∧
          hierarchy.Stands target final) :=
  -- The steps of the walks behind `Leads` are the listed direct groups by definition.
  hasLink_leads total counted name target domain

/-- Two steps at most, along a cycle and to a group that stands for everyone. -/
def cyclic : Hierarchy where
  limit := .whole 2
  graph := .ofLinks [⟨"alice", "admin", ""⟩, ⟨"admin", "alice", ""⟩, ⟨"admin", "*", ""⟩]
  nameTest := some ⟨"everyone", fun _ stored => .ok (stored == "*")⟩
  domainTest := none

/-- The tests of the cyclic hierarchy are total. -/
theorem cyclic_isTotal : cyclic.IsTotal where
  names test given name stored := by
    obtain rfl : _ = test := Option.some.inj given
    exact ⟨stored == "*", rfl⟩
  domains _ given := by simp [cyclic] at given

/-- The limit of the cyclic hierarchy is just enough to lead from a name to the group of
everyone. -/
theorem hasLink_iff_walk_cyclic :
    cyclic.IsTotal ∧ cyclic.limit.count = .ok 2 ∧ cyclic.hasLink "alice" "root" "" = .ok true ∧
      (cyclic.Stands "alice" "root" ∨ ∃ length final, 1 ≤ length ∧ length ≤ 2 ∧
        Walk (fun name group => ∃ groups, cyclic.roles name "" = .ok groups ∧ group ∈ groups)
          length "alice" final ∧ cyclic.Stands "root" final) := by
  have linked : cyclic.hasLink "alice" "root" "" = .ok true := by rfl
  obtain ⟨answer, asked, tells⟩ := hasLink_iff_walk cyclic_isTotal rfl "alice" "root" ""
  obtain rfl : true = answer := Except.ok.inj (linked.symm.trans asked)
  exact ⟨cyclic_isTotal, rfl, linked, tells.mp rfl⟩

end Hierarchy

end AccessControl
