import AccessControl.Proofs.Role.Closure
import AccessControl.Role.Manager
import Mathlib.Data.Set.Card

/-! Going on level by level and going on by a queue find the same names in the same order, the
nearest first. -/

namespace AccessControl

/-! ### Walks by their last step -/

/-- A walk and a step from where it ends are a walk. -/
theorem Walk.concat {step : String → String → Prop} {length : Nat} {name middle final : String}
    (walk : Walk step length name middle) (last : step middle final) :
    Walk step (length + 1) name final := by
  -- The step is put behind the walk that follows the first step.
  induction walk with
  | here name => exact .onward last (.here final)
  | onward first _ ih => exact .onward first (ih last)

/-- A walk of more than no step has a last step. -/
theorem walk_succ_iff {step : String → String → Prop} {length : Nat} {name final : String} :
    Walk step (length + 1) name final ↔ ∃ middle, Walk step length name middle ∧
    step middle final := by
  constructor
  · intro walk
    induction length generalizing name with
    -- The only step is the last one.
    | zero =>
      obtain _ | ⟨first, rest⟩ := walk
      cases rest
      exact ⟨name, .here name, first⟩
    -- The last step of the rest is the last one of all.
    | succ length ih =>
      obtain _ | ⟨first, rest⟩ := walk
      obtain ⟨middle, before, last⟩ := ih rest
      exact ⟨middle, .onward first before, last⟩
  · -- A step more is put at the end.
    rintro ⟨middle, walk, last⟩
    exact walk.concat last

/-- The start is all that is reached without a step. -/
theorem walk_zero_iff {step : String → String → Prop} {name final : String} :
    Walk step 0 name final ↔ final = name := by
  constructor
  · -- Without steps the walk has not left the name.
    intro walk
    cases walk
    rfl
  · rintro rfl
    exact .here final

/-- A walk taken backwards is a walk of the steps turned around. -/
theorem Walk.turned {step back : String → String → Prop}
    (turns : ∀ name next, step name next → back next name) {length : Nat} {name final : String}
    (walk : Walk step length name final) : Walk back length final name := by
  induction walk with
  -- A walk without steps stays one.
  | here name => exact .here name
  -- The first step becomes the last one.
  | onward first _ ih => exact ih.concat (turns _ _ first)

/-- The name is so many steps away from the start, and not fewer. -/
def IsAway (step : String → String → Prop) (start : String) (distance : Nat)
    (name : String) : Prop :=
  Walk step distance start name ∧ ∀ shorter < distance, ¬ Walk step shorter start name

/-- To one name there is always a walk no longer than a given one to the other. -/
def NoFarther (step : String → String → Prop) (start near far : String) : Prop :=
  ∀ length, Walk step length start far → ∃ shorter ≤ length, Walk step shorter start near

/-- A name so many steps away is no farther than one that fewer steps do not lead to. -/
theorem IsAway.noFarther {step : String → String → Prop} {start near far : String} {distance : Nat}
    (away : IsAway step start distance near)
    (beyond : ∀ shorter < distance, ¬ Walk step shorter start far) :
    NoFarther step start near far := by
  intro length walk
  have least : distance ≤ length := Nat.le_of_not_lt fun less => beyond length less walk
  exact ⟨distance, least, away.1⟩

variable {step : String → Except Error (List String)} {start : String}

/-- The names other than the start that steps lead to from there, however many. -/
def reached (step : String → Except Error (List String)) (start : String) : Set String :=
  {name | name ≠ start ∧ ∃ length, Walk (StepsBy step) length start name}

/-- If steps lead to listed names alone, no more are reached than are listed. -/
theorem reached_few {targets : List String}
    (inside : ∀ name target, StepsBy step name target → target ∈ targets) (start : String) :
    (reached step start).Finite ∧ (reached step start).ncard ≤ targets.length := by
  have listed : reached step start ⊆ (targets.toFinset : Set String) := by
    rintro name ⟨other, length, walk⟩
    cases length with
    -- The start does not count.
    | zero => exact absurd (walk_zero_iff.mp walk) other
    -- The last step leads to a target.
    | succ length =>
      obtain ⟨middle, _, last⟩ := walk_succ_iff.mp walk
      exact List.mem_toFinset.mpr (inside middle name last)
  refine ⟨targets.toFinset.finite_toSet.subset listed, ?_⟩
  calc (reached step start).ncard
      ≤ (targets.toFinset : Set String).ncard := Set.ncard_le_ncard listed
    _ = targets.toFinset.card := Set.ncard_coe_finset _
    _ ≤ targets.length := List.toFinset_card_le targets

/-! ### Levels -/

/-- Which names are unseen depends on which are seen, and not on how they are listed. -/
theorem unseen_congr {seen other : List String} (same : ∀ name, name ∈ seen ↔ name ∈ other)
    (names : List String) : unseen seen names = unseen other names := by
  induction names generalizing seen other with
  | nil => rfl
  | cons first rest ih =>
    have later := @ih (first :: seen) (first :: other) fun name => by simp [same]
    simp only [unseen, List.contains_iff_mem, same, ih same, later]

/-- What a queue finds depends on which names are seen, and not on how they are listed. -/
theorem queueBehind_congr {seen other : List String} (same : ∀ name, name ∈ seen ↔ name ∈ other)
    (turns : Nat) (queue : List String) :
    queueBehind step turns seen queue = queueBehind step turns other queue := by
  induction turns generalizing seen other queue with
  | zero => rfl
  | succ turns ih =>
    cases queue with
    | nil => rfl
    | cons name queue =>
      cases stepped : step name with
      -- The step fails in both.
      | error error => simp only [queueBehind, stepped, error_bind]
      -- The step leads to the same names that are new.
      | ok targets =>
        have fresh := unseen_congr same targets
        have later := @ih (unseen other targets ++ seen) (unseen other targets ++ other)
          (fun name => by simp [same]) (queue ++ unseen other targets)
        simp only [queueBehind, stepped, ok_bind, fresh, later]

/-- The next level has the names that were not seen and are one step behind the level. -/
theorem mem_nextLevel {seen level next : List String}
    (listed : nextLevel step seen level = .ok next)
    {name : String} : name ∈ next ↔ name ∉ seen ∧ ∃ source ∈ level, StepsBy step source name := by
  induction level generalizing seen next with
  | nil =>
    obtain rfl := Except.ok.inj listed
    simp
  | cons source rest ih =>
    obtain ⟨targets, stepped, listed⟩ := bind_eq_ok.mp listed
    obtain ⟨more, listedMore, listed⟩ := bind_eq_ok.mp listed
    obtain rfl := Except.ok.inj listed
    have leads : StepsBy step source name ↔ name ∈ targets := by simp [StepsBy, stepped]
    simp only [List.mem_append, mem_unseen, ih listedMore, List.exists_mem_cons_iff, leads, not_or,
      not_and_or, not_not]
    -- A name behind the rest that is not listed here was a target of the source, or is new.
    tauto

/-- The next level has no name twice. -/
theorem nodup_nextLevel {seen level next : List String}
    (listed : nextLevel step seen level = .ok next) :
    next.Nodup := by
  induction level generalizing seen next with
  | nil =>
    obtain rfl := Except.ok.inj listed
    exact List.nodup_nil
  | cons source rest ih =>
    obtain ⟨targets, stepped, listed⟩ := bind_eq_ok.mp listed
    obtain ⟨more, listedMore, listed⟩ := bind_eq_ok.mp listed
    obtain rfl := Except.ok.inj listed
    -- What the source leads to is seen by the rest.
    refine (nodup_unseen seen targets).append (ih listedMore) fun name fresh again => ?_
    exact ((mem_nextLevel listedMore).mp again).1 (List.mem_append_left _ fresh)

/-- A level fails only where a step from one of its names fails. -/
theorem nextLevel_error {seen level : List String} {error : Error}
    (failed : nextLevel step seen level = .error error) :
    ∃ name ∈ level, step name = .error error := by
  induction level generalizing seen with
  | nil => cases failed
  | cons source rest ih =>
    rcases bind_eq_error.mp failed with first | ⟨targets, _, failed⟩
    · -- The first name has no step.
      exact ⟨source, List.mem_cons_self .., first⟩
    -- One of the others has none.
    rcases bind_eq_error.mp failed with later | ⟨more, _, failed⟩
    · obtain ⟨name, member, failed⟩ := ih later
      exact ⟨name, List.mem_cons_of_mem _ member, failed⟩
    · -- Nothing fails behind that.
      cases failed

/-- The levels fail only where a step from a name fails that they lead to. -/
theorem levelsBehind_error {levels : Nat} {seen level : List String} {error : Error}
    (failed : levelsBehind step levels seen level = .error error) :
    ∃ source ∈ level, ∃ length name, Walk (StepsBy step) length source name ∧
      step name = .error error := by
  induction levels generalizing seen level with
  | zero => cases failed
  | succ levels ih =>
    rcases bind_eq_error.mp failed with here | ⟨next, listed, failed⟩
    · -- A name of this level has no step.
      obtain ⟨source, member, failed⟩ := nextLevel_error here
      exact ⟨source, member, 0, source, .here source, failed⟩
    split at failed
    · -- An empty level ends the search.
      cases failed
    rcases bind_eq_error.mp failed with later | ⟨more, _, failed⟩
    · -- The walk from the next level is one step longer from this one.
      obtain ⟨middle, member, length, name, walk, failed⟩ := ih later
      obtain ⟨_, source, onLevel, leads⟩ := (mem_nextLevel listed).mp member
      exact ⟨source, onLevel, length + 1, name, .onward leads walk, failed⟩
    · -- Nothing fails behind that.
      cases failed

/-! ### Levels in a queue -/

/-- A queue that has the rest of a level in front, and behind it what was found of the next one,
finishes that level before it goes on. -/
theorem queueBehind_level (turns : Nat) (seen level found : List String) :
    queueBehind step (level.length + turns) seen (level ++ found) = (do
      let next ← nextLevel step seen level
      let more ← queueBehind step turns (next ++ seen) (found ++ next)
      return next ++ more) := by
  -- What a name of the level leads to is put behind what was found before.
  induction level generalizing seen found with
  -- The level is done, and the queue goes on with what was found.
  | nil =>
    simp only [List.length_nil, Nat.zero_add, List.nil_append, nextLevel, ok_bind, List.append_nil]
    cases queueBehind step turns seen found <;> rfl
  | cons name rest ih =>
    rw [List.length_cons, Nat.add_right_comm, List.cons_append]
    cases stepped : step name with
    -- The step fails in both.
    | error error => simp only [queueBehind, nextLevel, stepped, error_bind]
    -- What is new is put behind the queue.
    | ok targets =>
      have behind := ih (unseen seen targets ++ seen) (found ++ unseen seen targets)
      simp only [queueBehind, nextLevel, stepped, ok_bind, List.append_assoc, behind]
      cases nextLevel step (unseen seen targets ++ seen) rest with
      | error error => rfl
      | ok next =>
        have same := @queueBehind_congr step (next ++ (unseen seen targets ++ seen))
          (unseen seen targets ++ (next ++ seen)) (fun name => by simp [or_left_comm]) turns
          (found ++ (unseen seen targets ++ next))
        simp only [ok_bind, pure_eq_ok, List.append_assoc, same]
        cases queueBehind step turns (unseen seen targets ++ (next ++ seen))
          (found ++ (unseen seen targets ++ next)) <;> rfl

/-- With a level for each name that is yet to be seen and one more, and a turn for each name that
waits or is yet to be seen, levels and queue come to the same. -/
theorem levelsBehind_eq_queueBehind {whole : Finset String}
    (closed : ∀ name ∈ whole, ∀ target, StepsBy step name target → target ∈ whole)
    {levels turns : Nat}
    {seen level : List String} (inside : ∀ name ∈ level, name ∈ whole)
    (enough : (whole \ seen.toFinset).card + 1 ≤ levels)
    (enoughTurns : level.length + (whole \ seen.toFinset).card ≤ turns) :
    levelsBehind step levels seen level = queueBehind step turns seen level := by
  -- Each level that is not empty leaves fewer names to be seen.
  induction levels generalizing turns seen level with
  | zero => omega
  | succ levels ih =>
    obtain ⟨rest, rfl⟩ := Nat.exists_eq_add_of_le (Nat.le_of_add_right_le enoughTurns)
    have behind := @queueBehind_level step rest seen level []
    rw [List.append_nil] at behind
    rw [behind, levelsBehind]
    cases listed : nextLevel step seen level with
    -- The step fails in both.
    | error error => rfl
    | ok next =>
      simp only [ok_bind, List.nil_append, List.isEmpty_iff]
      -- No level follows, and the queue is empty.
      by_cases empty : next = []
      · subst empty
        cases rest <;> rfl
      · -- All names of the level are new, so fewer are left to be seen.
        have new : ∀ name ∈ next, name ∈ whole ∧ name ∉ seen := by
          intro name member
          obtain ⟨absent, source, onLevel, leads⟩ := (mem_nextLevel listed).mp member
          exact ⟨closed source (inside source onLevel) name leads, absent⟩
        have count := card_fresh (nodup_nextLevel listed) new
        have some_found := List.length_pos_iff.mpr empty
        have same := @ih rest (next ++ seen)
          next (fun name member => (new name member).1) (by omega)
          (by omega)
        simp only [if_neg empty, same]

/-- Where no more names are reached than the bounds, levels and queue find the same from the
start. -/
theorem reachByLevels_eq {bound turns : Nat} (finite : (reached step start).Finite)
    (few : (reached step start).ncard ≤ bound) (fewTurns : (reached step start).ncard ≤ turns) :
    reachByLevels step bound start = reachByQueue step turns start := by
  -- The start and what is reached from it are closed under steps.
  have closed : ∀ name ∈ insert start finite.toFinset, ∀ target, StepsBy step name target →
      target ∈ insert start finite.toFinset := by
    intro name member target leads
    have walk : ∃ length, Walk (StepsBy step) length start name := by
      rcases Finset.mem_insert.mp member with rfl | member
      · -- The name is the start.
        exact ⟨0, .here name⟩
      · -- The name is reached.
        exact (finite.mem_toFinset.mp member).2
    obtain ⟨length, walk⟩ := walk
    by_cases same : target = start
    · -- The target is the start again.
      exact Finset.mem_insert.mpr (.inl same)
    · -- The target is reached by a step more.
      exact Finset.mem_insert.mpr
        (.inr (finite.mem_toFinset.mpr ⟨same, length + 1, walk.concat leads⟩))
  -- The start itself is seen already.
  have count : (insert start finite.toFinset \ [start].toFinset).card ≤
      (reached step start).ncard := by
    rw [Set.ncard_eq_toFinset_card _ finite]
    refine Finset.card_le_card fun name member => ?_
    obtain ⟨listed, other⟩ := Finset.mem_sdiff.mp member
    exact (Finset.mem_insert.mp listed).resolve_left fun same => other (by simp [same])
  refine levelsBehind_eq_queueBehind closed (by simp) (by omega) ?_
  rw [List.length_singleton]
  omega

/-! ### The order of levels -/

/-- The names one step behind a level that were not seen are those one step farther away than the
level. -/
theorem isAway_succ_iff {distance : Nat} {seen level : List String}
    (away : ∀ name, name ∈ level ↔ IsAway (StepsBy step) start distance name)
    (within : ∀ name, name ∈ seen ↔ ∃ length ≤ distance, Walk (StepsBy step) length start name)
    {name : String} :
    IsAway (StepsBy step) start (distance + 1) name ↔
      name ∉ seen ∧ ∃ source ∈ level, StepsBy step source name := by
  constructor
  · -- A name that is farther away has not been seen.
    rintro ⟨walk, least⟩
    have unknown : name ∉ seen := by
      rw [within]
      rintro ⟨length, short, again⟩
      exact least length (Nat.lt_succ_of_le short) again
    obtain ⟨source, before, last⟩ := walk_succ_iff.mp walk
    -- A shorter walk to the source would lead to a shorter one to the name.
    have sourceAway : IsAway (StepsBy step) start distance source :=
      ⟨before, fun shorter less short =>
        least (shorter + 1) (Nat.succ_lt_succ less) (short.concat last)⟩
    exact ⟨unknown, source, (away source).mpr sourceAway, last⟩
  · -- Without having been seen it is no nearer.
    rintro ⟨unknown, source, onLevel, leads⟩
    refine ⟨((away source).mp onLevel).1.concat leads, fun shorter less short => ?_⟩
    exact unknown ((within name).mpr ⟨shorter, Nat.le_of_lt_succ less, short⟩)

/-- With the names one step farther away, all are seen that are within one step more. -/
theorem mem_within_succ {distance : Nat} {seen next : List String}
    (away : ∀ name, name ∈ next ↔ IsAway (StepsBy step) start (distance + 1) name)
    (within : ∀ name, name ∈ seen ↔ ∃ length ≤ distance, Walk (StepsBy step) length start name)
    {name : String} :
    name ∈ next ++ seen ↔ ∃ length ≤ distance + 1, Walk (StepsBy step) length start name := by
  rw [List.mem_append, away, within]
  constructor
  · rintro (⟨walk, _⟩ | ⟨length, short, walk⟩)
    · -- A name of the level is as far away.
      exact ⟨distance + 1, le_rfl, walk⟩
    · -- A name that has been seen is nearer.
      exact ⟨length, Nat.le_succ_of_le short, walk⟩
  · rintro ⟨length, short, walk⟩
    by_cases known : ∃ length ≤ distance, Walk (StepsBy step) length start name
    · -- The name has been seen.
      exact .inr known
    · -- No shorter walk leads there, so this one is as long as it may be.
      have nearer : ∀ shorter < distance + 1, ¬ Walk (StepsBy step) shorter start name :=
        fun shorter less again => known ⟨shorter, Nat.le_of_lt_succ less, again⟩
      obtain rfl : length = distance + 1 :=
        le_antisymm short (Nat.le_of_not_lt fun less => nearer length less walk)
      exact .inl ⟨walk, nearer⟩

/-- From a level of all names so far away, with all nearer ones seen, the levels behind it list
names that are farther away, each once and none behind one that is farther. -/
theorem levelsBehind_order {levels distance : Nat} {seen level found : List String}
    (away : ∀ name, name ∈ level ↔ IsAway (StepsBy step) start distance name)
    (within : ∀ name, name ∈ seen ↔ ∃ length ≤ distance, Walk (StepsBy step) length start name)
    (listed : levelsBehind step levels seen level = .ok found) :
    found.Nodup ∧ found.Pairwise (NoFarther (StepsBy step) start) ∧
      ∀ name ∈ found, ∀ length ≤ distance, ¬ Walk (StepsBy step) length start name := by
  -- The next level is one step farther away, and what is listed behind it is farther still.
  induction levels generalizing distance seen level found with
  | zero =>
    -- Nothing is listed.
    obtain rfl := Except.ok.inj listed
    simp
  | succ levels ih =>
    obtain ⟨next, behind, listed⟩ := bind_eq_ok.mp listed
    split at listed
    · -- The next level is empty.
      obtain rfl := Except.ok.inj listed
      simp
    obtain ⟨rest, listedRest, listed⟩ := bind_eq_ok.mp listed
    obtain rfl := Except.ok.inj listed
    have awayNext : ∀ name, name ∈ next ↔ IsAway (StepsBy step) start (distance + 1) name :=
      fun name => (mem_nextLevel behind).trans (isAway_succ_iff away within).symm
    have withinNext : ∀ name, name ∈ next ++ seen ↔
        ∃ length ≤ distance + 1, Walk (StepsBy step) length start name :=
      fun _ => mem_within_succ awayNext within
    obtain ⟨different, ordered, farther⟩ := ih awayNext withinNext listedRest
    refine ⟨?_, List.pairwise_append.mpr ⟨?_, ordered, ?_⟩, ?_⟩
    · -- A level has no name twice, and none that comes later.
      exact (nodup_nextLevel behind).append different fun name here later =>
        farther name later (distance + 1) le_rfl ((awayNext name).mp here).1
    · -- All names of a level are equally far away.
      exact List.Pairwise.imp_of_mem
        (fun near far _ => ((awayNext _).mp near).noFarther ((awayNext _).mp far).2)
        (List.pairwise_of_forall fun _ _ => trivial)
    · -- A name of the level is nearer than what comes later.
      exact fun near here far later => ((awayNext near).mp here).noFarther fun shorter less =>
        farther far later shorter (Nat.le_of_lt less)
    · -- No name of the level, and none that comes later, is nearer.
      intro name member length short
      rcases List.mem_append.mp member with here | later
      · exact ((awayNext name).mp here).2 length (Nat.lt_succ_of_le short)
      · exact farther name later length (Nat.le_succ_of_le short)

/-- What is reached by levels is listed once and the nearest first. -/
theorem reachByLevels_order {bound : Nat} {found : List String}
    (listed : reachByLevels step bound start = .ok found) :
    found.Nodup ∧ found.Pairwise (NoFarther (StepsBy step) start) := by
  -- The start alone is no step away, and nothing else is seen.
  have away : ∀ name, name ∈ [start] ↔ IsAway (StepsBy step) start 0 name := by
    simp [IsAway, walk_zero_iff]
  have within : ∀ name, name ∈ [start] ↔ ∃ length ≤ 0, Walk (StepsBy step) length start name := by
    simp [walk_zero_iff]
  obtain ⟨different, ordered, _⟩ := levelsBehind_order away within listed
  exact ⟨different, ordered⟩

/-! ### Managers of roles -/

/-- If steps lead to listed names alone, a bound for each of these is as good as one for each name
reached, for a queue as for levels. -/
theorem reach_eq_reachByLevels {targets : List String}
    (inside : ∀ name target, StepsBy step name target → target ∈ targets) (start : String) :
    reachByQueue step targets.length start = reachByLevels step (reached step start).ncard start ∧
      reachByLevels step targets.length start =
        reachByLevels step (reached step start).ncard start := by
  obtain ⟨finite, few⟩ := reached_few inside start
  have queue := reachByLevels_eq finite le_rfl few
  exact ⟨queue.symm, (reachByLevels_eq finite few few).trans queue.symm⟩

namespace RoleManager

/-- What is taken from some links of a list is taken from the list. -/
theorem mem_parts {links : List Link} {test : String → Link → Bool} {part : Link → String}
    {name target : String}
    (leads : StepsBy (fun name => .ok ((links.filter (test name)).map part)) name target) :
    target ∈ links.map part := by
  obtain ⟨_, ⟨⟩, listed⟩ := leads
  obtain ⟨link, kept, rfl⟩ := List.mem_map.mp listed
  exact List.mem_map_of_mem (List.mem_filter.mp kept).1

/-- In a list of links a level for each link is enough. -/
theorem reachByLevels_links (links : List Link) (test : String → Link → Bool) (part : Link → String)
    (name : String) :
    let step := fun name => .ok ((links.filter (test name)).map part)
    reachByLevels step links.length name = reachByLevels step (reached step name).ncard name := by
  intro step
  have inside : ∀ source target, StepsBy step source target → target ∈ links.map part :=
    fun _ _ => mem_parts
  have same := (reach_eq_reachByLevels inside name).2
  rwa [List.length_map] at same

/-- All groups of a name in any manager are what levels of its direct groups come to. -/
theorem implicitRoles_eq (manager : RoleManager) (name domain : String) :
    manager.implicitRoles name domain = reachByLevels (manager.roles · domain)
      (reached (manager.roles · domain) name).ncard name := by
  cases manager with
  -- A hierarchy has finitely many targets.
  | hierarchy h => exact (reach_eq_reachByLevels (fun _ _ => Hierarchy.mem_allTargets) name).1
  -- And there are finitely many direct links.
  | direct links =>
    exact reachByLevels_links links (fun name link => link.member == name && link.domain == domain)
      (·.group) name

/-- All members of a name in any manager are what levels of its direct members come to. -/
theorem implicitUsers_eq (manager : RoleManager) (name domain : String) :
    manager.implicitUsers name domain = reachByLevels (manager.users · domain)
      (reached (manager.users · domain) name).ncard name := by
  cases manager with
  | hierarchy h => exact (reach_eq_reachByLevels (fun _ _ => Hierarchy.mem_allTargets) name).1
  | direct links =>
    exact reachByLevels_links links (fun name link => link.group == name && link.domain == domain)
      (·.member) name

/-- Where finitely many names are reached, levels and queue list the same in the same order, or fail
alike, whatever their bounds are from the number of these names on, and they fail only where a step
fails; so managers that agree on what is direct agree on all groups and members, whichever way they
go on. -/
theorem reachByLevels_eq_reachByQueue :
    (∀ (step : String → String → Except Error (List String)) (name domain : String),
      (reached (step · domain) name).Finite → ∀ bound turns,
        (reached (step · domain) name).ncard ≤ bound →
        (reached (step · domain) name).ncard ≤ turns →
          reachByLevels (step · domain) bound name = reachByQueue (step · domain) turns name ∧
          ((∀ length other, Walk (StepsBy (step · domain)) length name other →
              ∃ targets, step other domain = .ok targets) →
            ∃ found, reachByQueue (step · domain) turns name = .ok found)) ∧
    ∀ (manager other : RoleManager) (name domain : String),
      ((∀ member, manager.roles member domain = other.roles member domain) →
        manager.implicitRoles name domain = other.implicitRoles name domain) ∧
      ((∀ group, manager.users group domain = other.users group domain) →
        manager.implicitUsers name domain = other.implicitUsers name domain) := by
  refine ⟨fun step name domain finite bound turns few fewTurns => ?_,
    fun manager other name domain => ⟨?_, ?_⟩⟩
  · -- Both searches find the same, and an error would be one of a step.
    have same := reachByLevels_eq finite few fewTurns
    refine ⟨same, fun answers => ?_⟩
    rw [← same]
    cases listed : reachByLevels (step · domain) bound name with
    | ok found => exact ⟨found, rfl⟩
    | error error =>
      -- The walk to the step that fails starts from the name, and it answers there.
      obtain ⟨source, only, length, last, walk, failed⟩ := levelsBehind_error listed
      obtain rfl := List.mem_singleton.mp only
      obtain ⟨targets, stepped⟩ := answers length last walk
      cases failed.symm.trans stepped
  · -- The roles decide what is implied.
    intro agree
    rw [implicitRoles_eq, implicitRoles_eq, funext agree]
  · -- And so do the users.
    intro agree
    rw [implicitUsers_eq, implicitUsers_eq, funext agree]

/-- Two ways from a member to a group, and one back from there. -/
def roundabout : List Link :=
  [⟨"alice", "editor", ""⟩, ⟨"alice", "viewer", ""⟩, ⟨"editor", "admin", ""⟩,
    ⟨"viewer", "admin", ""⟩, ⟨"admin", "alice", ""⟩]

/-- A hierarchy of the links that lead around. -/
def roundaboutHierarchy : Hierarchy := ⟨.whole 10, .ofLinks roundabout, none, none⟩

/-- Direct groups are the same in a list of the links that lead around and in a hierarchy of
them. -/
theorem roles_roundabout (member : String) :
    (direct roundabout).roles member "" = (hierarchy roundaboutHierarchy).roles member "" := by
  have graph : (RoleGraph.ofLinks roundabout).roles = [("", [("alice", ["editor", "viewer"]),
      ("editor", ["admin"]), ("viewer", ["admin"]), ("admin", ["alice"])])] := by decide
  by_cases named : member ∈ ["alice", "editor", "viewer", "admin"]
  · -- The names of the links have the same groups in both.
    simp only [List.mem_cons, List.not_mem_nil, or_false] at named
    rcases named with rfl | rfl | rfl | rfl <;> rfl
  · -- No other name is a member in either of them.
    simp only [List.mem_cons, List.not_mem_nil, or_false, not_or] at named
    obtain ⟨alice, editor, viewer, admin⟩ := named
    have none_listed : directRoles roundabout member "" = [] := by
      simp [directRoles, roundabout, Ne.symm alice, Ne.symm editor, Ne.symm viewer, Ne.symm admin]
    have none_found : roundaboutHierarchy.roles member "" = .ok [] := by
      simp [roundaboutHierarchy, Hierarchy.roles, graph, Hierarchy.neighbours, Hierarchy.keep,
        Hierarchy.matchesDomain, Hierarchy.matchesName, alice, editor, viewer, admin, Text.distinct]
    simp only [roles, none_listed, none_found]

/-- A list of links that lead around and a hierarchy of them agree on who has what, each in its own
way. -/
theorem reachByLevels_eq_reachByQueue_roundabout :
    (direct roundabout).implicitRoles "alice" "" = .ok ["editor", "viewer", "admin"] ∧
    (direct roundabout).implicitRoles "alice" "" =
      reachByQueue ((direct roundabout).roles · "") 5 "alice" ∧
    (direct roundabout).implicitRoles "alice" "" =
      (hierarchy roundaboutHierarchy).implicitRoles "alice" "" := by
  have inside : ∀ name target, StepsBy ((direct roundabout).roles · "") name target →
      target ∈ roundabout.map (·.group) := fun _ _ => mem_parts
  obtain ⟨finite, few⟩ := reached_few inside "alice"
  obtain ⟨searches, managers⟩ := reachByLevels_eq_reachByQueue
  exact ⟨rfl, (searches (direct roundabout).roles "alice" "" finite 5 5 few few).1,
    (managers (direct roundabout) (hierarchy roundaboutHierarchy) "alice" "").1 roles_roundabout⟩

end RoleManager

end AccessControl
