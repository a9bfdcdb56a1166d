import AccessControl.Proofs.Enforcer.Links
import Mathlib.Data.List.DropRight

/-! A manager has the links of the rules that were stored when links were last made, and writes
change nothing else about it. -/

namespace AccessControl

/-- The write makes new links whatever the configuration says. -/
def Write.isBuild : Write → Bool
  | .build => true
  | _ => false

/-- The writes up to the last one that made links. With a configuration that has links follow the
rules these are all writes, and else those up to the last one that asked for links. -/
def Config.linked (config : Config) (writes : List Write) : List Write :=
  if config.buildsLinks then writes else writes.rdropWhile fun write => !write.isBuild

namespace Enforcer

variable {enforcer changed : Enforcer}

/-- Without a configuration that has links follow the rules, changes to these leave the managers
alone. -/
theorem roster_keptByChanges (roster : Roster) :
    KeptByChanges fun after => after.config.buildsLinks = false ∧ after.roster = roster where
  policy := by
    rintro enforcer changed ptype change isDone ⟨off, same⟩ changes
    obtain rfl | ⟨_, rules, rfl⟩ := changePolicy_cases changes
    · exact ⟨off, same⟩
    · exact ⟨off, same⟩
  grouping := by
    rintro enforcer changed gtype change isDone ⟨off, same⟩ changes
    obtain rfl | ⟨_, rules, changes⟩ := changeGrouping_cases changes
    · exact ⟨off, same⟩
    · rw [off] at changes
      subst changes
      exact ⟨off, same⟩
  load := by
    rintro enforcer changed policies groupings ⟨off, same⟩ loads
    obtain ⟨store, follows⟩ := load_cases loads
    simp only [followRules, off] at follows
    obtain rfl := Except.ok.inj follows
    exact ⟨off, same⟩
  clear := by
    rintro enforcer ⟨off, same⟩
    exact ⟨off, by simp [clearRules, off, same]⟩

/-- A linked enforcer that differs in rules and links alone from one with a hierarchy has it with
the links of its own rules. -/
theorem IsLinked.find?_of_bare (linked : changed.IsLinked) (same : changed.bare = enforcer.bare)
    {gtype : String} {h : Hierarchy} (found : enforcer.roster.find? gtype = some (.hierarchy h))
    (declared : changed.model.isGroupingType gtype = true) :
    changed.roster.find? gtype = some (.hierarchy
      { h with graph := .ofLinks (Link.ofRules (changed.store.rules gtype)) }) := by
  obtain ⟨own, present, graph⟩ := linked.follows gtype declared
  -- Without their links the two hierarchies are the same.
  have cleared := map_clear_of_bare same gtype
  rw [present, found] at cleared
  obtain ⟨limit, _, names, domains⟩ :=
    Hierarchy.mk.inj (RoleManager.hierarchy.inj (Option.some.inj cleared))
  rw [present, ← graph, ← limit, ← names, ← domains]

/-- If links do not follow the rules, a hierarchy has those of the rules stored at the last time
when links were asked for. -/
theorem find?_writes_unfollowed (off : enforcer.config.buildsLinks = false)
    (seated : enforcer.roster.IsSeated) {gtype : String} {h : Hierarchy}
    (found : enforcer.roster.find? gtype = some (.hierarchy h))
    (follows : h.graph = .ofLinks (Link.ofRules (enforcer.store.rules gtype)))
    (writes : List Write) :
    (enforcer.writes writes).roster.find? gtype = some (.hierarchy { h with
      graph := .ofLinks (Link.ofRules
        ((enforcer.writes (writes.rdropWhile fun write => !write.isBuild)).store.rules gtype))
          }) := by
  -- The last write decides whether the links are new or those of the writes before it.
  induction writes using List.reverseRecOn with
  | nil => simpa [Enforcer.writes, ← follows] using found
  | append_singleton earlier last ih =>
    have after : enforcer.writes (earlier ++ [last]) = (enforcer.writes earlier).write last := by
      simp [Enforcer.writes]
    have frame := writes_bare enforcer earlier
    by_cases builds : last = .build
    · subst builds
      rw [List.rdropWhile_concat_neg _ _ _ (by simp [Write.isBuild]), after]
      -- New links are made of what is stored now, which they leave as it is.
      have seatedNow := seated.of_bare (congrArg (·.roster) frame)
      simp [Enforcer.write, leave, buildLinks_result, Roster.find?_modifyAll seatedNow,
        ih, relinked, RoleManager.rebuilt]
    · have changes : (!last.isBuild) = true := by
        cases last <;> simp_all [Write.isBuild]
      rw [List.rdropWhile_concat_pos (fun write => !write.isBuild) earlier last changes, after]
      have offNow : (enforcer.writes earlier).config.buildsLinks = false :=
        (congrArg (·.config.buildsLinks) frame).trans off
      -- A change to the rules leaves the managers alone.
      have kept := (roster_keptByChanges _).write ⟨offNow, rfl⟩ builds
      rw [kept.2, ih]

/-- The links of a hierarchy are those of the rules that were stored at the last time when links
were made, and its limit and its tests are those from before all writes. -/
theorem find?_writes (seated : enforcer.roster.IsSeated)
    (linked : enforcer.config.buildsLinks = true → enforcer.IsLinked) {gtype : String}
    {h : Hierarchy}
    (found : enforcer.roster.find? gtype = some (.hierarchy h))
    (follows : h.graph = .ofLinks (Link.ofRules (enforcer.store.rules gtype)))
    (declared : enforcer.model.isGroupingType gtype = true) (writes : List Write) :
    (enforcer.writes writes).roster.find? gtype = some (.hierarchy { h with
      graph := .ofLinks (Link.ofRules
        ((enforcer.writes (enforcer.config.linked writes)).store.rules gtype)) }) := by
  cases builds : enforcer.config.buildsLinks with
  | true =>
    have same := writes_bare enforcer writes
    have model : (enforcer.writes writes).model = enforcer.model := congrArg (·.model) same
    simpa [Config.linked, builds] using
      (isLinked_keptByWrites.writes (linked builds) writes).find?_of_bare same found
      (model ▸ declared)
  | false =>
    simpa [Config.linked, builds] using find?_writes_unfollowed builds seated found follows writes

/-! ### Enforcers from the start -/

section

variable {functions : Registry} {config : Config} {model : Model}

/-- An enforcer that is made has no rules, and for each grouping type a hierarchy without links. -/
theorem create_find? [Host] (created : (create functions config model).result = .ok enforcer)
    {gtype : String} (declared : model.isGroupingType gtype = true) :
    enforcer.store = .empty ∧ enforcer.roster.find? gtype =
      some (.hierarchy ⟨config.maxHierarchyLevel, .ofLinks [], none, none⟩) := by
  obtain ⟨matchers, warned, _, _, follows⟩ := setModel_cases created
  have listed : gtype ∈ model.roles.map (·.1) := lookupKey_isSome.mp declared
  have seated := Roster.reseat_isSeated Roster.empty_isSeated (model.roles.map (·.1))
    (.ofLimit config.maxHierarchyLevel)
  have new : (Roster.empty.reseat (model.roles.map (·.1))
      (.ofLimit config.maxHierarchyLevel)).find? gtype =
        some (.ofLimit config.maxHierarchyLevel) := by
    simp [Roster.find?_reseat Roster.empty_isSeated, listed]
  simp only [followRules] at follows
  split at follows
  · -- Links are made, but of no rules.
    obtain rfl := Except.ok.inj ((buildLinks_result _).symm.trans follows)
    refine ⟨rfl, ?_⟩
    simp only [refresh, Roster.find?_modifyAll seated, new]
    rfl
  · obtain rfl := Except.ok.inj follows
    exact ⟨rfl, new⟩

/-- After any writes matchers call, under the name of a grouping type, a hierarchy that has the
limit of the configuration and no tests, and the links of the rules stored at the last time when
links were made. -/
theorem function?_writes [Host] (apart : model.TypesApart)
    (created : (create functions config model).result = .ok enforcer) {gtype : String}
    (declared : model.isGroupingType gtype = true) (writes : List Write) :
    (enforcer.writes writes).function? gtype = some ((enforcer.writes writes).membership (.hierarchy
      ⟨config.maxHierarchyLevel, .ofLinks (Link.ofRules
        ((enforcer.writes (config.linked writes)).store.rules gtype)), none, none⟩)) := by
  obtain ⟨store, found⟩ := create_find? created declared
  obtain ⟨matchers, warned, _, _, follows⟩ := setModel_cases created
  -- What the enforcer is made of but for rules and links.
  have made := followRules_bare follows
  have kept := writes_bare enforcer writes
  have ownConfig : enforcer.config = config := congrArg (·.config) made
  have ownModel : enforcer.model = model := congrArg (·.model) made
  have seated : enforcer.roster.IsSeated :=
    (Roster.reseat_isSeated Roster.empty_isSeated _ _).of_bare (congrArg (·.roster) made)
  have linked (builds : enforcer.config.buildsLinks = true) : enforcer.IsLinked :=
    create_isLinked (ownConfig ▸ builds) apart created
  have present := find?_writes seated linked found (by rw [store]; rfl) (ownModel ▸ declared) writes
  rw [ownConfig] at present
  -- Writes leave the evaluator and the seats, which it knew from the start.
  have knows : enforcer.KnowsSeats := (knowsSeats_refresh _).of_bare made
  exact (knows.of_bare kept).function?_of_find? present

end

end Enforcer

end AccessControl
