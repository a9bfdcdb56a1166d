import AccessControl.Proofs.Decision.Matched
import AccessControl.Proofs.Enforcer.Tenant
import AccessControl.Proofs.Enforcer.Upkeep

/-! In the tenant model no request of one domain is decided by the rules of another one. -/

namespace AccessControl

/-! ### Requests of a domain -/

section

variable {host : Host} {function? other? : String → Option Callable} {h other : Hierarchy}
variable {subject domain object action : String}

/-- Nothing but errors of the matcher comes of evaluating it. -/
theorem tenantInquiry_contains (bound : function? "g" = some (.membership (some (.hierarchy h))))
    (rule : Rule) : (tenantInquiry host function? subject domain object action).Contains rule := by
  intro error failed
  have evaluated :=
    (@tenantMatcher_holds host function? subject domain object action rule h bound).symm.trans
    failed
  -- Only the search of the hierarchy fails, and the call of the matcher says so.
  split at evaluated
  · cases evaluated
  · obtain rfl := Except.error.inj evaluated
    rfl

/-- A rule that matches is one of the domain of the request. -/
theorem domain_of_matchesRule (bound : function? "g" = some (.membership (some (.hierarchy h))))
    {rule : Rule}
    (isMatched : (tenantInquiry host function? subject domain object action).matchesRule
      rule = true) :
    rule.cell 1 = domain := by
  have evaluated := @tenantMatcher_holds host function? subject domain object action rule h bound
  simp only [Inquiry.matchesRule, tenantInquiry] at isMatched evaluated
  rw [evaluated] at isMatched
  cases answer : h.hasLink subject (rule.cell 0) domain with
  | ok linked =>
    -- The second clause of the matcher compares the domains.
    simp only [answer, Bool.and_eq_true, beq_iff_eq] at isMatched
    exact isMatched.2.1.symm
  | error error => simp [answer] at isMatched

/-- Rules of other domains do not matter for what matches. -/
theorem filter_matchesRule (bound : function? "g" = some (.membership (some (.hierarchy h))))
    (rules : List Rule) :
    rules.filter (tenantInquiry host function? subject domain object action).matchesRule =
      (rules.filter (·.cell 1 == domain)).filter
        (tenantInquiry host function? subject domain object action).matchesRule := by
  rw [List.filter_filter]
  refine List.filter_congr fun rule _ => ?_
  cases isMatched : (tenantInquiry host function? subject domain object action).matchesRule rule
    with
  | true =>
    -- A rule that matches has the domain of the request.
    simp [domain_of_matchesRule bound isMatched]
  | false => rfl

/-- Two hierarchies with the same answers within the domain of the request let the same rules
match. -/
theorem matchesRule_congr {otherHost : Host}
    (bound : function? "g" = some (@Callable.membership host.toRuntime (some (.hierarchy h))))
    (otherBound :
      other? "g" = some (@Callable.membership otherHost.toRuntime (some (.hierarchy other))))
    (answers : ∀ name target, h.hasLink name target domain = other.hasLink name target domain) :
    (tenantInquiry host function? subject domain object action).matchesRule =
      (tenantInquiry otherHost other? subject domain object action).matchesRule := by
  funext rule
  have evaluated := @tenantMatcher_holds host function? subject domain object action rule h bound
  have otherwise := @tenantMatcher_holds otherHost other? subject domain object action rule
    other otherBound
  have same : (tenantInquiry host function? subject domain object action).matcher.holds
        ((tenantInquiry host function? subject domain object action).environment rule) =
      (tenantInquiry otherHost other? subject domain object action).matcher.holds
        ((tenantInquiry otherHost other? subject domain object action).environment rule) := by
    rw [answers] at evaluated
    exact evaluated.trans otherwise.symm
  simp only [Inquiry.matchesRule, same]

end

namespace Enforcer

/-! ### Enforcers of the tenant model -/

/-- The enforcer has the tenant model, and matchers call a hierarchy that has no tests and the links
of these grouping rules. -/
structure IsTenant (effect : String) (limit : Bound) (groupings : List Rule) (enforcer : Enforcer) :
    Prop where
  model : enforcer.model = .tenant effect
  matchers : enforcer.matchers = [("m", tenantMatcher)]
  called : enforcer.function? "g" = some (enforcer.membership (.hierarchy
    ⟨limit, .ofLinks (Link.ofRules groupings), none, none⟩))

variable {enforcer other : Enforcer} {effect : String} {limit : Bound}
    {groupings others : List Rule}

/-- The tenant model poses an inquiry about every request of four texts. -/
theorem IsTenant.inquiry (tenant : enforcer.IsTenant effect limit groupings)
    (subject domain object action : String) :
    enforcer.inquiry .plain "" [.text subject, .text domain, .text object, .text action] =
      .ok (tenantInquiry enforcer.host enforcer.function? subject domain object action) := by
  -- Without a text of its own the request is left to the matcher of the model.
  have matcher : enforcer.matcherFor .plain "" = .ok tenantMatcher := by
    simp only [matcherFor, tenant.matchers]
    rfl
  simp only [Enforcer.inquiry, tenant.model, matcher]
  rfl

/-- An enforcer of the tenant model that is switched on reaches the verdict of the outcomes of all
stored rules. -/
theorem IsTenant.decide (tenant : enforcer.IsTenant effect limit groupings)
    (enabled : enforcer.enabled.isTrue = true) (subject domain object action : String) :
    ∃ decision all,
      (enforcer.decide .plain ""
        [.text subject, .text domain, .text object, .text action]).result = .ok decision ∧
      ((tenantInquiry enforcer.host enforcer.function? subject domain object action).askAll 0
        (enforcer.store.rules "p")).result = .ok all ∧
      decision.verdict = (enforcer.selector .plain).combine all ∧
      decision.isAllowed = (decision.verdict == .allow) := by
  have rows := (tenantInquiry enforcer.host enforcer.function? subject domain object action).rows_eq
    mem_schemas_tenantMatcher (enforcer.store.rules "p")
  obtain ⟨all, asked, _⟩ := Inquiry.askAll_contained (enforcer.store.rules "p") 0
    fun rule _ => @tenantInquiry_contains _ _ _ subject domain object action tenant.called rule
  have decided := (decide_result enabled (tenant.inquiry subject domain object action)).trans
    (Inquiry.decide_result (rows.symm ▸ asked) _)
  have combined := Selector.combine_take (enforcer.selector .plain) all
  -- Which selector it is does not matter, and its text is not to be read for that.
  generalize enforcer.selector .plain = selector at decided combined ⊢
  exact ⟨_, all, decided, asked, combined, rfl⟩

/-- Two enforcers of the tenant model that have the same rules and the same links within a domain
reach the same verdict about every request of it. -/
theorem IsTenant.decide_congr (tenant : enforcer.IsTenant effect limit groupings)
    (otherTenant : other.IsTenant effect limit others) (enabled : enforcer.enabled = other.enabled)
    {domain : String}
    (rules : (enforcer.store.rules "p").filter (·.cell 1 == domain) =
      (other.store.rules "p").filter (·.cell 1 == domain))
    (links : ∀ member group, ⟨member, group, domain⟩ ∈ Link.ofRules groupings ↔
      ⟨member, group, domain⟩ ∈ Link.ofRules others) (subject object action : String) :
    ∃ decision second,
      (enforcer.decide .plain ""
        [.text subject, .text domain, .text object, .text action]).result = .ok decision ∧
      (other.decide .plain ""
        [.text subject, .text domain, .text object, .text action]).result = .ok second ∧
      decision.verdict = second.verdict ∧ decision.isAllowed = second.isAllowed := by
  cases isOn : enforcer.enabled.isTrue with
  | false =>
    -- Nothing is asked about the request by either of them.
    have otherOff : other.enabled.isTrue = false := enabled ▸ isOn
    let asked : List Value := [.text subject, .text domain, .text object, .text action]
    refine ⟨.unasked asked, .unasked asked, ?_, ?_, rfl, rfl⟩
    · simp only [Enforcer.decide, isOn]
      rfl
    · simp only [Enforcer.decide, otherOff]
      rfl
  | true =>
    obtain ⟨decision, all, decided, asked, verdict, isAllowed⟩ :=
      tenant.decide isOn subject domain object action
    obtain ⟨second, more, otherDecided, askedOther, otherVerdict, otherAllowed⟩ :=
      otherTenant.decide (enabled ▸ isOn) subject domain object action
    -- The searches take the same steps, as they stay within the domain.
    have plain (rules : List Rule) :
        Hierarchy.IsPlain ⟨limit, .ofLinks (Link.ofRules rules), none, none⟩ := ⟨rfl, rfl⟩
    have answers := (plain groupings).hasLink_congr (plain others) rfl fun member group =>
      RoleGraph.ofLinks_has.trans ((links member group).trans RoleGraph.ofLinks_has.symm)
    -- So the same rules match, and those of other domains do not.
    have matched : (enforcer.store.rules "p").filter
          (tenantInquiry enforcer.host enforcer.function? subject domain object
            action).matchesRule =
        (other.store.rules "p").filter
          (tenantInquiry other.host other.function? subject domain object action).matchesRule := by
      rw [filter_matchesRule tenant.called, filter_matchesRule otherTenant.called, rules,
        matchesRule_congr tenant.called otherTenant.called answers]
    have selector : enforcer.selector .plain = other.selector .plain := by
      rw [Enforcer.selector, Enforcer.selector, tenant.model, otherTenant.model]
    have same : decision.verdict = second.verdict := by
      rw [verdict, otherVerdict, selector]
      exact Inquiry.combine_of_sameMatches _ asked askedOther rfl matched
    exact ⟨decision, second, decided, otherDecided, same, by rw [isAllowed, otherAllowed, same]⟩

/-- The tenant model makes an enforcer, whatever the functions, the configuration and the effect. -/
theorem create_tenant [Host] (functions : Registry) (config : Config) (effect : String) :
    ∃ start, (create functions config (.tenant effect)).result = .ok start :=
  setModel_ok (validate_tenant effect) (readMatchers_tenant effect)

/-- Whatever writes there are, an enforcer that is made of the tenant model has it, with the links
of the rules stored at the last time when links were made. -/
theorem create_isTenant [Host] {functions : Registry} {config : Config}
    (created : (create functions config (.tenant effect)).result = .ok enforcer)
    (writes : List Write) :
    (enforcer.writes writes).IsTenant effect config.maxHierarchyLevel
      ((enforcer.writes (config.linked writes)).store.rules "g") := by
  obtain ⟨matchers, warned, _, read, follows⟩ := setModel_cases created
  obtain rfl := Except.ok.inj ((readMatchers_tenant effect).symm.trans read)
  have same := (writes_bare enforcer writes).trans (followRules_bare follows)
  exact ⟨congrArg (·.model) same, congrArg (·.matchers) same,
    function?_writes (fun name => typesApart_tenant effect name) created rfl writes⟩

/-- Isolation of domains. After any two histories of writes that leave the same rules of a domain in
the same order, and the same links within it, every request of the domain has the same verdict. What
there is in other domains, before, between or after these rules, makes no difference. The links are
those of the grouping rules that were stored at the last time when links were made, which are the
stored ones if the configuration has links follow the rules. -/
theorem decide_isolated [Host] {functions : Registry} {config : Config}
    (created : (create functions config (.tenant effect)).result = .ok enforcer)
    (writes history : List Write) (domain : String)
    (rules : ((enforcer.writes writes).store.rules "p").filter (·.cell 1 == domain) =
      ((enforcer.writes history).store.rules "p").filter (·.cell 1 == domain))
    (links : ∀ member group,
      ⟨member, group, domain⟩ ∈
          Link.ofRules ((enforcer.writes (config.linked writes)).store.rules "g") ↔
        ⟨member, group, domain⟩ ∈
          Link.ofRules ((enforcer.writes (config.linked history)).store.rules "g"))
    (subject object action : String) :
    ∃ decision second,
      ((enforcer.writes writes).decide .plain ""
        [.text subject, .text domain, .text object, .text action]).result = .ok decision ∧
      ((enforcer.writes history).decide .plain ""
        [.text subject, .text domain, .text object, .text action]).result = .ok second ∧
      decision.verdict = second.verdict ∧ decision.isAllowed = second.isAllowed := by
  -- No write switches an enforcer on or off.
  have enabled : (enforcer.writes writes).enabled = (enforcer.writes history).enabled :=
    (congrArg (·.enabled) (writes_bare enforcer writes)).trans
      (congrArg (·.enabled) (writes_bare enforcer history)).symm
  exact (create_isTenant created writes).decide_congr (create_isTenant created history)
    enabled rules links subject object action

/-- A rule of the north for a group, and a member of that. -/
def northWrites : List Write := [
  .load [("p", .list [.list [.text "admin", .text "north", .text "data", .text "read"]])]
    [("g", .list [.list [.text "alice", .text "admin", .text "north"]])]]

/-- The rules of the north among those of the south, where bob is in the group. -/
def crowdedWrites : List Write := [
  .policy "p" (.add (.list [.text "admin", .text "south", .text "data", .text "read"])),
  .grouping "g" (.add (.list [.text "bob", .text "admin", .text "south"])),
  .both (.add (.list [.text "alice", .text "admin", .text "north"]))
    (.add (.list [.text "admin", .text "north", .text "data", .text "read"])),
  .grouping "g" (.add (.list [.text "alice", .text "bob"])),
  .policy "p" (.add (.list [.text "bob", .text "south", .text "data", .text "read"]))]

/-- The member in the north may read, with and without the rules of the south. -/
theorem decide_isolated_crowded :
    ∃ start, (create .empty .default (.tenant Selector.someAllow.text)).result = .ok start ∧
      ((start.writes northWrites).store.rules "p").filter (·.cell 1 == "north") =
        ((start.writes crowdedWrites).store.rules "p").filter (·.cell 1 == "north") ∧
      (∀ member group,
        ⟨member, group, "north"⟩ ∈
            Link.ofRules ((start.writes (Config.default.linked northWrites)).store.rules "g") ↔
          ⟨member, group, "north"⟩ ∈
            Link.ofRules ((start.writes (Config.default.linked crowdedWrites)).store.rules "g")) ∧
      ∃ decision second,
        ((start.writes northWrites).decide .plain ""
          [.text "alice", .text "north", .text "data", .text "read"]).result = .ok decision ∧
        ((start.writes crowdedWrites).decide .plain ""
          [.text "alice", .text "north", .text "data", .text "read"]).result = .ok second ∧
        decision.verdict = .allow ∧ second.verdict = .allow := by
  obtain ⟨start, created⟩ := create_tenant .empty .default Selector.someAllow.text
  have reached : (create .empty .default (.tenant Selector.someAllow.text)).result.toOption.map
      (fun start => (
        (start.writes northWrites).store.rules "p",
        (start.writes crowdedWrites).store.rules "p",
        Link.ofRules ((start.writes northWrites).store.rules "g"),
        Link.ofRules ((start.writes crowdedWrites).store.rules "g"))) =
      some (
        [["admin", "north", "data", "read"]],
        [["admin", "south", "data", "read"], ["admin", "north", "data", "read"],
          ["bob", "south", "data", "read"]],
        [⟨"alice", "admin", "north"⟩],
        [⟨"bob", "admin", "south"⟩, ⟨"alice", "admin", "north"⟩, ⟨"alice", "bob", ""⟩]) := by
    rw [result_create (validate_tenant _) (readMatchers_tenant _)]
    decide +kernel
  have isAllowed : (create .empty .default (.tenant Selector.someAllow.text)).result.toOption.bind
      (fun start => ((start.writes northWrites).decide .plain ""
        [.text "alice", .text "north", .text "data", .text "read"]).result.toOption.map
        (·.verdict)) =
      some .allow := by
    rw [result_create (validate_tenant _) (readMatchers_tenant _)]
    decide +kernel
  rw [created] at reached isAllowed
  obtain ⟨north, crowded, northLinks, crowdedLinks⟩ :
      _ = _ ∧ _ = _ ∧ _ = _ ∧ _ = _ := by simpa [Except.toOption] using reached
  have rules : ((start.writes northWrites).store.rules "p").filter (·.cell 1 == "north") =
      ((start.writes crowdedWrites).store.rules "p").filter (·.cell 1 == "north") := by
    rw [north, crowded]
    decide
  have links : ∀ member group,
      ⟨member, group, "north"⟩ ∈
          Link.ofRules ((start.writes (Config.default.linked northWrites)).store.rules "g") ↔
        ⟨member, group, "north"⟩ ∈
          Link.ofRules ((start.writes (Config.default.linked crowdedWrites)).store.rules "g") := by
    intro member group
    have follows (writes : List Write) : Config.default.linked writes = writes := rfl
    rw [follows, follows, northLinks, crowdedLinks]
    simp
  obtain ⟨decision, second, decided, otherDecided, same, _⟩ :=
    decide_isolated created northWrites crowdedWrites "north" rules links "alice" "data" "read"
  have verdict : decision.verdict = .allow := by
    simpa [Except.toOption, decided] using isAllowed
  exact ⟨start, created, rules, links, decision, second, decided, otherDecided, verdict,
    same ▸ verdict⟩

end Enforcer

end AccessControl
