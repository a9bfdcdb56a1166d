import AccessControl.Proofs.Enforcer.Grant
import AccessControl.Proofs.Enforcer.Validity
import AccessControl.Proofs.Matcher.Cache

/-! Decisions for which matchers are compiled through a cache are the decisions without one, and the
text of the model's own matcher decides as the model does. -/

namespace AccessControl

namespace Enforcer

/-- The matcher of a decision; one that a text writes is compiled through a cache. -/
def matcherThrough (enforcer : Enforcer) (cache : MatcherCache) (context : Context)
    (expression : String) : Except Error (MatcherCache × Matcher) :=
  if expression != "" then
    (cache.compile expression).map fun (next, entry) => (next, entry.matcher)
  else (enforcer.matcherFor context "").map fun matcher => (cache, matcher)

/-- The inquiry about a request, whose matcher comes through a cache once the request is known to
fit. -/
def inquiryThrough (enforcer : Enforcer) (cache : MatcherCache) (context : Context)
    (expression : String) (request : List Value) : Except Error (MatcherCache × Inquiry) := do
  let requestFields := enforcer.model.requestFields context.rtype
  let policyFields := enforcer.model.policyFields context.ptype
  if requestFields.isEmpty then throw (.request (.undeclaredRequest context.rtype))
  else if request.length != requestFields.length then
    throw (.request (.width request.length context.rtype requestFields))
  else if policyFields.isEmpty then throw (.request (.undeclaredPolicy context.ptype))
  else
    let (next, matcher) ← enforcer.matcherThrough cache context expression
    return (next, {
      function? := enforcer.function?, context, matcher, request, requestFields, policyFields
      host := enforcer.host })

/-- The cache after a decision, and the decision about a request, whose matcher comes through the
cache. -/
def decideThrough (enforcer : Enforcer) (cache : MatcherCache) (context : Context)
    (expression : String) (request : List Value) : MatcherCache × Logged Decision :=
  if !enforcer.enabled.isTrue then (cache, .pure (.unasked request))
  else
    match enforcer.inquiryThrough cache context expression request with
    | .error error => (cache, .fail error)
    | .ok (next, inquiry) => (next, do
        let decision ←
          inquiry.decide (enforcer.selector context) (enforcer.store.rules context.ptype)
        Logged.note (enforcer.decisionRecords decision)
        return decision)

section

variable (enforcer : Enforcer) {cache : MatcherCache} {sources : List String}

/-- The matcher of a decision is the same through a cache as without it. -/
theorem matcherThrough_eq (recalls : cache.Recalls sources) (context : Context)
    (expression : String) : (enforcer.matcherThrough cache context expression).map (·.2) =
      enforcer.matcherFor context expression := by
  by_cases given : expression = ""
  · -- Without a text the cache is not asked.
    subst given
    simp only [matcherThrough, bne_self_eq_false, Bool.false_eq_true, if_false]
    cases enforcer.matcherFor context "" <;> rfl
  · -- The cache answers with what the text reads, whether it holds it or not.
    have texted : (expression != "") = true := by simpa using given
    obtain ⟨answered, _⟩ := recalls.call expression
    simp only [matcherThrough, matcherFor, texted, if_true, ← answered, MatcherCache.answer]
    cases cache.compile expression <;> rfl

/-- An inquiry whose matcher comes through a cache is the one without it. -/
theorem inquiryThrough_eq (recalls : cache.Recalls sources) (context : Context)
    (expression : String) (request : List Value) :
    (enforcer.inquiryThrough cache context expression request).map (·.2) =
      enforcer.inquiry context expression request := by
  simp only [inquiryThrough, inquiry, ← enforcer.matcherThrough_eq recalls context expression]
  -- A request that does not fit is refused before a matcher is asked for.
  split
  · rfl
  split
  · rfl
  split
  · rfl
  · -- The matchers are the same, with the cache and without.
    cases enforcer.matcherThrough cache context expression <;> rfl

/-- A decision whose matcher comes through a cache is the one without it, with the same records. -/
theorem decideThrough_eq (recalls : cache.Recalls sources) (context : Context) (expression : String)
    (request : List Value) :
    (enforcer.decideThrough cache context expression request).2 =
      enforcer.decide context expression request := by
  simp only [decideThrough, decide, ← enforcer.inquiryThrough_eq recalls context expression request]
  split
  · -- An enforcer that is switched off uses no matcher.
    rfl
  · -- The inquiries are the same.
    cases enforcer.inquiryThrough cache context expression request <;> rfl

end

variable {enforcer : Enforcer}

/-- The matchers that are read have the names of their texts. -/
theorem lookupKey_readMatchers {texts : List (String × String)} {matchers : List (String × Matcher)}
    (read : readMatchers texts = .ok matchers) {name text : String}
    (declared : lookupKey name texts = some text) :
    ∃ matcher, lookupKey name matchers = some matcher ∧ Matcher.read text = .ok matcher := by
  induction texts generalizing matchers with
  | nil => cases declared
  | cons entry rest ih =>
    obtain ⟨own, expression⟩ := entry
    simp only [readMatchers] at read
    split at read
    · rename_i matcher reads
      obtain ⟨more, readMore, read⟩ := bind_eq_ok.mp read
      obtain rfl : (own, matcher) :: more = matchers := Except.ok.inj read
      rw [lookupKey_cons] at declared
      by_cases same : own = name
      · -- The first text is the one that is declared.
        obtain rfl : expression = text := by simpa [same] using declared
        exact ⟨matcher, by simp [lookupKey_cons, same], reads⟩
      · -- The text stands for another name.
        obtain ⟨found, listed, readToo⟩ := ih readMore (by simpa [same] using declared)
        exact ⟨found, by simpa [lookupKey_cons, same] using listed, readToo⟩
    · -- A fault of the syntax stops the reading.
      cases read
    · -- And so does any other error.
      cases read

/-- The text of the model's first matcher asks for the matcher that the model has under its name. -/
theorem IsValid.matcherFor_text (valid : enforcer.IsValid) {context : Context}
    (first : context.mtype = "m") :
    enforcer.matcherFor context enforcer.model.matcher = enforcer.matcherFor context "" := by
  have filled := (Model.validate_eq_ok_iff.mp valid.complete).1.matcher
  cases declared : lookupKey "m" enforcer.model.matchers with
  -- The model is complete, so its matcher is not empty.
  | none => exact absurd (by simp [Model.matcher, declared]) filled
  | some text =>
    obtain ⟨matcher, listed, reads⟩ := lookupKey_readMatchers valid.matchers declared
    have own : enforcer.model.matcher = text := by simp [Model.matcher, declared]
    rw [own] at filled ⊢
    simp [matcherFor, filled, first, listed, reads]

/-- The text of the model's first matcher decides as the model does. -/
theorem IsValid.decide_text (valid : enforcer.IsValid) {context : Context}
    (first : context.mtype = "m") (request : List Value) :
    enforcer.decide context enforcer.model.matcher request =
      enforcer.decide context "" request := by
  simp only [decide, inquiry, valid.matcherFor_text first]

/-- Every call to a cache that keeps one matcher at least answers what its text reads, whether it is
read anew or not. After any calls the cache holds the texts of matchers that were used last, as many
as it may, in the order of their last use, and with each what it reads. So a decision for which the
text of the model's first matcher comes through such a cache is the one that the model makes by
itself. -/
theorem run_holds_lastUsed {limit : Int} (positive : 1 ≤ limit) (sources : List String)
    (reachable : enforcer.Reachable) {context : Context} (first : context.mtype = "m")
    (request : List Value) :
    ∃ cache, MatcherCache.create limit = .ok cache ∧
      cache.answers sources = sources.map Matcher.read ∧
      (cache.run sources).entries.map (fun entry => (entry.source, Except.ok entry.matcher)) =
        (MatcherCache.lastUsed limit.toNat sources).map
          (fun source => (source, Matcher.read source)) ∧
      (enforcer.decideThrough (cache.run sources) context enforcer.model.matcher request).2 =
        enforcer.decide context "" request := by
  have enough : ¬limit < 1 := by omega
  have created : MatcherCache.create limit = .ok ⟨limit.toNat, [], 0⟩ := by
    simp [MatcherCache.create, enough]
  obtain ⟨recalls, size⟩ := MatcherCache.recalls_of_create created
  obtain ⟨answered, recalled, kept⟩ := recalls.run sources
  rw [List.nil_append] at recalled
  refine ⟨_, created, answered, ?_, ?_⟩
  · -- The texts are known, and each entry has what its own text reads.
    have texts := recalled.held
    rw [kept] at texts
    rw [← texts, List.map_map]
    exact List.map_congr_left fun entry member => by simp [recalled.read entry member]
  · -- What is decided with the cache is decided without it.
    rw [enforcer.decideThrough_eq recalled context _ request]
    exact reachable.isValid.decide_text first request

/-- Calls to a cache for one matcher: the classic text comes back after another one has taken its
place. -/
def classicCalls : List String :=
    [classicExpression, "r.sub ==", "r.act == 'read'", classicExpression]

/-- A cache of one matcher holds the classic text alone after these calls, and decides with it as
the classic model does. -/
theorem run_holds_lastUsed_evicted :
    (1 : Int) ≤ 1 ∧ Context.plain.mtype = "m" ∧
      ∃ start, (create .empty .default .classic).result = .ok start ∧ start.Reachable ∧
      ∃ cache, MatcherCache.create 1 = .ok cache ∧
        (cache.run classicCalls).entries.map
          (fun entry => (entry.source, Except.ok entry.matcher)) =
          [(classicExpression, Matcher.read classicExpression)] ∧
        (start.decideThrough (cache.run classicCalls) .plain classicExpression
            [.text "ann", .text "report", .text "read"]).2 =
          start.decide .plain "" [.text "ann", .text "report", .text "read"] := by
  obtain ⟨start, created⟩ := create_classic .empty .default
  have reachable := Reachable.of_default created
  have own : start.model.matcher = classicExpression := by
    rw [(create_isClassic rfl rfl created).model]
    rfl
  have used : MatcherCache.lastUsed (1 : Int).toNat classicCalls = [classicExpression] := by
    decide +kernel
  obtain ⟨cache, made, _, held, decided⟩ :=
    run_holds_lastUsed (show (1 : Int) ≤ 1 by decide) classicCalls
    reachable (show Context.plain.mtype = "m" from rfl) [.text "ann", .text "report", .text "read"]
  rw [used] at held
  rw [own] at decided
  exact ⟨by decide, rfl, start, created, reachable, cache, made, held, decided⟩

end Enforcer

end AccessControl
