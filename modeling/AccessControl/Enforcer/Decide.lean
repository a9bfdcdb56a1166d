import AccessControl.Enforcer.Basic

/-! Decisions of enforcers about single requests and about batches of them. -/

namespace AccessControl

namespace Enforcer

/-- The matcher of a decision: the one that a text writes, or without a text one of the model. -/
def matcherFor (enforcer : Enforcer) (context : Context) (expression : String) :
    Except Error Matcher :=
  if expression != "" then Matcher.read expression
  else
    match lookupKey context.mtype enforcer.matchers with
    | some matcher => .ok matcher
    | none => .error (.validation (.undeclaredMatcher context.mtype))

/-- The inquiry about a request, which has a value for every field of its schema. -/
def inquiry (enforcer : Enforcer) (context : Context) (expression : String)
    (request : List Value) : Except Error Inquiry := do
  let requestFields := enforcer.model.requestFields context.rtype
  let policyFields := enforcer.model.policyFields context.ptype
  if requestFields.isEmpty then throw (.request (.undeclaredRequest context.rtype))
  else if request.length != requestFields.length then
    throw (.request (.width request.length context.rtype requestFields))
  else if policyFields.isEmpty then throw (.request (.undeclaredPolicy context.ptype))
  else
    let matcher ← enforcer.matcherFor context expression
    return {
      function? := enforcer.function?, context, matcher, request, requestFields, policyFields
      host := enforcer.host }

/-- The selector of a decision. -/
def selector (enforcer : Enforcer) (context : Context) : Selector :=
  .ofText ((lookupKey context.etype enforcer.model.effects).getD enforcer.model.effect)

/-- The record of a decision, if the configuration asks for one and the request can be written. -/
def decisionRecords (enforcer : Enforcer) (decision : Decision) : List Record :=
  if enforcer.config.logDecisions.isTrue && Value.itemsWritable decision.request then
    [⟨.debug, .enforcer,
      "enforce " ++ shownRow decision.request ++ " -> " ++ decision.verdict.word⟩]
  else []

/-- The decision about a request; an empty expression leaves it to the matcher of the model. -/
def decide (enforcer : Enforcer) (context : Context) (expression : String)
    (request : List Value) : Logged Decision :=
  if !enforcer.enabled.isTrue then .pure (.unasked request)
  else do
    let inquiry ← Logged.ofExcept (enforcer.inquiry context expression request)
    let decision ← inquiry.decide (enforcer.selector context) (enforcer.store.rules context.ptype)
    Logged.note (enforcer.decisionRecords decision)
    return decision

/-- The request is allowed. -/
def enforce (enforcer : Enforcer) (request : List Value) : Logged Bool := do
  return (← enforcer.decide .plain "" request).isAllowed

/-- The decisions about several requests, one after the other. -/
def decideAll (enforcer : Enforcer) (expression : String) :
    List (Context × List Value) → Logged (List Decision)
  | [] => .pure []
  | (context, request) :: rest => do
    let decision ← enforcer.decide context expression request
    let more ← decideAll enforcer expression rest
    return decision :: more

end Enforcer

end AccessControl
