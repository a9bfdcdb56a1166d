import AccessControl.Decision.Inquiry
import AccessControl.Proofs.Journal
import AccessControl.Proofs.Matcher.Evaluation
import AccessControl.Role.Manager

/-! The fields that a matcher reads for a row are those of the request and of the rule, and the
functions of roles that it calls ask their managers. -/

namespace AccessControl

/-- A call with two or three texts asks a manager whether the first is linked to the second, within
the third as a domain. What the manager does not tell is a failed call. -/
theorem Clause.holds_membership {runtime : Runtime} {environment : Environment} {c : Call}
    {manager : RoleManager} {name target : String} (domain? : Option String)
    (bound : environment.function? c.name = some (.membership (some manager)))
    (given : c.arguments.mapM (Argument.evaluate environment) =
      .ok (.text name :: .text target :: domain?.toList.map .text)) :
    Clause.holds environment (.call c) =
      (manager.hasLink name target (domain?.getD "")).mapError fun error =>
        .evaluation (.failedCall c.text error.message) := by
  simp only [Clause.holds, Call.evaluate, bound, given, ok_bind]
  -- The function takes the domain to be empty if there is none.
  have asked : (Callable.membership (some manager)).call
      (.text name :: .text target :: domain?.toList.map .text) =
        (manager.hasLink name target (domain?.getD "")).map .flag := by
    cases domain? <;>
      simp only [Callable.membership, Option.toList, List.map, Value.write_text, ok_bind] <;>
      rfl
  rw [asked]
  cases manager.hasLink name target (domain?.getD "") <;> rfl

namespace Inquiry

variable (inquiry : Inquiry) {name : String} {index place : Nat}

/-- A declared field of the request is the value at its place. -/
theorem resolve_request (plain : inquiry.context = .plain)
    (declared : inquiry.requestFields.findIdx? (· == name) = some index) (rule : Rule) :
    FieldRef.resolve (inquiry.environment rule).scope ⟨"r", name, []⟩ =
      .ok (inquiry.request[index]?.getD (.text "")) := by
  have found : lookupKey "r" (inquiry.environment rule).scope =
      some inquiry.requestFrame := by
    rw [environment, plain]
    rfl
  exact FieldRef.resolve_field found declared

/-- A declared field of the request with a text is that text. -/
theorem resolve_text (plain : inquiry.context = .plain) {s : String}
    (declared : inquiry.requestFields.findIdx? (· == name) = some index)
    (given : inquiry.request[index]? = some (.text s)) (rule : Rule) :
    FieldRef.resolve (inquiry.environment rule).scope ⟨"r", name, []⟩ = .ok (.text s) := by
  rw [inquiry.resolve_request plain declared, given]
  rfl

/-- A declared field of the rule is the text of its cell. -/
theorem resolve_rule (plain : inquiry.context = .plain)
    (declared : inquiry.policyFields.findIdx? (· == name) = some index) (rule : Rule) :
    FieldRef.resolve (inquiry.environment rule).scope ⟨"p", name, []⟩ =
      .ok (.text (rule.cell index)) := by
  have found : lookupKey "p" (inquiry.environment rule).scope =
      some (inquiry.ruleFrame rule) := by
    rw [environment, plain]
    rfl
  rw [FieldRef.resolve_field found declared]
  exact congrArg _ (rule.getD_text index)

/-- A field of the request that is a text is equal to one of the rule if the texts are the same. -/
theorem holds_equation (plain : inquiry.context = .plain) {s : String}
    (asked : inquiry.requestFields.findIdx? (· == name) = some index)
    (given : inquiry.request[index]? = some (.text s))
    (ruled : inquiry.policyFields.findIdx? (· == name) = some place) (rule : Rule) :
    Clause.holds (inquiry.environment rule)
        (.equation (.plain (.field ⟨"r", name, []⟩)) (.plain (.field ⟨"p", name, []⟩)) false) =
      .ok (s == rule.cell place) := by
  simp [Clause.holds, Operand.evaluate, Argument.evaluate, inquiry.resolve_text plain asked given,
    inquiry.resolve_rule plain ruled]

/-- If the matcher reads the rules, they are the rows, and no empty row stands for missing ones. -/
theorem rows_eq (reads : inquiry.context.ptype ∈ inquiry.matcher.schemas) (rules : List Rule) :
    inquiry.rows rules = rules := by
  simp [rows, reads]

end Inquiry

end AccessControl
