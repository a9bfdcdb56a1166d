import AccessControl.Matcher.Evaluation
import AccessControl.Proofs.Text.Distinct
import AccessControl.Proofs.Value.Host
import AccessControl.Proofs.Value.Keys
import AccessControl.Rule.Basic

/-! Evaluation of matchers step by step: what they read and call, and fields at their positions. -/

namespace AccessControl

/-- A matcher reads the schemas that its clauses read. -/
theorem Matcher.mem_schemas {matcher : Matcher} {schema : String} :
    schema ∈ matcher.schemas ↔ ∃ clause ∈ matcher.clauses, schema ∈ clause.schemas := by
  simp [schemas, Text.sorted]

/-- A matcher calls the functions that its clauses call. -/
theorem Matcher.mem_functions {matcher : Matcher} {name : String} :
    name ∈ matcher.functions ↔ ∃ clause ∈ matcher.clauses, name ∈ clause.functions := by
  simp [functions, Text.sorted]

/-- The field of a rule at a position, which is empty if the rule is too short. -/
def Rule.cell (rule : Rule) (position : Nat) : String :=
  rule[position]?.getD ""

/-- A declared field without attributes is read at its position, and as empty past the last
value. -/
theorem FieldRef.resolve_field {scope : Scope} {schema name : String} {frame : Frame} {index : Nat}
    (found : lookupKey schema scope = some frame)
    (declared : frame.fields.findIdx? (· == name) = some index) :
    resolve scope ⟨schema, name, []⟩ = .ok (frame.values[index]?.getD (.text "")) := by
  simp [resolve, base, found, declared]

/-- A cell of a rule is the value of a field as a text. -/
theorem Rule.getD_text (rule : Rule) (position : Nat) :
    ((rule.map Value.text)[position]?).getD (.text "") = .text (rule.cell position) := by
  cases found : rule[position]? <;> simp [cell, found]

end AccessControl
