import AccessControl.Proofs.Decision.Reported
import AccessControl.Proofs.Enforcer.Matchers
import AccessControl.Proofs.Enforcer.Operation
import AccessControl.Proofs.Model.Document
import AccessControl.Proofs.Rule.Document

/-! Enforcers are made of models and loaded with rows, or both are refused with a report, if all
numbers of the matchers can be read. -/

namespace AccessControl

/-- No number in the text has too many digits to be read. -/
def IsShort (expression : String) : Prop :=
  ∀ digits, Matcher.read expression ≠ .error (.number (.tooManyDigits digits))

namespace Enforcer

variable {enforcer changed : Enforcer}

/-- Texts that are none of matchers are reported, if all their numbers can be read. -/
theorem reports_readMatchers {texts : List (String × String)}
    (short : ∀ entry ∈ texts, IsShort entry.2) : Reports (readMatchers texts) := by
  intro error failed
  rcases readMatchers_cases texts with ⟨_, read, _⟩ | ⟨entry, member, fault, unread, refused⟩
  · -- All texts are read.
    cases read.symm.trans failed
  · obtain rfl := Except.error.inj (refused.symm.trans failed)
    rcases Matcher.isFaultOf_of_read unread with ⟨_, rfl⟩ | ⟨_, _, token, _, _, rfl⟩
    · -- A fault of the syntax is reported.
      rfl
    · -- A number that is too long stands in no matcher.
      exact absurd unread (short entry member token.digits)

/-- A model is taken or refused with a report, if all numbers of its matchers can be read. -/
theorem reports_setModel {model : Model} (short : ∀ entry ∈ model.matchers, IsShort entry.2) :
    Reports (enforcer.setModel model).result := by
  intro error failed
  rcases setModel_eq_error.mp failed with incomplete | ⟨_, unread⟩
  · -- The model is not complete.
    exact Model.reports_validate model error incomplete
  · -- A matcher cannot be read.
    exact reports_readMatchers short error unread

/-- Types that are not declared are reported. -/
theorem reports_checkTypes (isDeclared : String → Bool) (fault : String → PolicyFault)
    (given : List (String × Value)) : Reports (checkTypes isDeclared fault given) := by
  unfold checkTypes
  split
  · -- A type that is not declared is reported.
    exact .error rfl
  · -- All types are declared.
    exact .ok _

section

variable {runtime : Runtime}

/-- An empty rule is reported, and no other rule among rows is refused. -/
theorem reports_listOfValue {given : Value} (rows : RuleDocument.IsRows given)
    (ptype : Option String) : Reports (Rule.listOfValue ptype given) := by
  obtain ⟨rows, rfl⟩ := rows
  simp only [Rule.listOfValue, Value.items, ok_bind]
  refine .mapM fun row member => ?_
  obtain ⟨fields, _, rfl⟩ := List.mem_map.mp member
  simp only [Rule.ofValue, Value.items, ok_bind, Value.mapM_write_texts]
  split
  · -- An empty row is reported.
    exact .error rfl
  · -- Any other row is a rule.
    exact .ok _

/-- Rows are prepared or refused with a report. -/
theorem reports_prepare {given : GivenRules} (rows : RuleDocument.AreRows given) :
    Reports (Store.prepare given) := by
  induction given with
  | nil => exact .ok _
  | cons table rest ih =>
    exact .bind (reports_listOfValue (rows table (List.mem_cons_self ..)) _) fun _ _ =>
      .bind (ih fun other later => rows other (List.mem_cons_of_mem _ later)) fun _ _ => .ok _

end

/-- Rows are loaded or refused with a report. -/
theorem reports_load {policies groupings : GivenRules} (policyRows : RuleDocument.AreRows policies)
    (groupingRows : RuleDocument.AreRows groupings) :
    Reports (enforcer.load policies groupings).result := by
  -- Both kinds of rules are stored as those of one mapping.
  have rows : RuleDocument.AreRows (collectKeys (policies ++ groupings)) := fun table member =>
    (List.mem_append.mp (mem_of_mem_collectKeys member)).elim (policyRows table)
      (groupingRows table)
  have stores : Reports (enforcer.newStore (collectKeys (policies ++ groupings))) :=
    (reports_prepare rows).bind fun _ _ => .ok _
  simp only [load, Logged.result_bind, Logged.result_ofExcept, Logged.result_note]
  refine .bind (reports_checkTypes _ _ _) fun _ _ => .bind (reports_checkTypes _ _ _) fun _ _ =>
    stores.bind fun store _ => ?_
  -- New links never fail.
  obtain ⟨followed, follows⟩ := followRules_ok { enforcer with store := store }
  rw [follows]
  exact .ok _

/-- An enforcer that is made has the model with its matchers, and its own functions are the given
ones. -/
theorem create_made_of [Host] {functions : Registry} {config : Config} {model : Model}
    (created : (create functions config model).result = .ok enforcer) :
    enforcer.model = model ∧ readMatchers model.matchers = .ok enforcer.matchers ∧
      enforcer.evaluator.functions = functions := by
  obtain ⟨matchers, warned, _, read, follows⟩ := setModel_cases created
  have same := followRules_bare follows
  refine ⟨congrArg (·.model) same, ?_, congrArg (·.evaluator.functions) same⟩
  rw [read]
  exact congrArg Except.ok (congrArg (·.matchers) same).symm

/-- Where the own functions are those that are always there, all functions give texts and flags. -/
theorem givesPlain_of_builtin {runtime : Runtime} {now : Time.Moment}
    (own : enforcer.evaluator.functions = .builtin now) {name : String} {function : Callable}
    (found : enforcer.function? name = some function) : function.GivesPlain := by
  simp only [function?] at found
  split at found
  · -- The function of a grouping type asks its manager.
    obtain ⟨manager, _, rfl⟩ := Option.map_eq_some_iff.mp found
    exact Callable.membership_givesPlain manager
  · rw [own] at found
    exact Callable.builtin_givesPlain now _ (mem_of_lookupKey found)

end Enforcer

end AccessControl
