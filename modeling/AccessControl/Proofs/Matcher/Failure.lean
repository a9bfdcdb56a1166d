import AccessControl.Proofs.Decimal.Rounding
import AccessControl.Proofs.Matcher.Evaluation

/-! What goes wrong where a matcher is evaluated: it lacks a field, an attribute or a function, a
call fails, or two values cannot be compared. -/

namespace AccessControl

namespace Value

section

variable [Runtime]

/-- Why two values cannot be compared for equality: a whole number is past all doubles, or both have
more levels than the stack may hold. -/
inductive EquationFails (lhs rhs : Value) : Error → Prop
  | large {i : Int} (side : lhs = .int i ∨ rhs = .int i) (beyond : Double.limit ≤ i.natAbs) :
    EquationFails lhs rhs (.number .tooLargeForDouble)
  | deep {wording : String} (left : Runtime.levels < lhs.depth)
    (right : Runtime.levels < rhs.depth) : EquationFails lhs rhs (.tooDeep wording)

/-- Why two values cannot be compared for order: a whole number is past all doubles, one in the text
of a side has too many digits to be written, or a side has more levels than the stack may hold. -/
inductive OrderFails (lhs rhs : Value) : Error → Prop
  | large {i : Int} (side : lhs = .int i ∨ rhs = .int i) (beyond : Double.limit ≤ i.natAbs) :
    OrderFails lhs rhs (.number .tooLargeForDouble)
  | long (side : lhs.isWritable = false ∨ rhs.isWritable = false) :
    OrderFails lhs rhs (.number .tooLongToWrite)
  | deep {wording : String} (side : Runtime.levels < lhs.depth ∨ Runtime.levels < rhs.depth) :
    OrderFails lhs rhs (.tooDeep wording)

end

variable {runtime : Runtime} {lhs rhs : Value} {error : Error}

/-- What is too large to be read as a number is a whole number past all doubles. -/
theorem toNumeric_eq_tooLarge {value : Value} :
    value.toNumeric = .tooLarge ↔ ∃ i, value = .int i ∧ Double.limit ≤ i.natAbs := by
  constructor
  · intro large
    unfold toNumeric at large
    split at large
    · cases large
    · next i =>
      -- A smaller number has a double that is nearest to it.
      refine ⟨i, rfl, Nat.le_of_not_lt fun within => ?_⟩
      obtain ⟨x, made, _⟩ := Double.ofInt?_hasValue within
      simp [made] at large
    · cases large
    · split at large <;> cases large
    · cases large
  · rintro ⟨i, rfl, beyond⟩
    simp [toNumeric, Double.ofInt?_eq_none beyond]

/-- Comparing for equality fails in these ways alone. -/
theorem looselyEqual_error (failed : looselyEqual lhs rhs = .error error) :
    lhs.EquationFails rhs error := by
  unfold looselyEqual at failed
  split at failed
  · next wording ends =>
    -- The stack has ended, so both sides are deep.
    cases failed
    obtain ⟨left, right⟩ := Runtime.deep_of_comparing lhs rhs (by simp [ends])
    exact .deep left right
  split at failed
  · cases failed
  split at failed
  · split at failed
    · next large =>
      -- The left side is too large.
      cases failed
      obtain ⟨i, rfl, beyond⟩ := toNumeric_eq_tooLarge.mp large
      exact .large (.inl rfl) beyond
    · cases failed
    · split at failed
      · next large =>
        -- The right side is too large.
        cases failed
        obtain ⟨i, rfl, beyond⟩ := toNumeric_eq_tooLarge.mp large
        exact .large (.inr rfl) beyond
      · cases failed
      · cases failed
  · cases failed

/-- Comparing texts fails in two of the ways in which order does. -/
theorem textOrder_error (failed : textOrder lhs rhs = .error error) : lhs.OrderFails rhs error := by
  rcases bind_eq_error.mp failed with left | ⟨text, _, failed⟩
  · -- The left side is not written.
    rcases write_eq_error left with ⟨long, rfl⟩ | ⟨deep, wording, rfl⟩
    · exact .long (.inl long)
    · exact .deep (.inl deep)
  rcases bind_eq_error.mp failed with right | ⟨_, _, failed⟩
  · -- The right side is not written.
    rcases write_eq_error right with ⟨long, rfl⟩ | ⟨deep, wording, rfl⟩
    · exact .long (.inr long)
    · exact .deep (.inr deep)
  · cases failed

/-- Comparing for order fails in these ways alone. -/
theorem related_error {inequality : Inequality}
    (failed : related inequality lhs rhs = .error error) :
    lhs.OrderFails rhs error := by
  have failed : order lhs rhs = .error error := map_eq_error.mp failed
  unfold order at failed
  split at failed
  · next large =>
    cases failed
    obtain ⟨i, rfl, beyond⟩ := toNumeric_eq_tooLarge.mp large
    exact .large (.inl rfl) beyond
  · -- The left side is no number, so both sides are compared as texts.
    exact textOrder_error failed
  split at failed
  · next large =>
    cases failed
    obtain ⟨i, rfl, beyond⟩ := toNumeric_eq_tooLarge.mp large
    exact .large (.inr rfl) beyond
  · exact textOrder_error failed
  · cases failed

end Value

/-! ### Clauses that cannot be decided -/

/-- The clause compares two values that cannot be compared so. -/
inductive Clause.ComparisonFails (environment : Environment) : Clause → Error → Prop
  | equation {lhs rhs : Operand} {negated : Bool} {left right : Value} {error : Error}
    (leftGiven : lhs.evaluate environment = .ok left)
    (rightGiven : rhs.evaluate environment = .ok right)
    (fails : @Value.EquationFails environment.runtime left right error) :
    ComparisonFails environment (.equation lhs rhs negated) error
  | inequality {symbol : Inequality} {lhs rhs : Operand} {left right : Value} {error : Error}
    (leftGiven : lhs.evaluate environment = .ok left)
    (rightGiven : rhs.evaluate environment = .ok right)
    (fails : @Value.OrderFails environment.runtime left right error) :
    ComparisonFails environment (.inequality symbol lhs rhs) error

/-- Behind clauses that hold, the matcher has one that compares two values which cannot be compared
so. -/
def Matcher.ComparisonFails (environment : Environment) (matcher : Matcher)
    (error : Error) : Prop :=
  ∃ before clause after, matcher.clauses = before ++ clause :: after ∧
    (∀ held ∈ before, held.holds environment = .ok true) ∧ clause.ComparisonFails environment error

/-- What goes wrong where only these functions are called: a fault of evaluation, or one of the
functions is missing. -/
inductive Environment.Fails (environment : Environment) (names : List String) : Error → Prop
  | evaluation (fault : EvaluationFault) : Fails environment names (.evaluation fault)
  | unknown {name : String} (called : name ∈ names) (missing : environment.function? name = none) :
    Fails environment names (.unknownFunction name)

variable {environment : Environment} {error : Error}

/-- Both are errors of the matcher. -/
theorem Environment.Fails.ofMatcher {names : List String} (fails : environment.Fails names error) :
    error.ofMatcher = true := by
  cases fails <;> rfl

/-- What goes wrong with some functions goes wrong with more of them. -/
theorem Environment.Fails.mono {names more : List String} (fails : environment.Fails names error)
    (within : ∀ name ∈ names, name ∈ more) : environment.Fails more error := by
  cases fails with
  | evaluation fault => exact .evaluation fault
  | unknown called missing => exact .unknown (within _ called) missing

/-- Where all functions are there, none is missing. -/
theorem Environment.Fails.ne_unknownFunction {names : List String}
    (fails : environment.Fails names error)
    (known : ∀ name ∈ names, (environment.function? name).isSome) (name : String) :
    error ≠ .unknownFunction name := by
  rintro rfl
  cases fails with
  | unknown called missing => simpa [missing] using known name called

/-- What a reference does not lead to is a fault of evaluation. -/
theorem FieldRef.resolve_error {scope : Scope} {ref : FieldRef}
    (failed : ref.resolve scope = .error error) : ∃ fault, error = .evaluation fault := by
  unfold FieldRef.resolve at failed
  split at failed
  · cases failed
    exact ⟨_, rfl⟩
  rcases bind_eq_error.mp failed with absent | ⟨value, _, missing⟩
  · -- The schema does not declare the field.
    unfold FieldRef.base at absent
    repeat' split at absent
    all_goals cases absent
    exact ⟨_, rfl⟩
  · -- A value on the way lacks an attribute.
    rcases bind_eq_error.mp missing with missing | ⟨_, _, missing⟩
    · obtain ⟨reached, name, missing⟩ := foldlM_eq_error missing
      unfold FieldRef.member at missing
      split at missing <;> cases missing
      exact ⟨_, rfl⟩
    · cases missing

/-- An argument without a value is a fault of evaluation. -/
theorem Argument.evaluate_error {argument : Argument}
    (failed : argument.evaluate environment = .error error) :
    ∃ fault, error = .evaluation fault := by
  cases argument with
  | field ref => exact FieldRef.resolve_error failed
  | literal constant => cases failed

/-- A call has no value if its function is missing or by a fault of evaluation, whatever happens
inside the function. -/
theorem Call.evaluate_error {call : Call} (failed : call.evaluate environment = .error error) :
    environment.Fails [call.name] error := by
  unfold Call.evaluate at failed
  split at failed
  · rename_i missing
    cases failed
    exact .unknown (List.mem_singleton_self _) missing
  rcases bind_eq_error.mp failed with absent | ⟨arguments, _, inside⟩
  · -- The function is not called without its arguments.
    obtain ⟨argument, _, absent⟩ := mapM_eq_error absent
    obtain ⟨fault, rfl⟩ := Argument.evaluate_error absent
    exact .evaluation fault
  · -- Its own error is in the message of another one.
    split at inside <;> cases inside
    exact .evaluation _

/-- What goes wrong with a side of an equation or inequality. -/
theorem Operand.evaluate_error {operand : Operand}
    (failed : operand.evaluate environment = .error error) :
    environment.Fails operand.functions error := by
  cases operand with
  | plain argument =>
    obtain ⟨fault, rfl⟩ := Argument.evaluate_error failed
    exact .evaluation fault
  | call c => exact Call.evaluate_error failed

/-- Besides what goes wrong with its parts a clause fails where it compares values that cannot be
compared. -/
theorem Clause.holds_error {clause : Clause} (failed : clause.holds environment = .error error) :
    environment.Fails clause.functions error ∨ clause.ComparisonFails environment error := by
  cases clause with
  | call c => exact .inl (Call.evaluate_error (map_eq_error.mp failed))
  | equation lhs rhs negated =>
    rcases bind_eq_error.mp failed with left | ⟨left, leftGiven, failed⟩
    · exact .inl ((Operand.evaluate_error left).mono fun _ => List.mem_append_left rhs.functions)
    rcases bind_eq_error.mp failed with right | ⟨right, rightGiven, failed⟩
    · exact .inl ((Operand.evaluate_error right).mono fun _ => List.mem_append_right lhs.functions)
    -- Both sides have values, and these are not compared.
    rcases bind_eq_error.mp failed with compared | ⟨isEqual, _, failed⟩
    · exact .inr (.equation leftGiven rightGiven (Value.looselyEqual_error compared))
    · cases failed
  | inequality symbol lhs rhs =>
    rcases bind_eq_error.mp failed with left | ⟨left, leftGiven, failed⟩
    · exact .inl ((Operand.evaluate_error left).mono fun _ => List.mem_append_left rhs.functions)
    rcases bind_eq_error.mp failed with right | ⟨right, rightGiven, failed⟩
    · exact .inl ((Operand.evaluate_error right).mono fun _ => List.mem_append_right lhs.functions)
    · exact .inr (.inequality leftGiven rightGiven (Value.related_error failed))

/-- A matcher fails by what goes wrong with the functions that it calls and the fields that it
reads, or where it compares values that cannot be compared. -/
theorem Matcher.holds_error {matcher : Matcher}
    (failed : matcher.holds environment = .error error) :
    environment.Fails matcher.functions error ∨ matcher.ComparisonFails environment error := by
  have each : ∀ clause ∈ matcher.clauses, ∀ name ∈ clause.functions, name ∈ matcher.functions :=
    fun clause member name called => Matcher.mem_functions.mpr ⟨clause, member, called⟩
  unfold Matcher.holds at failed
  unfold Matcher.ComparisonFails
  generalize matcher.clauses = clauses at each failed
  induction clauses with
  | nil => cases failed
  | cons clause rest ih =>
    rcases bind_eq_error.mp failed with first | ⟨isHeld, held, failed⟩
    · -- The first clause fails itself.
      rcases Clause.holds_error first with fails | compared
      · exact .inl (fails.mono (each clause (List.mem_cons_self ..)))
      · exact .inr ⟨[], clause, rest, rfl, nofun, compared⟩
    · cases isHeld with
      | true =>
        rcases ih (fun other later => each other (List.mem_cons_of_mem _ later)) failed with
          fails | ⟨before, inside, after, split, holds, compared⟩
        · exact .inl fails
        · exact .inr ⟨clause :: before, inside, after, congrArg _ split,
            List.forall_mem_cons.mpr ⟨held, holds⟩, compared⟩
      | false =>
        -- A clause that does not hold ends the evaluation without an error.
        cases failed

/-- That values cannot be compared is no error of the matcher. -/
theorem Clause.ComparisonFails.ofMatcher {clause : Clause}
    (fails : clause.ComparisonFails environment error) : error.ofMatcher = false := by
  cases fails with
  | equation _ _ fails => cases fails <;> rfl
  | inequality _ _ fails => cases fails <;> rfl

end AccessControl
