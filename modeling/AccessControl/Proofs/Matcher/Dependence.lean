import AccessControl.Callable.Builtin
import AccessControl.Proofs.Matcher.Failure

/-! Evaluation depends on the functions and the schemas that a matcher reports, and on nothing else
that the environment has. -/

namespace AccessControl

/-- The environments have one runtime, the same functions for these names, and the same frames for
these schemas: the same values, and the same objects behind them. -/
structure Environment.AgreeFor (names schemas : List String)
    (environment other : Environment) : Prop where
  runtime : environment.runtime = other.runtime
  functions : ∀ name ∈ names, environment.function? name = other.function? name
  frames : ∀ schema ∈ schemas, lookupKey schema environment.scope = lookupKey schema other.scope

variable {environment other : Environment}

/-- Environments that agree for names and schemas agree for some of them. -/
theorem Environment.AgreeFor.mono {names schemas someNames someSchemas : List String}
    (agree : AgreeFor names schemas environment other) (called : ∀ name ∈ someNames, name ∈ names)
    (read : ∀ schema ∈ someSchemas, schema ∈ schemas) :
    AgreeFor someNames someSchemas environment other :=
  ⟨agree.runtime, fun name member => agree.functions name (called name member),
    fun schema member => agree.frames schema (read schema member)⟩

/-- The value of an argument depends on the schema that it refers to. -/
theorem Argument.evaluate_congr {argument : Argument}
    (frames : ∀ schema ∈ argument.schemas,
      lookupKey schema environment.scope = lookupKey schema other.scope) :
    argument.evaluate environment = argument.evaluate other := by
  -- A reference looks its own schema up and no other, and a literal looks nothing up.
  cases argument with
  | field ref =>
    have frame := frames ref.schema (List.mem_singleton_self _)
    simp only [evaluate, FieldRef.resolve, frame]
  | literal constant => rfl

/-- The value of a call depends on its function and on the schemas that its arguments refer to. -/
theorem Call.evaluate_congr {call : Call}
    (agree : environment.AgreeFor [call.name] (call.arguments.flatMap Argument.schemas) other) :
    call.evaluate environment = call.evaluate other := by
  have function := agree.functions call.name (List.mem_singleton_self _)
  have given : call.arguments.mapM (Argument.evaluate environment) =
      call.arguments.mapM (Argument.evaluate other) :=
    mapM_congr fun argument member => Argument.evaluate_congr fun schema inside =>
      agree.frames schema (List.mem_flatMap.mpr ⟨argument, member, inside⟩)
  simp only [evaluate, function, given]

/-- The value of an operand depends on the functions that it calls and the schemas that it refers
to. -/
theorem Operand.evaluate_congr {operand : Operand}
    (agree : environment.AgreeFor operand.functions operand.schemas other) :
    operand.evaluate environment = operand.evaluate other := by
  cases operand with
  -- The side is an argument.
  | plain argument => exact Argument.evaluate_congr agree.frames
  -- The side is a call.
  | call c => exact Call.evaluate_congr agree

/-- Whether a clause holds depends on the functions that it calls and the schemas that it refers
to. -/
theorem Clause.holds_congr {clause : Clause}
    (agree : environment.AgreeFor clause.functions clause.schemas other) :
    clause.holds environment = clause.holds other := by
  -- What each side calls or refers to, the clause calls or refers to as well.
  cases clause with
  -- The clause is a call.
  | call c => simp only [holds, Call.evaluate_congr agree]
  | equation lhs rhs negated =>
    have left := Operand.evaluate_congr <| agree.mono (fun _ => List.mem_append_left rhs.functions)
      fun _ => List.mem_append_left rhs.schemas
    have right := Operand.evaluate_congr <|
      agree.mono (fun _ => List.mem_append_right lhs.functions)
      fun _ => List.mem_append_right lhs.schemas
    simp only [holds, left, right]
    rw [agree.runtime]
  | inequality symbol lhs rhs =>
    have left := Operand.evaluate_congr <| agree.mono (fun _ => List.mem_append_left rhs.functions)
      fun _ => List.mem_append_left rhs.schemas
    have right := Operand.evaluate_congr <|
      agree.mono (fun _ => List.mem_append_right lhs.functions)
      fun _ => List.mem_append_right lhs.schemas
    simp only [holds, left, right]
    rw [agree.runtime]

/-- Whether a matcher holds depends on the functions that it calls and the schemas that it reads. -/
theorem Matcher.holds_congr {matcher : Matcher}
    (agree : environment.AgreeFor matcher.functions matcher.schemas other) :
    matcher.holds environment = matcher.holds other := by
  have each : ∀ clause ∈ matcher.clauses, clause.holds environment = clause.holds other :=
    fun clause member => Clause.holds_congr <| agree.mono
      (fun _ called => Matcher.mem_functions.mpr ⟨clause, member, called⟩)
      fun _ inside => Matcher.mem_schemas.mpr ⟨clause, member, inside⟩
  unfold Matcher.holds
  -- The clauses are asked from the first on, up to one that fails or does not hold.
  generalize matcher.clauses = clauses at each
  induction clauses with
  | nil => rfl
  | cons clause rest ih =>
    have later := ih fun clause member => each clause (List.mem_cons_of_mem _ member)
    simp only [allHold, each clause (List.mem_cons_self ..), later]

/-- A matcher holds, does not hold or fails alike wherever the functions and the schemas that it
reports are the same; and where the functions that it reports are all there, no evaluation of it
lacks a function. -/
theorem Matcher.holds_reported (matcher : Matcher) :
    (∀ environment other : Environment,
      environment.AgreeFor matcher.functions matcher.schemas other →
        matcher.holds environment = matcher.holds other) ∧
    ∀ environment : Environment, (∀ name ∈ matcher.functions, (environment.function? name).isSome) →
      ∀ name, matcher.holds environment ≠ .error (.unknownFunction name) := by
  refine ⟨fun _ _ agree => Matcher.holds_congr agree, fun environment known name failed => ?_⟩
  -- No function is missing.
  rcases Matcher.holds_error failed with fails | ⟨_, _, _, _, _, compared⟩
  · exact fails.ne_unknownFunction known name rfl
  · -- Values that cannot be compared are another error.
    cases compared.ofMatcher

/-- A matcher that calls a function for a path, compares a field with what another function gives,
and reads an attribute. -/
def pathAndActMatcher : Matcher where
  expression := "keyMatch(r.obj, p.obj) && keyGet(p.act, 'on*') == r.act && r.day.year >= 2024"
  clauses := [
    .call ⟨"keyMatch", [.field ⟨"r", "obj", []⟩, .field ⟨"p", "obj", []⟩]⟩,
    .equation (.call ⟨"keyGet", [.field ⟨"p", "act", []⟩, .literal (.text "on*")]⟩)
      (.plain (.field ⟨"r", "act", []⟩)) false,
    .inequality .atLeast (.plain (.field ⟨"r", "day", ["year"]⟩)) (.plain (.literal (.whole 2024)))]

/-- A request and a rule for that matcher, among all functions that are always there. -/
def pathAndAct : Environment where
  function? := (Registry.builtin 0).get?
  scope := [
    ("r", ⟨["obj", "act", "day"], [.text "/data/1", .text "read", .date ⟨2024, 2, 29⟩]⟩),
    ("p", ⟨["obj", "act"], [.text "/data/*", .text "onread"]⟩)]

/-- The same with another schema in front, and with none but the two functions and one that always
fails. -/
def pathAndActApart : Environment where
  function? name :=
    if name = "boom" then some ⟨fun _ => .error (.raised "RuntimeError" "exploded")⟩
    else if name ∈ ["keyMatch", "keyGet"] then (Registry.builtin 0).get? name
    else none
  scope := ("r2", ⟨["obj"], []⟩) :: pathAndAct.scope

/-- What the matcher does not report makes no difference to it. -/
theorem Matcher.holds_reported_apart :
    pathAndAct.AgreeFor pathAndActMatcher.functions pathAndActMatcher.schemas pathAndActApart ∧
    pathAndActMatcher.holds pathAndActApart = .ok true ∧
    (∀ name ∈ pathAndActMatcher.functions, (pathAndActApart.function? name).isSome) ∧
    ∀ name, pathAndActMatcher.holds pathAndActApart ≠ .error (.unknownFunction name) := by
  have called : ∀ name ∈ pathAndActMatcher.functions, name ∈ ["keyMatch", "keyGet"] := by
    intro name reported
    obtain ⟨clause, member, called⟩ := Matcher.mem_functions.mp reported
    simp only [pathAndActMatcher, List.mem_cons, List.not_mem_nil, or_false] at member
    rcases member with rfl | rfl | rfl
    · exact List.mem_pair.mpr (.inl (List.mem_singleton.mp called))
    · exact List.mem_pair.mpr (.inr (List.mem_singleton.mp called))
    · -- The attribute is read without a call.
      cases called
  have agree : pathAndAct.AgreeFor pathAndActMatcher.functions pathAndActMatcher.schemas
      pathAndActApart := by
    refine ⟨rfl, fun name reported => ?_, fun schema reported => ?_⟩
    · have known := called name reported
      have silent : name ≠ "boom" := by
        rintro rfl
        revert known
        decide
      simp only [pathAndAct, pathAndActApart, if_neg silent, if_pos known]
    · obtain ⟨clause, member, inside⟩ := Matcher.mem_schemas.mp reported
      have other : "r2" ≠ schema := by
        rintro rfl
        revert member inside
        simp only [pathAndActMatcher, List.mem_cons, List.not_mem_nil, or_false]
        rintro (rfl | rfl | rfl) <;> decide
      simp [pathAndActApart, lookupKey_cons, other]
  have known : ∀ name ∈ pathAndActMatcher.functions, (pathAndActApart.function? name).isSome := by
    intro name reported
    rcases List.mem_pair.mp (called name reported) with rfl | rfl <;> rfl
  obtain ⟨same, complete⟩ := Matcher.holds_reported pathAndActMatcher
  have holds : pathAndActMatcher.holds pathAndAct = .ok true :=
    toOption_eq_some.mp (by decide +kernel)
  exact ⟨agree, same _ _ agree ▸ holds, known, complete _ known⟩

end AccessControl
