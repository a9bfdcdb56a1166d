import AccessControl.Model.Basic
import AccessControl.Proofs.Text.Distinct
import AccessControl.Proofs.Value.Keys

/-! A complete model has fields in each schema and none of them twice, except in request schemas
with the names of rule schemas, which nothing looks at. -/

namespace AccessControl.Model

/-- The schema has a field at least, and none of its fields twice. -/
structure HasFieldsOnce (fields : List String) : Prop where
  some : fields ≠ []
  once : fields.Nodup

instance (fields : List String) : Decidable (HasFieldsOnce fields) :=
  decidable_of_iff (fields ≠ [] ∧ fields.Nodup)
    ⟨fun both => ⟨both.1, both.2⟩, fun both => ⟨both.some, both.once⟩⟩

/-- Schemas have no fault exactly if each of them has fields, and none of these twice. -/
theorem schemaFault?_eq_none_iff {schemas : List (String × List String)} :
    schemaFault? schemas = none ↔ ∀ schema ∈ schemas, HasFieldsOnce schema.2 := by
  induction schemas with
  | nil => simp [schemaFault?]
  | cons first rest ih =>
    obtain ⟨name, fields⟩ := first
    rw [List.forall_mem_cons, ← ih, schemaFault?]
    -- The first schema is asked for a field, and then whether as many of them are distinct.
    by_cases empty : fields = []
    · have faulty : ¬ HasFieldsOnce fields := fun both => both.some empty
      simp only [List.isEmpty_iff.mpr empty, if_true, faulty, false_and, reduceCtorEq]
    by_cases once : fields.Nodup
    · have sound : HasFieldsOnce fields := ⟨empty, once⟩
      simp [empty, Text.length_distinct_eq_iff.mpr once, sound]
    · have faulty : ¬ HasFieldsOnce fields := fun both => once both.once
      have fewer : (Text.distinct fields).length ≠ fields.length :=
        mt Text.length_distinct_eq_iff.mp once
      simp [empty, fewer, faulty]

/-- The model declares the first requests, the first rules, the first effect and the first
matcher. -/
structure DeclaresFirst (model : Model) : Prop where
  request : "r" ∈ model.requests.map (·.1)
  policy : "p" ∈ model.policies.map (·.1)
  effect : "e" ∈ model.effects.map (·.1)
  matcher : model.matcher ≠ ""

/-- A model is complete exactly if it declares the first of each kind and the schemas that stand
under all names together have fields, and none of these twice. -/
theorem validate_eq_ok_iff {model : Model} : model.validate = .ok () ↔ model.DeclaresFirst ∧
    ∀ schema ∈ collectKeys (model.requests ++ model.policies), HasFieldsOnce schema.2 := by
  have accepted : model.validate = .ok () ↔ model.fault? = none := by
    unfold validate
    cases model.fault? <;> simp
  rw [accepted, ← schemaFault?_eq_none_iff, fault?]
  constructor
  · -- Each check that fails would be a fault, and the schemas are looked at behind the last one.
    intro faultless
    split at faultless
    · -- There is a schema for requests.
      cases faultless
    rename_i request
    -- There is one for policies.
    split at faultless
    · cases faultless
    rename_i policy
    -- There is an effect.
    split at faultless
    · cases faultless
    rename_i effect
    -- There is a matcher.
    split at faultless
    · cases faultless
    rename_i matcher
    refine ⟨⟨?_, ?_, ?_, ?_⟩, faultless⟩
    · simpa only [lookupKey_isNone, not_not] using request
    · simpa only [lookupKey_isNone, not_not] using policy
    · simpa only [lookupKey_isNone, not_not] using effect
    · simpa using matcher
  · rintro ⟨first, faultless⟩
    have request := lookupKey_isNone.not.mpr (not_not.mpr first.request)
    have policy := lookupKey_isNone.not.mpr (not_not.mpr first.policy)
    have effect := lookupKey_isNone.not.mpr (not_not.mpr first.effect)
    rw [if_neg request, if_neg policy, if_neg effect,
      if_neg (by simpa using first.matcher), faultless]

section

variable {model : Model}

/-- With different names in each section, the schemas that stand under all names together are those
of the rules, and those of requests under names that no rule schema has. -/
theorem forall_collectKeys_schemas {holds : List String → Prop}
    (requestNames : (model.requests.map (·.1)).Nodup)
    (policyNames : (model.policies.map (·.1)).Nodup) :
    (∀ schema ∈ collectKeys (model.requests ++ model.policies), holds schema.2) ↔
      (∀ schema ∈ model.policies, holds schema.2) ∧
        ∀ schema ∈ model.requests, schema.1 ∉ model.policies.map (·.1) → holds schema.2 := by
  have found (name : String) (fields : List String) :
      (name, fields) ∈ collectKeys (model.requests ++ model.policies) ↔
        (lookupKey name model.policies).or (lookupKey name model.requests) = some fields := by
    rw [← lookupKey_collectKeys_append requestNames policyNames,
      lookupKey_eq_some_iff nodup_keys_collectKeys]
  constructor
  · intro each
    refine ⟨fun schema member => ?_, fun schema member unnamed => ?_⟩
    · -- A schema of policies hides all others of its name.
      have stands := (lookupKey_eq_some_iff policyNames).mpr member
      exact each schema ((found _ _).mpr (by rw [stands, Option.some_or]))
    · -- A schema of requests is found if no schema of policies has its name.
      have stands := (lookupKey_eq_some_iff requestNames).mpr member
      have none := Option.isNone_iff_eq_none.mp (lookupKey_isNone.mpr unnamed)
      exact each schema ((found _ _).mpr (by rw [none, Option.none_or, stands]))
  · rintro ⟨ofRules, ofRequests⟩ ⟨name, fields⟩ member
    rw [found] at member
    cases stands : lookupKey name model.policies with
    -- The schema that is found is one of policies.
    | some others =>
      rw [stands, Option.some_or] at member
      exact ofRules (name, fields) (mem_of_lookupKey (stands.trans member))
    -- It is one of requests, and none of policies has its name.
    | none =>
      rw [stands, Option.none_or] at member
      exact ofRequests (name, fields) (mem_of_lookupKey member)
        (lookupKey_isNone.mp (Option.isNone_iff_eq_none.mpr stands))

/-- A model is complete exactly if it declares the first of each kind, each rule schema has fields
and none of these twice, and so has each request schema whose name is not that of a rule schema. So
all schemas of a complete model have fields and none twice exactly if those request schemas have
whose names are. -/
theorem validate_iff_schemas (requestNames : (model.requests.map (·.1)).Nodup)
    (policyNames : (model.policies.map (·.1)).Nodup) :
    (model.validate = .ok () ↔ model.DeclaresFirst ∧
      (∀ schema ∈ model.policies, HasFieldsOnce schema.2) ∧
      ∀ schema ∈ model.requests, schema.1 ∉ model.policies.map (·.1) → HasFieldsOnce schema.2) ∧
    (model.validate = .ok () →
      ((∀ schema ∈ model.requests ++ model.policies, HasFieldsOnce schema.2) ↔
        ∀ schema ∈ model.requests, schema.1 ∈ model.policies.map (·.1) →
          HasFieldsOnce schema.2)) := by
  have complete := @validate_eq_ok_iff model
  rw [forall_collectKeys_schemas requestNames policyNames] at complete
  refine ⟨complete, fun accepted =>
    ⟨fun each schema member _ => ?_, fun hidden schema member => ?_⟩⟩
  · exact each schema (List.mem_append_left _ member)
  · -- What is asked of all schemas is asked of the requests.
    obtain ⟨_, ofRules, ofRequests⟩ := complete.mp accepted
    rcases List.mem_append.mp member with request | rule
    · by_cases named : schema.1 ∈ model.policies.map (·.1)
      · -- The schema is hidden by one of policies.
        exact hidden schema request named
      · -- It is not hidden.
        exact ofRequests schema request named
    · -- A schema of policies is never hidden.
      exact ofRules schema rule

end

/-- A model with a second kind of requests, which has the same name as a second kind of rules. -/
def paired (fields : List String) : Model where
  requests := [("r", ["sub"]), ("audit", fields)]
  policies := [("p", ["sub"]), ("audit", ["level"])]
  roles := []
  effects := [("e", defaultEffect)]
  matchers := [("m", "r.sub == p.sub")]

/-- All schemas of this model have fields and none twice, as the hidden one has. -/
theorem validate_iff_schemas_paired :
    ((paired ["level", "time"]).requests.map (·.1)).Nodup ∧
      ((paired ["level", "time"]).policies.map (·.1)).Nodup ∧
      (paired ["level", "time"]).validate = .ok () ∧
      ∀ schema ∈ (paired ["level", "time"]).requests ++ (paired ["level", "time"]).policies,
        HasFieldsOnce schema.2 := by
  have requestNames : ((paired ["level", "time"]).requests.map (·.1)).Nodup := by decide
  have policyNames : ((paired ["level", "time"]).policies.map (·.1)).Nodup := by decide
  obtain ⟨complete, exactly⟩ := validate_iff_schemas requestNames policyNames
  have accepted : (paired ["level", "time"]).validate = .ok () :=
    complete.mpr ⟨⟨by decide, by decide, by decide, by decide⟩, by decide, by decide⟩
  exact ⟨requestNames, policyNames, accepted, (exactly accepted).mpr (by decide)⟩

/-- The model is accepted with a field twice in the schema that is hidden, and with no field in
it. -/
theorem validate_passes_hidden :
    ((paired ["level", "level"]).validate = .ok () ∧
      ("audit", ["level", "level"]) ∈ (paired ["level", "level"]).requests ∧
      ¬ HasFieldsOnce ["level", "level"]) ∧
    (paired []).validate = .ok () ∧ ("audit", []) ∈ (paired []).requests ∧ ¬ HasFieldsOnce [] :=
  ⟨⟨rfl, by decide, by decide⟩, rfl, by decide, by decide⟩

end AccessControl.Model
