import AccessControl.Proofs.Model.Document
import AccessControl.Proofs.Model.Schema
import AccessControl.Proofs.Text.Blanks
import AccessControl.Proofs.Text.Split

/-! A model that is read of a document is read again of its own document, unless a field has a comma
in its name: such a field is split there. -/

namespace AccessControl.Model

section

variable {runtime : Runtime}

/-! ### Names with commas between them -/

/-- The names between the commas of a text, without blanks at their ends; blank ones are left
out. -/
def namesIn (cs : List Char) : List String :=
  ((Text.splitOn ',' cs).map fun piece => Text.trim (String.ofList piece)).filter (· != "")

/-- A text has the names between its commas. -/
theorem fieldNames_text (s : String) : fieldNames (.text s) = .ok (namesIn s.toList) := by
  simp only [fieldNames, namesIn, pure_eq_ok, ok_bind, List.map_map]
  rfl

/-- The names in two texts with a comma between them are those in both. -/
theorem namesIn_append_cons (front back : List Char) :
    namesIn (front ++ ',' :: back) = namesIn front ++ namesIn back := by
  simp only [namesIn, Text.splitOn_append_cons, List.map_append, List.filter_append]

/-- A blank in front makes no difference. -/
theorem namesIn_blank_cons (cs : List Char) : namesIn (' ' :: cs) = namesIn cs := by
  obtain ⟨first, more, split⟩ := List.exists_cons_of_ne_nil (Text.splitOn_ne_nil ',' cs)
  -- It joins the first piece, whose blanks in front are dropped.
  have trimmed : Text.trim (String.ofList (' ' :: first)) = Text.trim (String.ofList first) := by
    simp only [Text.trim, String.toList_ofList, Text.trimChars]
    rw [Text.trimBoth_cons (by decide)]
  have joins : Text.splitOn ',' (' ' :: cs) = (' ' :: first) :: more := by
    simp [Text.splitOn, split]
  simp only [namesIn, joins, split, List.map_cons, trimmed]

/-- Names that are joined are read again, each as the names that are in it. -/
theorem fieldNames_joined (names : List String) :
    fieldNames (joined names) = .ok (names.flatMap fun name => namesIn name.toList) := by
  rw [joined, fieldNames_text, String.toList_intercalate]
  congr 1
  induction names with
  | nil => rfl
  | cons first rest ih =>
    cases rest with
    | nil => simp
    | cons second more =>
      -- Between two names stand a comma and a blank.
      rw [List.map_cons, List.intercalate_cons_of_ne_nil (by simp), List.flatMap_cons, ← ih]
      show namesIn (first.toList ++ [',', ' '] ++ _) = _
      rw [List.append_assoc, List.cons_append, List.cons_append, List.nil_append,
        namesIn_append_cons, namesIn_blank_cons]

/-- A name is a field of a schema that is read: it is not blank, and has no blanks at its ends. -/
structure IsField (name : String) : Prop where
  some : name ≠ ""
  trimmed : Text.trim name = name

/-- No name between commas has a comma. -/
theorem comma_not_mem_of_mem_namesIn {cs : List Char} {name : String} (member : name ∈ namesIn cs) :
    ',' ∉ name.toList := by
  obtain ⟨listed, _⟩ := List.mem_filter.mp member
  obtain ⟨piece, among, rfl⟩ := List.mem_map.mp listed
  simp only [Text.trim, String.toList_ofList]
  rw [Text.mem_trimChars (by decide)]
  exact Text.not_mem_of_mem_splitOn cs among

/-- A field without commas is the only name in it. -/
theorem namesIn_of_plain {name : String} (field : IsField name) (plain : ',' ∉ name.toList) :
    namesIn name.toList = [name] := by
  have whole : Text.splitOn ',' name.toList = [name.toList] :=
    Text.splitOn_eq_singleton_iff.mpr ⟨rfl, plain⟩
  simp [namesIn, whole, field.trimmed, field.some]

/-- Fields are the names in them exactly if none of them has a comma. -/
theorem flatMap_namesIn_eq_iff {fields : List String} (each : ∀ field ∈ fields, IsField field) :
    (fields.flatMap fun field => namesIn field.toList) = fields ↔
      ∀ field ∈ fields, ',' ∉ field.toList := by
  constructor
  · -- A field that is read again has no comma.
    intro same field member
    rw [← same] at member
    obtain ⟨_, _, member⟩ := List.mem_flatMap.mp member
    exact comma_not_mem_of_mem_namesIn member
  · -- Without commas each field is read as itself.
    intro plain
    have alone : ∀ field ∈ fields, namesIn field.toList = [field] := fun field member =>
      namesIn_of_plain (each field member) (plain field member)
    rw [List.flatMap_congr alone]
    exact List.flatMap_singleton' fields

/-- What is read is neither blank nor has blanks at its ends. -/
theorem isField_of_fieldNames {given : Value} {names : List String}
    (read : fieldNames given = .ok names) : ∀ name ∈ names, IsField name := by
  obtain ⟨found, rfl⟩ : ∃ found : List String, (found.map Text.trim).filter (· != "") = names := by
    unfold fieldNames at read
    split at read
    · -- A text is split at its commas.
      exact ⟨_, Except.ok.inj read⟩
    · -- The items of a list are written.
      obtain ⟨_, _, read⟩ := bind_eq_ok.mp read
      obtain ⟨texts, _, read⟩ := bind_eq_ok.mp read
      exact ⟨texts, Except.ok.inj read⟩
  intro name member
  obtain ⟨listed, some⟩ := List.mem_filter.mp member
  obtain ⟨given, _, rfl⟩ := List.mem_map.mp listed
  exact ⟨by simpa using some, Text.trim_trim given⟩

/-! ### Models that are read -/

/-- What is known of a model that is read of a document. -/
structure IsRead (model : Model) : Prop where
  distinctRequests : (model.requests.map (·.1)).Nodup
  distinctPolicies : (model.policies.map (·.1)).Nodup
  distinctRoles : (model.roles.map (·.1)).Nodup
  distinctEffects : (model.effects.map (·.1)).Nodup
  distinctMatchers : (model.matchers.map (·.1)).Nodup
  fields : ∀ schema ∈ model.requests ++ model.policies, ∀ field ∈ schema.2, IsField field
  named : ∀ entry ∈ model.roles, entry.2.name = entry.1
  trimmed : ∀ entry ∈ model.effects ++ model.matchers, Text.trim entry.2 = entry.2
  complete : model.validate = .ok ()

/-- The names in a section are different. -/
theorem nodup_section? {entries : List (Key × Value)} {names : List String}
    {found : List (String × Value)}
    (isFound : section? entries names = .ok found) : (found.map (·.1)).Nodup := by
  induction names with
  | nil =>
    obtain rfl := Except.ok.inj isFound
    exact List.nodup_nil
  | cons name more ih =>
    simp only [section?] at isFound
    split at isFound
    · -- A section that is given as nothing is passed over.
      exact ih isFound
    split at isFound
    · split at isFound
      · -- The keys of a mapping are collected.
        obtain rfl := Except.ok.inj isFound
        exact nodup_keys_collectKeys
      · -- What is no mapping is refused.
        cases isFound
    · -- Without a section there is nothing.
      obtain rfl := Except.ok.inj isFound
      exact List.nodup_nil

/-- Schemas have the names of the section, and the fields that are read of its values. -/
theorem schemas_cases {entries : List (String × Value)} {found : List (String × List String)}
    (read : schemas entries = .ok found) : found.map (·.1) = entries.map (·.1) ∧
      ∀ schema ∈ found, ∃ given, (schema.1, given) ∈ entries ∧ fieldNames given = .ok schema.2 := by
  induction entries generalizing found with
  | nil =>
    obtain rfl := Except.ok.inj read
    simp
  | cons first rest ih =>
    obtain ⟨name, given⟩ := first
    obtain ⟨fields, own, read⟩ := bind_eq_ok.mp read
    obtain ⟨more, others, read⟩ := bind_eq_ok.mp read
    obtain rfl := Except.ok.inj read
    obtain ⟨names, each⟩ := ih others
    refine ⟨by simp [names], List.forall_mem_cons.mpr
      ⟨⟨given, List.mem_cons_self .., own⟩, fun schema member => ?_⟩⟩
    obtain ⟨other, listed, ofOther⟩ := each schema member
    exact ⟨other, List.mem_cons_of_mem _ listed, ofOther⟩

/-- Grouping types have the names of the section. -/
theorem roleDefinitions_cases {entries : List (String × Value)}
    {found : List (String × RoleDefinition)} (read : roleDefinitions entries = .ok found) :
    found.map (·.1) = entries.map (·.1) ∧ ∀ entry ∈ found, entry.2.name = entry.1 := by
  induction entries generalizing found with
  | nil =>
    obtain rfl := Except.ok.inj read
    simp
  | cons first rest ih =>
    obtain ⟨name, given⟩ := first
    obtain ⟨fields, _, read⟩ := bind_eq_ok.mp read
    obtain ⟨role, created, read⟩ := bind_eq_ok.mp read
    obtain ⟨more, others, read⟩ := bind_eq_ok.mp read
    obtain rfl := Except.ok.inj read
    obtain ⟨names, each⟩ := ih others
    refine ⟨by simp [names], List.forall_mem_cons.mpr ⟨?_, each⟩⟩
    unfold RoleDefinition.create at created
    -- The definition has as many places as are asked for.
    split at created
    · obtain rfl := Except.ok.inj created
      rfl
    · -- Other numbers of places are refused.
      cases created

/-- The texts of a section are trimmed and stand under its names. -/
theorem trimmedTexts_cases {entries : List (String × Value)} {found : List (String × String)}
    (read : trimmedTexts entries = .ok found) :
    found.map (·.1) = entries.map (·.1) ∧ ∀ entry ∈ found, Text.trim entry.2 = entry.2 := by
  induction entries generalizing found with
  | nil =>
    obtain rfl := Except.ok.inj read
    simp
  | cons first rest ih =>
    obtain ⟨text, _, read⟩ := bind_eq_ok.mp read
    obtain ⟨more, others, read⟩ := bind_eq_ok.mp read
    obtain rfl := Except.ok.inj read
    obtain ⟨names, each⟩ := ih others
    exact ⟨by simp [names], List.forall_mem_cons.mpr ⟨Text.trim_trim text, each⟩⟩

/-- A model that is read of a mapping has different names in each section, no blanks around its
texts, and grouping types that know their names. -/
theorem IsReadOf.isRead {model : Model} {entries : List (Key × Value)}
    (readOf : model.IsReadOf entries) : model.IsRead := by
  obtain ⟨requests, requestsFound, requestsRead⟩ := readOf.requests
  obtain ⟨policies, policiesFound, policiesRead⟩ := readOf.policies
  obtain ⟨roles, rolesFound, rolesRead⟩ := readOf.roles
  obtain ⟨effects, effectsFound, effectsRead⟩ := readOf.effects
  obtain ⟨matchers, matchersFound, matchersRead⟩ := readOf.matchers
  obtain ⟨requestNames, requestFields⟩ := schemas_cases requestsRead
  obtain ⟨policyNames, policyFields⟩ := schemas_cases policiesRead
  obtain ⟨roleNames, named⟩ := roleDefinitions_cases rolesRead
  obtain ⟨effectNames, effectTexts⟩ := trimmedTexts_cases effectsRead
  obtain ⟨matcherNames, matcherTexts⟩ := trimmedTexts_cases matchersRead
  exact {
    -- Each part has the names of its section, and these are different.
    distinctRequests := requestNames ▸ nodup_section? requestsFound
    distinctPolicies := policyNames ▸ nodup_section? policiesFound
    distinctRoles := roleNames ▸ nodup_section? rolesFound
    distinctEffects := effectNames ▸ nodup_section? effectsFound
    distinctMatchers := matcherNames ▸ nodup_section? matchersFound
    -- A schema is one of requests or one of rules, and both are read as names of fields.
    fields := fun schema member => by
      rcases List.mem_append.mp member with request | rule
      · obtain ⟨given, _, read⟩ := requestFields schema request
        exact isField_of_fieldNames read
      · obtain ⟨given, _, read⟩ := policyFields schema rule
        exact isField_of_fieldNames read
    named := named
    trimmed := fun entry member =>
      (List.mem_append.mp member).elim (effectTexts entry) (matcherTexts entry)
    complete := readOf.complete }

/-! ### Documents of models -/

/-- The model with each field split at the commas in its name. -/
def splitFields (model : Model) : Model :=
  { model with
    requests := model.requests.map fun schema =>
      (schema.1, schema.2.flatMap fun field => namesIn field.toList)
    policies := model.policies.map fun schema =>
      (schema.1, schema.2.flatMap fun field => namesIn field.toList) }

/-- A mapping with different names is found as the section of its name. -/
theorem found_section? {entries : List (Key × Value)} {name : String} {more : List String}
    {found : List (String × Value)} (stands : lookupName name entries = some (.dict found))
    (distinct : (found.map (·.1)).Nodup) : section? entries (name :: more) = .ok found := by
  cases found with
  | nil => simp [section?, stands, Value.isTrue]
  | cons first rest =>
    -- All keys are texts, which are their own names.
    have same : nameEntries ((first :: rest).map fun entry => (Key.text entry.1, entry.2)) =
        first :: rest := by
      simp [nameEntries, Key.name, Function.comp_def]
    simp only [section?, stands, Value.isTrue, List.isEmpty_cons, Bool.not_false, if_true,
      Value.pairs?, same, collectKeys_of_nodup distinct]

/-- Joined fields are read again, each as the names in it. -/
theorem schemas_joined (found : List (String × List String)) :
    schemas (found.map fun schema => (schema.1, joined schema.2)) =
      .ok (found.map fun schema =>
        (schema.1, schema.2.flatMap fun field => namesIn field.toList)) := by
  induction found with
  | nil => rfl
  | cons first rest ih =>
    simp only [List.map_cons, schemas, fieldNames_joined, ih, ok_bind, pure_eq_ok]

/-- As many places as a grouping type has fields are read as the grouping type. -/
theorem roleDefinitions_joined {roles : List (String × RoleDefinition)}
    (named : ∀ entry ∈ roles, entry.2.name = entry.1) :
    roleDefinitions (roles.map fun entry => (entry.1, joined (List.replicate entry.2.arity "_"))) =
      .ok roles := by
  induction roles with
  | nil => rfl
  | cons first rest ih =>
    obtain ⟨name, role⟩ := first
    obtain ⟨own, others⟩ := List.forall_mem_cons.mp named
    obtain rfl : role.name = name := own
    -- The place of a field has no comma.
    have places : ((List.replicate role.arity "_").flatMap fun field => namesIn field.toList) =
        List.replicate role.arity "_" := by
      have place : IsField "_" := ⟨by decide, rfl⟩
      exact (flatMap_namesIn_eq_iff fun field member => List.eq_of_mem_replicate member ▸ place).mpr
        fun field member => List.eq_of_mem_replicate member ▸ by decide
    have created : RoleDefinition.create role.name (List.replicate role.arity "_").length =
        .ok role := by
      simp [RoleDefinition.create, role.isWide]
    simp only [List.map_cons, roleDefinitions, fieldNames_joined, places, created,
      ih others, ok_bind, pure_eq_ok]

/-- Texts that are trimmed are read as they are. -/
theorem trimmedTexts_texts {texts : List (String × String)}
    (trimmed : ∀ entry ∈ texts, Text.trim entry.2 = entry.2) :
    trimmedTexts (texts.map fun entry => (entry.1, .text entry.2)) = .ok texts := by
  induction texts with
  | nil => rfl
  | cons first rest ih =>
    obtain ⟨own, others⟩ := List.forall_mem_cons.mp trimmed
    simp only [List.map_cons, trimmedTexts, Value.write_text, own, ih others, ok_bind, pure_eq_ok]

/-- The sections of the document of a model. -/
def sections (model : Model) : List (Key × Value) := [
  (.text "request", .dict (model.requests.map fun schema => (schema.1, joined schema.2))),
  (.text "policy", .dict (model.policies.map fun schema => (schema.1, joined schema.2))),
  (.text "role", .dict (model.roles.map fun entry =>
    (entry.1, joined (List.replicate entry.2.arity "_")))),
  (.text "policy_effect", .dict (model.effects.map fun entry => (entry.1, .text entry.2))),
  (.text "matchers", .dict (model.matchers.map fun entry => (entry.1, .text entry.2)))]

/-- The document of a model has its sections. -/
theorem pairs?_document (model : Model) : model.document.pairs? = some model.sections := rfl

/-- From its own document a model is read with its fields split, if that leaves it complete. -/
theorem IsRead.ofDocument_eq {model : Model} (isRead : model.IsRead) :
    ofDocument model.document = model.splitFields.validate.map fun _ => model.splitFields := by
  have requests : section? model.sections requestNames =
      .ok (model.requests.map fun schema => (schema.1, joined schema.2)) :=
    found_section? rfl (by simpa [Function.comp_def] using isRead.distinctRequests)
  have policies : section? model.sections policyNames =
      .ok (model.policies.map fun schema => (schema.1, joined schema.2)) :=
    found_section? rfl (by simpa [Function.comp_def] using isRead.distinctPolicies)
  have roles : section? model.sections roleNames = .ok (model.roles.map fun entry =>
      (entry.1, joined (List.replicate entry.2.arity "_"))) :=
    found_section? rfl (by simpa [Function.comp_def] using isRead.distinctRoles)
  have effects : section? model.sections effectNames =
      .ok (model.effects.map fun entry => (entry.1, .text entry.2)) :=
    found_section? rfl (by simpa [Function.comp_def] using isRead.distinctEffects)
  have matchers : section? model.sections matcherNames =
      .ok (model.matchers.map fun entry => (entry.1, .text entry.2)) :=
    found_section? rfl (by simpa [Function.comp_def] using isRead.distinctMatchers)
  obtain ⟨effectTexts, matcherTexts⟩ := List.forall_mem_append.mp isRead.trimmed
  simp only [ofDocument, pairs?_document, pure_eq_ok, ok_bind, requests, policies, roles,
    effects, matchers,
    schemas_joined, roleDefinitions_joined isRead.named, trimmedTexts_texts effectTexts,
    trimmedTexts_texts matcherTexts]
  rfl

/-- Split fields are the fields of the model exactly if none of them has a comma in its name. -/
theorem IsRead.splitFields_eq_iff {model : Model} (isRead : model.IsRead) :
    model.splitFields = model ↔
    ∀ schema ∈ model.requests ++ model.policies, ∀ field ∈ schema.2, ',' ∉ field.toList := by
  -- In each section the schemas are the same exactly if their fields are.
  have same {found : List (String × List String)}
      (fields : ∀ schema ∈ found, ∀ field ∈ schema.2, IsField field) :
      (found.map fun schema => (schema.1, schema.2.flatMap fun field => namesIn field.toList)) =
        found ↔ ∀ schema ∈ found, ∀ field ∈ schema.2, ',' ∉ field.toList := by
    conv_lhs => rhs; rw [← List.map_id found]
    rw [List.map_inj_left]
    refine forall₂_congr fun schema member => ?_
    rw [← flatMap_namesIn_eq_iff (fields schema member)]
    constructor
    · exact congrArg Prod.snd
    · intro equal
      exact Prod.ext rfl equal
  obtain ⟨requestFields, policyFields⟩ := List.forall_mem_append.mp isRead.fields
  rw [List.forall_mem_append, ← same requestFields, ← same policyFields]
  constructor
  · -- The sections are the same.
    intro equal
    exact ⟨congrArg requests equal, congrArg policies equal⟩
  · -- All other parts are as they were.
    rintro ⟨ofRequests, ofPolicies⟩
    unfold splitFields
    rw [ofRequests, ofPolicies]

/-- All schemas of a document are given as texts. -/
def HasTextSchemas (entries : List (Key × Value)) : Prop :=
  ∀ names ∈ [requestNames, policyNames], ∀ found, section? entries names = .ok found →
    ∀ entry ∈ found, ∃ s, entry.2 = .text s

/-- Fields that are read of texts have no commas. -/
theorem comma_not_mem_of_schemas {entries : List (String × Value)}
    {found : List (String × List String)}
    (read : schemas entries = .ok found) (texts : ∀ entry ∈ entries, ∃ s, entry.2 = .text s) :
    ∀ schema ∈ found, ∀ field ∈ schema.2, ',' ∉ field.toList := by
  intro schema member field among
  obtain ⟨given, listed, own⟩ := (schemas_cases read).2 schema member
  obtain ⟨s, rfl⟩ : ∃ s, given = .text s := texts _ listed
  rw [fieldNames_text] at own
  obtain own := Except.ok.inj own
  exact comma_not_mem_of_mem_namesIn (own ▸ among)

/-- A model that is read of a document is read of its own document with its fields split at the
commas in their names, if that leaves it complete. So it is read again exactly if no field has a
comma in its name, and always if all schemas are given as texts. -/
theorem ofDocument_document [Runtime] {given : Value} {model : Model}
    (read : ofDocument given = .ok model) :
    ofDocument model.document = (model.splitFields.validate.map fun _ => model.splitFields) ∧
    (ofDocument model.document = .ok model ↔
      ∀ schema ∈ model.requests ++ model.policies, ∀ field ∈ schema.2, ',' ∉ field.toList) ∧
    ((∀ entries, given.pairs? = some entries → HasTextSchemas entries) →
      ofDocument model.document = .ok model) := by
  obtain ⟨entries, isMapping, readOf⟩ := isReadOf_of_ofDocument read
  have isRead := readOf.isRead
  have exactly : ofDocument model.document = .ok model ↔
      ∀ schema ∈ model.requests ++ model.policies, ∀ field ∈ schema.2, ',' ∉ field.toList := by
    rw [← isRead.splitFields_eq_iff, isRead.ofDocument_eq, map_eq_ok]
    constructor
    · -- What is read again is the model.
      rintro ⟨_, _, same⟩
      exact same
    · -- A model that is the same has been validated.
      intro same
      exact ⟨(), by rw [same, isRead.complete], same⟩
  -- Schemas that are texts have no commas in their fields.
  refine ⟨isRead.ofDocument_eq, exactly, fun texts => exactly.mpr ?_⟩
  obtain ⟨requests, requestsFound, requestsRead⟩ := readOf.requests
  obtain ⟨policies, policiesFound, policiesRead⟩ := readOf.policies
  have each := texts entries isMapping
  exact List.forall_mem_append.mpr
    ⟨comma_not_mem_of_schemas requestsRead (each _ (by simp) requests requestsFound),
      comma_not_mem_of_schemas policiesRead (each _ (by simp) policies policiesFound)⟩

end

/-- A document whose requests have the given fields. -/
def documentOf (fields : Value) : Value :=
  .dict [
    ("request_definition", .dict [("r", fields)]),
    ("policy", .dict [("p", .text "sub, obj")]),
    ("role", .dict [("g", .text "_, _, _")]),
    ("policy_effect", .dict [("e", .text "some(where (p.eft == allow))")]),
    ("matchers", .dict [("m", .text "r.sub == p.sub")])]

/-- The model of such a document. -/
def modelOf (fields : List String) : Model where
  requests := [("r", fields)]
  policies := [("p", ["sub", "obj"])]
  roles := [("g", ⟨"g", 3, Nat.le_succ 2⟩)]
  effects := [("e", "some(where (p.eft == allow))")]
  matchers := [("m", "r.sub == p.sub")]

/-- Fields that are given as a list with blanks are read again, and so are fields in a text. -/
theorem ofDocument_document_listed :
    (ofDocument (documentOf (.list [.text " sub", .text "", .text "obj "])) =
      .ok (modelOf ["sub", "obj"]) ∧
      ofDocument (modelOf ["sub", "obj"]).document = .ok (modelOf ["sub", "obj"])) ∧
    ofDocument (documentOf (.text " sub,, time")) = .ok (modelOf ["sub", "time"]) ∧
      ofDocument (modelOf ["sub", "time"]).document = .ok (modelOf ["sub", "time"]) := by
  have listed : ofDocument (documentOf (.list [.text " sub", .text "", .text "obj "])) =
      .ok (modelOf ["sub", "obj"]) := by rfl
  have texts : ofDocument (documentOf (.text " sub,, time")) =
    .ok (modelOf ["sub", "time"]) := by rfl
  refine ⟨⟨listed, ?_⟩, texts, ?_⟩
  · -- A list without commas in it is read again.
    obtain ⟨_, exactly, _⟩ := ofDocument_document listed
    exact exactly.mpr (by decide)
  · -- A text is always read again.
    obtain ⟨_, _, ofTexts⟩ := ofDocument_document texts
    refine ofTexts fun entries isMapping names listed found isFound => ?_
    obtain rfl := Option.some.inj isMapping
    rcases List.mem_cons.mp listed with rfl | listed
    · obtain rfl : [("r", Value.text " sub,, time")] = found := Except.ok.inj isFound
      simp
    · obtain rfl := List.mem_singleton.mp listed
      obtain rfl : [("p", Value.text "sub, obj")] = found := Except.ok.inj isFound
      simp

/-- A field with a comma is read as two fields of the model's own document, and if these have one
name, no model is read of it. -/
theorem document_splits_field :
    (ofDocument (documentOf (.list [.text "sub", .text "a,b"])) = .ok (modelOf ["sub", "a,b"]) ∧
      ofDocument (modelOf ["sub", "a,b"]).document = .ok (modelOf ["sub", "a", "b"])) ∧
    ofDocument (documentOf (.list [.text "sub", .text "a,a"])) = .ok (modelOf ["sub", "a,a"]) ∧
      ofDocument (modelOf ["sub", "a,a"]).document = .error (.validation (.repeatedField "r")) := by
  exact ⟨⟨rfl, rfl⟩, rfl, rfl⟩

end AccessControl.Model
