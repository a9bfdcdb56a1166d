import AccessControl.Model.Document
import AccessControl.Proofs.Document.Reported
import AccessControl.Proofs.Value.Host
import AccessControl.Proofs.Value.Keys

/-! A model whose schemas are texts, lists or mappings is refused with a report if at all, as long
as all its values can be written. -/

namespace AccessControl

namespace Model

variable {runtime : Runtime}

/-- The value is a text, a list or a mapping, which all have names to be read. -/
def IsSchema (given : Value) : Prop :=
  ∃ items, given.items = .ok items

/-- All schemas and grouping types of a document are texts, lists or mappings. -/
def HasSchemas (entries : List (Key × Value)) : Prop :=
  ∀ names ∈ [requestNames, policyNames, roleNames], ∀ found, section? entries names = .ok found →
    ∀ entry ∈ found, IsSchema entry.2

/-- A section that is no mapping is reported. -/
theorem reports_section? (entries : List (Key × Value)) (names : List String) :
    Reports (section? entries names) := by
  induction names with
  | nil => exact .ok _
  | cons name more ih =>
    simp only [section?]
    split
    · -- A section that is given as nothing is passed over.
      exact ih
    split
    · split
      · -- A mapping is a section.
        exact .ok _
      · -- What is no mapping is reported.
        exact .error rfl
    · -- Without a section there is nothing.
      exact .ok _

/-- What stands in a section of a mapping that fits fits. -/
theorem fits_of_section? {document : Value} (fits : document.Fits) {entries : List (Key × Value)}
    (isMapping : document.pairs? = some entries) {names : List String}
    {found : List (String × Value)}
    (isFound : section? entries names = .ok found) : ∀ entry ∈ found, entry.2.Fits := by
  have each := fits.of_mem_pairs isMapping
  induction names with
  | nil =>
    obtain rfl := Except.ok.inj isFound
    nofun
  | cons name more ih =>
    simp only [section?] at isFound
    split at isFound
    · -- A section that is given as nothing is passed over.
      exact ih isFound
    · next value named =>
      split at isFound
      · split at isFound
        · next pairs ofSection =>
          obtain rfl := Except.ok.inj isFound
          -- The section is a value of the document, and what stands in it is a value of the
          -- section.
          obtain ⟨entry, first, rfl⟩ := Option.map_eq_some_iff.mp named
          have inside := (each entry (List.mem_of_find?_eq_some first)).2.of_mem_pairs ofSection
          intro own member
          obtain ⟨pair, listed, rfl⟩ := List.mem_map.mp (mem_of_mem_collectKeys member)
          exact (inside pair listed).2
        · -- What is no mapping is refused.
          cases isFound
      · -- Without a section there is nothing.
        obtain rfl := Except.ok.inj isFound
        nofun

/-- A text, a list or a mapping has names of fields, if these can be written. -/
theorem fieldNames_ok {given : Value} (schema : IsSchema given) (fits : given.Fits) :
    ∃ names, fieldNames given = .ok names := by
  obtain ⟨items, held⟩ := schema
  unfold fieldNames
  split
  · -- A text can always be split.
    exact ⟨_, rfl⟩
  · -- Each item of a list can be written.
    exact ⟨_, by
      simp only [held, ok_bind, Value.mapM_write fun item member =>
        ⟨_, (fits.of_mem_held held item member).write⟩]
      rfl⟩

/-- Schemas are read of texts, lists and mappings. -/
theorem reports_schemas {entries : List (String × Value)}
    (each : ∀ entry ∈ entries, IsSchema entry.2)
    (fits : ∀ entry ∈ entries, entry.2.Fits) : Reports (schemas entries) := by
  induction entries with
  | nil => exact .ok _
  | cons entry rest ih =>
    obtain ⟨names, read⟩ := fieldNames_ok (each entry (List.mem_cons_self ..))
      (fits entry (List.mem_cons_self ..))
    simp only [schemas, read, ok_bind]
    exact (ih (fun other later => each other (List.mem_cons_of_mem _ later)) fun other later =>
      fits other (List.mem_cons_of_mem _ later)).bind fun _ _ => .ok _

/-- A grouping type with too few fields is reported, and no other is refused. -/
theorem reports_roleDefinitions {entries : List (String × Value)}
    (each : ∀ entry ∈ entries, IsSchema entry.2) (fits : ∀ entry ∈ entries, entry.2.Fits) :
    Reports (roleDefinitions entries) := by
  induction entries with
  | nil => exact .ok _
  | cons entry rest ih =>
    obtain ⟨names, read⟩ := fieldNames_ok (each entry (List.mem_cons_self ..))
      (fits entry (List.mem_cons_self ..))
    simp only [roleDefinitions, read, ok_bind]
    refine .bind ?_ fun role _ =>
      (ih (fun other later => each other (List.mem_cons_of_mem _ later)) fun other later =>
        fits other (List.mem_cons_of_mem _ later)).bind fun _ _ => .ok _
    unfold RoleDefinition.create
    split
    · -- The definition has as many places as are asked for.
      exact .ok _
    · -- Other numbers of places are reported.
      exact .error rfl

/-- Texts are read of all values that can be written. -/
theorem reports_trimmedTexts {entries : List (String × Value)}
    (fits : ∀ entry ∈ entries, entry.2.Fits) : Reports (trimmedTexts entries) := by
  induction entries with
  | nil => exact .ok _
  | cons entry rest ih =>
    simp only [trimmedTexts, (fits entry (List.mem_cons_self ..)).write, ok_bind]
    exact (ih fun other later => fits other (List.mem_cons_of_mem _ later)).bind fun _ _ => .ok _

/-- A model that is not complete is reported. -/
theorem reports_validate (model : Model) : Reports model.validate := by
  unfold validate
  split
  · -- A model without a fault is complete.
    exact .ok _
  · -- A fault is reported.
    exact .error rfl

/-- A document that fits is refused with a report if at all, as long as its schemas have names to be
read. -/
theorem reports_ofDocument {document : Value} (fits : document.Fits)
    (schemas : ∀ entries, document.pairs? = some entries → HasSchemas entries) :
    Reports (ofDocument document) := by
  unfold ofDocument
  cases isMapping : document.pairs? with
  | none => exact .error rfl
  | some entries =>
    have each := schemas entries isMapping
    simp only [pure_eq_ok, ok_bind]
    -- All sections are found before any of them is read.
    refine .bind (reports_section? entries requestNames) fun requests requestsFound =>
      .bind (reports_section? entries policyNames) fun policies policiesFound =>
      .bind (reports_section? entries roleNames) fun roles rolesFound =>
      .bind (reports_section? entries effectNames) fun effects effectsFound =>
      .bind (reports_section? entries matcherNames) fun matchers matchersFound => ?_
    have inside := @fits_of_section? _ _ fits _ isMapping
    refine .bind (reports_schemas (each _ (by simp) _ requestsFound) (inside requestsFound))
        fun requests _ =>
      .bind (reports_schemas (each _ (by simp) _ policiesFound) (inside policiesFound))
        fun policies _ =>
      .bind (reports_roleDefinitions (each _ (by simp) _ rolesFound) (inside rolesFound))
        fun roles _ => ?_
    exact .bind (reports_trimmedTexts (inside effectsFound)) fun effects _ =>
      .bind (reports_trimmedTexts (inside matchersFound)) fun matchers _ =>
      .bind (reports_validate _) fun _ _ => .ok _

variable {readers : Document.Readers}

/-- The model in a file can be converted and then written, and all its schemas have names to be
read. -/
structure FitsFile [Runtime] [Document.Readers] (files : Document.Files)
    (path : String) : Prop where
  converts : files.Converts (Document.normalPath path)
  written : ∀ document, files.Holds (Document.normalPath path) document → document.Fits
  schemas : ∀ document entries, files.Holds (Document.normalPath path) document →
    document.pairs? = some entries → HasSchemas entries

/-- Such a file is refused with a report if at all. -/
theorem FitsFile.reports {files : Document.Files} {path : String} (fits : FitsFile files path) :
    Reports (ofFile files path) :=
  .bind ((Document.Files.reports_load_iff (fun _ => rfl) rfl).mpr fits.converts)
      fun document loaded =>
    have holds := Document.Files.load_eq_ok.mp loaded
    reports_ofDocument (fits.written document holds) (fits.schemas document · holds)

/-! ### Models that are read -/

/-- The parts of a complete model are read of the sections of a mapping. -/
structure IsReadOf [Runtime] (model : Model) (entries : List (Key × Value)) : Prop where
  requests : ∃ found, section? entries requestNames = .ok found ∧ schemas found = .ok model.requests
  policies : ∃ found, section? entries policyNames = .ok found ∧ schemas found = .ok model.policies
  roles : ∃ found, section? entries roleNames = .ok found ∧ roleDefinitions found = .ok model.roles
  effects : ∃ found, section? entries effectNames = .ok found ∧
    trimmedTexts found = .ok model.effects
  matchers : ∃ found, section? entries matcherNames = .ok found ∧
    trimmedTexts found = .ok model.matchers
  complete : model.validate = .ok ()

/-- A document that a model is read of is a mapping with the sections of its parts. -/
theorem isReadOf_of_ofDocument {document : Value} {model : Model}
    (read : ofDocument document = .ok model) :
    ∃ entries, document.pairs? = some entries ∧ model.IsReadOf entries := by
  unfold ofDocument at read
  cases isMapping : document.pairs? with
  -- What is no mapping is refused.
  | none => simp [isMapping] at read
  | some entries =>
    simp only [isMapping, pure_eq_ok, ok_bind] at read
    -- First the sections are found, one after the other.
    obtain ⟨requests, requestsFound, read⟩ := bind_eq_ok.mp read
    obtain ⟨policies, policiesFound, read⟩ := bind_eq_ok.mp read
    obtain ⟨roles, rolesFound, read⟩ := bind_eq_ok.mp read
    obtain ⟨effects, effectsFound, read⟩ := bind_eq_ok.mp read
    obtain ⟨matchers, matchersFound, read⟩ := bind_eq_ok.mp read
    -- Then each is read.
    obtain ⟨_, requestsRead, read⟩ := bind_eq_ok.mp read
    obtain ⟨_, policiesRead, read⟩ := bind_eq_ok.mp read
    obtain ⟨_, rolesRead, read⟩ := bind_eq_ok.mp read
    obtain ⟨_, effectsRead, read⟩ := bind_eq_ok.mp read
    obtain ⟨_, matchersRead, read⟩ := bind_eq_ok.mp read
    -- At last the model is validated.
    obtain ⟨⟨⟩, complete, read⟩ := bind_eq_ok.mp read
    obtain rfl := Except.ok.inj read
    exact ⟨entries, rfl, ⟨requests, requestsFound, requestsRead⟩,
      ⟨policies, policiesFound, policiesRead⟩,
      ⟨roles, rolesFound, rolesRead⟩, ⟨effects, effectsFound, effectsRead⟩,
      ⟨matchers, matchersFound, matchersRead⟩, complete⟩

end Model

end AccessControl
