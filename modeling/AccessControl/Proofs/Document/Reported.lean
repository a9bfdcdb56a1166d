import AccessControl.Document.Files
import AccessControl.Proofs.Journal

/-! Documents that can be converted are read with no errors but those that the command line
reports. -/

namespace AccessControl

/-! ### Reported errors -/

/-- What is asked for fails with no errors but those that the command line reports. -/
def Reports {α : Type} (asked : Except Error α) : Prop :=
  ∀ error, asked = .error error → error.isReported = true

namespace Reports

variable {α β : Type} {asked : Except Error α}

/-- A value is no error. -/
theorem ok (a : α) : Reports (.ok a : Except Error α) :=
  nofun

/-- An error that is reported is the only one of what fails with it. -/
theorem error {error : Error} (reported : error.isReported = true) :
    Reports (.error error : Except Error α) := by
  rintro _ ⟨⟩
  exact reported

/-- A sequence reports if its first part does, and its second part from every value of the first. -/
theorem bind {next : α → Except Error β} (first : Reports asked)
    (later : ∀ a, asked = .ok a → Reports (next a)) : Reports (asked >>= next) := by
  intro error failed
  rcases bind_eq_error.mp failed with failed | ⟨a, made, failed⟩
  · -- The first part fails, and is reported by itself.
    exact first error failed
  · -- The second part fails from a value that the first one has made.
    exact later a made error failed

/-- What is made of a value does not fail. -/
theorem map (first : Reports asked) (change : α → β) : Reports (asked.map change) := by
  cases asked with
  | ok a => exact ok _
  | error inside => exact error (first inside rfl)

/-- A list reports if each of its members does. -/
theorem mapM {next : α → Except Error β} {list : List α} (each : ∀ a ∈ list, Reports (next a)) :
    Reports (list.mapM next) := by
  intro error failed
  obtain ⟨a, member, failed⟩ := mapM_eq_error failed
  exact each a member error failed

end Reports

/-! ### Documents -/

namespace Document

variable [Runtime] [Readers] {files : Files} {path : String}

/-- If the document under a path is not missing and not malformed, it can be converted: it is in
UTF-8, and all numbers and moments in it are such. -/
structure Files.Converts (files : Files) (path : String) : Prop where
  decodes : ∀ fault, files.readText path ≠ .error (.decoding fault)
  converts : ∀ cs fault, files.readText path = .ok cs → parse path cs = .error fault →
    fault = .malformed

/-- The document under a path has a value. -/
def Files.Holds (files : Files) (path : String) (document : Value) : Prop :=
  ∃ cs, files.readText path = .ok cs ∧ parse path cs = .ok document

/-- What is loaded is the value of the document. -/
theorem Files.load_eq_ok {unreadable : String → Error} {unparsable : Error} {document : Value} :
    files.load path unreadable unparsable = .ok document ↔ files.Holds path document := by
  unfold Files.load Files.Holds
  cases files.readText path with
  -- Every fault of the text has an error of its own, so nothing is loaded.
  | error fault => cases fault <;> simp
  | ok cs =>
    cases parsed : parse path cs with
    | ok value => simp [parsed]
    -- Whatever is wrong with the document, it has no value.
    | error fault => cases fault <;> simp [parsed]

/-- A document has but one value. -/
theorem Files.Holds.unique {document other : Value} (holds : files.Holds path document)
    (alike : files.Holds path other) : document = other := by
  -- The text under a path is one, and so is what it is parsed to.
  obtain ⟨cs, read, parsed⟩ := holds
  obtain ⟨_, again, reparsed⟩ := alike
  obtain rfl := Except.ok.inj (read.symm.trans again)
  exact Except.ok.inj (parsed.symm.trans reparsed)

/-- A document that has a value can be converted. -/
theorem Files.Holds.converts {document : Value} (holds : files.Holds path document) :
    files.Converts path := by
  obtain ⟨cs, read, parsed⟩ := holds
  refine ⟨fun fault undecoded => ?_, fun other fault decoded failed => ?_⟩
  · -- A text that has a value was decoded.
    cases read.symm.trans undecoded
  · -- The same text has no fault in it, as it has a value.
    obtain rfl : cs = other := Except.ok.inj (read.symm.trans decoded)
    cases parsed.symm.trans failed

/-- With reported errors for a document that is missing or malformed, loading one reports exactly if
it can be converted. -/
theorem Files.reports_load_iff {unreadable : String → Error} {unparsable : Error}
    (missing : ∀ reason, (unreadable reason).isReported = true)
    (malformed : unparsable.isReported = true) :
    Reports (files.load path unreadable unparsable) ↔ files.Converts path := by
  unfold Files.load
  constructor
  · intro reports
    refine ⟨fun fault undecoded => ?_, fun cs fault decoded failed => ?_⟩
    · -- A fault in decoding would be an error that is not reported.
      rw [undecoded] at reports
      cases reports _ rfl
    · rw [decoded] at reports
      simp only [failed] at reports
      cases fault with
      -- Of the faults in a document, only that of its form is reported.
      | malformed => rfl
      | tooManyDigits digits => cases reports _ rfl
      | noDigits base => cases reports _ rfl
      | noMoment message => cases reports _ rfl
      | other kind message => cases reports _ rfl
  · rintro ⟨decodes, converts⟩
    cases text : files.readText path with
    | error fault =>
      cases fault with
      -- A file that cannot be read is the fault that the caller reports.
      | system reason => exact .error (missing reason)
      | decoding fault => exact absurd text (decodes fault)
    | ok cs =>
      cases parsed : parse path cs with
      | ok value =>
        simp only [parsed]
        exact .ok value
      | error fault =>
        -- What can be converted is at worst malformed.
        obtain rfl := converts cs fault text parsed
        simp only [parsed]
        exact .error malformed

end Document

end AccessControl
