import AccessControl.Proofs.Document.Reported
import AccessControl.Proofs.Value.Host
import AccessControl.Proofs.Value.Keys
import AccessControl.Rule.Document

/-! A file of rules gives lists of lists of texts, or it is refused with a report, as long as all
its values can be written. -/

namespace AccessControl

namespace RuleDocument

/-- The value is a list of lists of texts. -/
def IsRows (given : Value) : Prop :=
  ∃ rows : List (List String), given = .list (rows.map fun row => .list (row.map .text))

/-- All that is given for types are lists of lists of texts. -/
def AreRows (given : GivenRules) : Prop :=
  ∀ table ∈ given, IsRows table.2

section

variable {runtime : Runtime}

/-- The texts of rows are rows. -/
theorem isRows_of_writeRows {rows : List (List Value)} {given : Value}
    (written : writeRows rows = .ok given) : IsRows given := by
  obtain ⟨texts, _, made⟩ := bind_eq_ok.mp written
  exact ⟨texts, (Except.ok.inj made).symm⟩

/-- What is written for types are rows. -/
theorem areRows_of_writeTypes {tables : List (Key × List (List Value))} {given : GivenRules}
    (written : writeTypes tables = .ok given) : AreRows given := by
  induction tables generalizing given with
  | nil =>
    obtain rfl := Except.ok.inj written
    nofun
  | cons table rest ih =>
    obtain ⟨name, _, written⟩ := bind_eq_ok.mp written
    obtain ⟨rows, own, written⟩ := bind_eq_ok.mp written
    obtain ⟨more, others, written⟩ := bind_eq_ok.mp written
    obtain rfl := Except.ok.inj written
    exact List.forall_mem_cons.mpr ⟨isRows_of_writeRows own, ih others⟩

/-! ### What can be written -/

/-- The types and all fields of their rows fit. -/
def Written [Runtime] (tables : List (Key × List (List Value))) : Prop :=
  ∀ table ∈ tables, table.1.value.Fits ∧ ∀ row ∈ table.2, ∀ field ∈ row, field.Fits

/-- The items of rows that fit fit. -/
theorem fits_of_rows? {given : Value} {rows : List (List Value)} (fits : given.Fits)
    (read : rows? given = some rows) : ∀ row ∈ rows, ∀ field ∈ row, field.Fits := by
  cases given with
  | list items =>
    replace read : items.mapM row? = some rows := read
    have each := fun item (member : item ∈ items) => fits.of_mem member
    clear fits
    induction items generalizing rows with
    | nil =>
      obtain rfl : [] = rows := Option.some.inj read
      nofun
    | cons first rest ih =>
      rw [List.mapM_cons] at read
      obtain ⟨own, readOwn, read⟩ := Option.bind_eq_some_iff.mp read
      obtain ⟨more, readMore, read⟩ := Option.bind_eq_some_iff.mp read
      obtain rfl : own :: more = rows := Option.some.inj read
      obtain ⟨head, tail⟩ := List.forall_mem_cons.mp each
      -- The first row is a list of fields.
      refine List.forall_mem_cons.mpr ⟨?_, ih readMore tail⟩
      -- Only a list has the items of a row.
      cases first with
      | list fields =>
        obtain rfl := Option.some.inj readOwn
        exact fun field => head.of_mem
      | _ => cases readOwn
  | _ => cases read

/-- Rows that are refused are reported, and others fit, if all that they are read of does. -/
theorem reports_readTypes (path : String) {entries : List (Key × Value)}
    (fits : ∀ entry ∈ entries, entry.1.value.Fits ∧ entry.2.Fits) :
    Reports (readTypes path entries) ∧ ∀ tables, readTypes path entries = .ok tables →
    Written tables := by
  induction entries with
  | nil =>
    refine ⟨.ok _, fun tables read => ?_⟩
    obtain rfl := Except.ok.inj read
    nofun
  | cons entry rest ih =>
    obtain ⟨ptype, value⟩ := entry
    obtain ⟨own, others⟩ := List.forall_mem_cons.mp fits
    obtain ⟨reports, written⟩ := ih others
    cases rows : rows? value with
    | none =>
      -- The name of the type is written for the message, so that there is one.
      simp only [readTypes, rows, own.1.write, ok_bind]
      exact ⟨.error rfl, nofun⟩
    | some fields =>
      simp only [readTypes, rows]
      refine ⟨reports.bind fun _ _ => .ok _, fun tables read => ?_⟩
      obtain ⟨more, readMore, read⟩ := bind_eq_ok.mp read
      obtain rfl := Except.ok.inj read
      exact List.forall_mem_cons.mpr ⟨⟨own.1, fits_of_rows? own.2 rows⟩, written more readMore⟩

/-- Types and rows that fit are written. -/
theorem Written.writeTypes_ok {tables : List (Key × List (List Value))} (written : Written tables) :
    ∃ given, writeTypes tables = .ok given := by
  induction tables with
  | nil => exact ⟨[], rfl⟩
  | cons table rest ih =>
    obtain ⟨own, others⟩ := List.forall_mem_cons.mp written
    obtain ⟨more, after⟩ := ih others
    -- The rows are lists of fields that can be written.
    have rows : table.2.mapM (fun row => row.mapM Value.write) =
        .ok (table.2.map fun row => row.map Value.asText) := by
      have each := own.2
      generalize table.2 = rows at each
      induction rows with
      | nil => rfl
      | cons row rest ih =>
        obtain ⟨head, tail⟩ := List.forall_mem_cons.mp each
        simp [Value.mapM_write fun field member => ⟨_, (head field member).write⟩, ih tail]
    exact ⟨_, by
      simp only [writeTypes, writeRows, own.1.write, rows, after, ok_bind]
      rfl⟩

/-- A part of a document that gives anything gives rows. -/
theorem areRows_of_readPart {path name : String} {document : List (Key × Value)}
    {given : GivenRules} (read : readPart path name document = .ok given) : AreRows given := by
  simp only [readPart] at read
  split at read
  · split at read
    · -- The types and their rows are read.
      obtain ⟨tables, _, read⟩ := bind_eq_ok.mp read
      obtain ⟨rows, written, read⟩ := bind_eq_ok.mp read
      obtain rfl := Except.ok.inj read
      exact fun table member => areRows_of_writeTypes written table (mem_of_mem_collectKeys member)
    · -- What is no mapping is refused.
      cases read
  · -- Without a part there are no rules.
    obtain rfl := Except.ok.inj read
    nofun

/-- A part of a document is refused with a report if at all, if all values in the document fit. -/
theorem reports_readPart (path name : String) {document : List (Key × Value)}
    (fits : ∀ entry ∈ document, entry.2.Fits) : Reports (readPart path name document) := by
  simp only [readPart]
  split
  · split
    · next entries isMapping =>
      -- What counts as true is no missing part, but the value of an entry.
      have own : ((lookupName name document).getD .null).Fits := by
        cases named : lookupName name document with
        -- What is missing fits.
        | none => exact ⟨rfl, Nat.zero_le _⟩
        -- The part is a value of the document.
        | some part =>
          obtain ⟨entry, first, rfl⟩ := Option.map_eq_some_iff.mp named
          exact fits entry (List.mem_of_find?_eq_some first)
      obtain ⟨reports, written⟩ := reports_readTypes path (own.of_mem_pairs isMapping)
      refine reports.bind fun tables read => ?_
      obtain ⟨given, made⟩ := (written tables read).writeTypes_ok
      rw [made]
      exact .ok _
    · -- What is no mapping is reported.
      exact .error rfl
  · -- Without a part there are no rules.
    exact .ok _

end

section

variable {runtime : Runtime} {readers : Document.Readers} {files : Document.Files} {path : String}

/-- The rules in a file can be converted and then written. -/
structure FitsFile [Runtime] [Document.Readers] (files : Document.Files)
    (path : String) : Prop where
  converts : files.Converts (Document.normalPath path)
  written : ∀ document, files.Holds (Document.normalPath path) document → document.Fits

/-- Such a file of rules is refused with a report if at all. -/
theorem FitsFile.reports (fits : FitsFile files path) : Reports (ofFile files path) := by
  refine .bind ((Document.Files.reports_load_iff (fun _ => rfl) rfl).mpr fits.converts)
    fun document loaded => ?_
  have written := fits.written document (Document.Files.load_eq_ok.mp loaded)
  split
  · -- A document that is no mapping is reported.
    exact .error rfl
  · -- Its parts are read one after the other.
    next pairs isMapping =>
    have each := fun entry member => (written.of_mem_pairs isMapping entry member).2
    exact .bind (reports_readPart _ _ each) fun _ _ =>
      .bind (reports_readPart _ _ each) fun _ _ => .ok _

/-- A file of rules gives nothing but rows. -/
theorem areRows_of_ofFile {document : RuleDocument} (read : ofFile files path = .ok document) :
    AreRows document.policies ∧ AreRows document.groupings := by
  obtain ⟨value, _, read⟩ := bind_eq_ok.mp read
  split at read
  · cases read
  · -- The document is a mapping, of which both parts are read.
    obtain ⟨policies, readPolicies, read⟩ := bind_eq_ok.mp read
    obtain ⟨groupings, readGroupings, read⟩ := bind_eq_ok.mp read
    obtain rfl := Except.ok.inj read
    exact ⟨areRows_of_readPart readPolicies, areRows_of_readPart readGroupings⟩

end

end RuleDocument

end AccessControl
