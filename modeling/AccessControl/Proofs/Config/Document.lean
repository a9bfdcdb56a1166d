import AccessControl.Config.Document
import AccessControl.Proofs.Document.Reported
import AccessControl.Proofs.Text.Distinct
import AccessControl.Proofs.Value.Host
import AccessControl.Proofs.Value.Keys

/-! Configurations of mappings: what is made of each setting, and what they are refused for. With a
number or a text for each limit, and values for flags that a message can show, a configuration is
refused with a report if at all. -/

namespace AccessControl

namespace Bound

/-- A bound is that of its value. -/
@[simp] theorem ofValue?_value (bound : Bound) : ofValue? bound.value = some bound := by
  cases bound <;> rfl

/-- A value that is a bound is the value of it. -/
theorem value_of_ofValue? {given : Value} {bound : Bound} (bounds : ofValue? given = some bound) :
    bound.value = given := by
  cases given <;> cases bounds <;> rfl

end Bound

namespace Config

section

variable {runtime : Runtime}

/-- The settings that are numbers. -/
def limitNames : List String := ["max_hierarchy_level", "batch_parallel_threshold", "max_workers"]

/-- The value is a number or a text, or it says that there is no limit for workers. -/
def IsLimit (name : String) (given : Value) : Prop :=
  (∃ s, given = .text s) ∨ (∃ bound, Bound.ofValue? given = some bound) ∨
    name = "max_workers" ∧ given = .null

/-- A message can show what is given for flags. -/
def HasShownFlags [Runtime] (entries : List (String × Value)) : Prop :=
  ∀ entry ∈ entries, entry.1 ∈ flagNames → entry.2.Fits

/-- The value is a mapping from texts, and has a number or a text for each setting that is a number,
and values that a message can show for flags. -/
def IsSection [Runtime] (given : Value) : Prop :=
  ∃ entries, given = .dict entries ∧
    (∀ entry ∈ entries, entry.1 ∈ limitNames → IsLimit entry.1 entry.2) ∧
    HasShownFlags entries

/-! ### Single settings -/

/-- The setting that is read of a value. -/
def readSetting [Runtime] (name : String) (given : Value) : Except Error Value :=
  if flagNames.contains name then readFlag name given else readNumber name given

/-- A value that is no flag is refused, with a message that shows it if it can be shown. -/
theorem refuseFlag_cases (name : String) (given : Value) :
    ∃ error, refuseFlag name given = .error error ∧
      ((∃ fault, error = .config fault) ∨ given.WriteFails error) := by
  unfold refuseFlag
  cases shown : given.writeShown with
  -- The message about the value can be written.
  | ok s => exact ⟨_, rfl, .inl ⟨_, rfl⟩⟩
  -- The value cannot be shown in it.
  | error error => exact ⟨error, rfl, .inr (Value.writeShown_eq_error shown)⟩

/-- A flag is read, or the value is refused. -/
theorem readFlag_cases (name : String) (given : Value) :
    (∃ b, readFlag name given = .ok (.flag b)) ∨
      ∃ error, readFlag name given = .error error ∧
        ((∃ fault, error = .config fault) ∨ given.WriteFails error) := by
  cases given with
  -- A flag is taken as it is.
  | flag b => exact .inl ⟨b, rfl⟩
  | text s =>
    simp only [readFlag]
    -- The words for true are looked for first.
    split
    · -- The word is one for true.
      exact .inl ⟨true, rfl⟩
    split
    · -- The word is one for false.
      exact .inl ⟨false, rfl⟩
    · -- The word is neither.
      exact .inr (refuseFlag_cases name _)
  -- Nothing else is read as a flag.
  | _ => exact .inr (refuseFlag_cases name _)

/-- The value is a whole number, or it says that there is no limit for workers. -/
def IsWholeLimit (name : String) (value : Value) : Prop :=
  (∃ n, value = .int n) ∨ name = "max_workers" ∧ value = .null

/-- Of a text a whole number or no limit for workers is read, or the text is refused. -/
theorem readNumber_text (name s : String) :
    (∃ value, readNumber name (.text s) = .ok value ∧ IsWholeLimit name value) ∨
      readNumber name (.text s) = .error (.config (.notWhole name (Value.text s).shown)) := by
  simp only [readNumber]
  split
  · -- The word is the one for no limit, and the name the one of the workers.
    rename_i word
    exact .inl ⟨.null, rfl, .inr ⟨by simpa using And.left (Bool.and_eq_true_iff.mp word), rfl⟩⟩
  split
  · -- The text is a whole number.
    rename_i n _
    exact .inl ⟨.int n, rfl, .inl ⟨n, rfl⟩⟩
  · -- The text is neither.
    exact .inr rfl

/-- Any other value for a number is taken as it is. -/
theorem readNumber_of_ne_text {name : String} {given : Value} (other : ∀ s, given ≠ .text s) :
    readNumber name given = .ok given := by
  cases given with
  | text s => exact absurd rfl (other s)
  | _ => rfl

/-- A value that is refused is a fault of the configuration, or it is given for a flag and cannot be
shown. -/
theorem readSetting_error {name : String} {given : Value} {error : Error}
    (failed : readSetting name given = .error error) :
    (∃ fault, error = .config fault) ∨ name ∈ flagNames ∧ given.WriteFails error := by
  unfold readSetting at failed
  split at failed
  · -- The setting is a flag.
    next flag =>
    rcases readFlag_cases name given with ⟨b, read⟩ | ⟨other, refused, told⟩
    · cases read.symm.trans failed
    · obtain rfl := Except.error.inj (refused.symm.trans failed)
      exact told.imp_right fun hides => ⟨by simpa using flag, hides⟩
  by_cases text : ∃ s, given = .text s
  · -- Only a text is read as a number, and a message always shows it.
    obtain ⟨s, rfl⟩ := text
    rcases readNumber_text name s with ⟨value, read, _⟩ | refused
    · -- The text is a number, or the word for none.
      cases read.symm.trans failed
    · -- The text is refused as it is written.
      exact .inl ⟨_, (Except.error.inj (refused.symm.trans failed)).symm⟩
  · -- Any other value is taken as it is.
    cases (readNumber_of_ne_text (not_exists.mp text)).symm.trans failed

/-- A setting that is a flag is read as a flag. -/
theorem readSetting_flag {name : String} {given value : Value} (flag : name ∈ flagNames)
    (read : readSetting name given = .ok value) : ∃ b, value = .flag b := by
  rw [readSetting, if_pos (by simpa using flag)] at read
  rcases readFlag_cases name given with ⟨b, own⟩ | ⟨error, refused, _⟩
  · -- A flag is read.
    exact ⟨b, Except.ok.inj (read.symm.trans own)⟩
  · -- What is refused is not read.
    cases refused.symm.trans read

/-- No limit is a flag. -/
theorem notMem_flagNames {name : String} (limit : name ∈ limitNames) : name ∉ flagNames := by
  revert name
  decide

/-- A text for a limit is read as a whole number, or as no limit for workers, and any other value is
taken as it is. -/
theorem readSetting_limit {name : String} {given value : Value} (limit : name ∈ limitNames)
    (read : readSetting name given = .ok value) :
    (∃ s, given = .text s) ∧ IsWholeLimit name value ∨ (∀ s, given ≠ .text s) ∧ value = given := by
  rw [readSetting, if_neg (by simpa using notMem_flagNames limit)] at read
  by_cases text : ∃ s, given = .text s
  · -- The setting is a text, and one that is read is a number or none.
    obtain ⟨s, rfl⟩ := text
    rcases readNumber_text name s with ⟨own, readOwn, whole⟩ | refused
    · obtain rfl := Except.ok.inj (read.symm.trans readOwn)
      exact .inl ⟨⟨s, rfl⟩, whole⟩
    · cases refused.symm.trans read
  · -- The setting is no text.
    have other := not_exists.mp text
    exact .inr ⟨other, Except.ok.inj (read.symm.trans (readNumber_of_ne_text other))⟩

/-! ### Settings -/

/-- Settings are read one by one. -/
theorem readSettings_cons (name : String) (given : Value) (rest : List (String × Value)) :
    readSettings ((name, given) :: rest) = (do
      let value ← readSetting name given
      let more ← readSettings rest
      return (name, value) :: more) := by
  simp only [readSettings, readSetting]
  split <;> rfl

/-- Settings that are refused are faults of the configuration, or one that is given for a flag
cannot be shown. -/
theorem readSettings_error {entries : List (String × Value)} {error : Error}
    (failed : readSettings entries = .error error) : (∃ fault, error = .config fault) ∨
      ∃ entry ∈ entries, entry.1 ∈ flagNames ∧ entry.2.WriteFails error := by
  induction entries with
  | nil => cases failed
  | cons first rest ih =>
    rw [readSettings_cons, bind_eq_error] at failed
    rcases failed with own | ⟨value, _, failed⟩
    · -- The first setting is refused.
      exact (readSetting_error own).imp_right fun hides => ⟨first, List.mem_cons_self .., hides⟩
    rcases bind_eq_error.mp failed with others | ⟨more, _, failed⟩
    · -- One of the others is.
      exact (ih others).imp_right fun ⟨entry, later, hides⟩ =>
        ⟨entry, List.mem_cons_of_mem _ later, hides⟩
    · -- Nothing follows once all settings are read.
      cases failed

/-- Settings have the names of the entries. -/
theorem keys_readSettings {entries settings : List (String × Value)}
    (read : readSettings entries = .ok settings) : settings.map (·.1) = entries.map (·.1) := by
  induction entries generalizing settings with
  | nil =>
    obtain rfl := Except.ok.inj read
    rfl
  | cons first rest ih =>
    rw [readSettings_cons] at read
    obtain ⟨value, _, read⟩ := bind_eq_ok.mp read
    obtain ⟨more, others, read⟩ := bind_eq_ok.mp read
    obtain rfl := Except.ok.inj read
    simp [ih others]

/-- Settings that are read of values with known names have known names. -/
theorem known_readSettings {entries settings : List (String × Value)}
    (known : ∀ entry ∈ entries, entry.1 ∈ names)
    (read : readSettings entries = .ok settings) : ∀ setting ∈ settings, setting.1 ∈ names := by
  intro setting member
  have listed : setting.1 ∈ entries.map (·.1) := keys_readSettings read ▸ List.mem_map_of_mem member
  obtain ⟨entry, within, same⟩ := List.mem_map.mp listed
  exact same ▸ known entry within

/-- Among settings with known names there is none with another one. -/
theorem find?_unknown {settings : List (String × Value)}
    (known : ∀ setting ∈ settings, setting.1 ∈ names) :
    settings.find? (fun setting => !names.contains setting.1) = none :=
  List.find?_eq_none.mpr fun setting member => by simpa using known setting member

/-- Under a name stands the setting that is read of the value under the same name, if there is
one. -/
theorem lookupKey_readSettings {entries settings : List (String × Value)} (name : String)
    (read : readSettings entries = .ok settings) :
    Option.Rel (fun given value => readSetting name given = .ok value)
      (lookupKey name entries) (lookupKey name settings) := by
  induction entries generalizing settings with
  | nil =>
    obtain rfl := Except.ok.inj read
    exact .none
  | cons first rest ih =>
    rw [readSettings_cons] at read
    obtain ⟨value, own, read⟩ := bind_eq_ok.mp read
    obtain ⟨more, others, read⟩ := bind_eq_ok.mp read
    obtain rfl := Except.ok.inj read
    rw [lookupKey_cons, lookupKey_cons]
    by_cases same : first.1 = name
    · -- The setting that is looked for is the first one.
      simpa [same] using same ▸ own
    · -- It is among the others.
      simpa [same] using ih others

/-! ### Configurations -/

/-- The limits of a configuration, each behind the least number for it. -/
def limits (config : Config) : List (Int × Bound) :=
  (0, config.maxHierarchyLevel) :: (0, config.batchParallelThreshold) ::
    (config.maxWorkers.map fun bound => (1, bound)).toList

/-- A bound is refused if it is too small. -/
theorem boundFrom_value (least : Int) (fault : ConfigFault) (own : Bound) :
    boundFrom least fault own.value =
      if own.isBelow least then .error (.config fault) else .ok own := by
  simp [boundFrom, bound]

/-- What is no bound is of the wrong kind. -/
theorem boundFrom_of_none {least : Int} {fault : ConfigFault} {given : Value}
    (none : Bound.ofValue? given = none) :
    boundFrom least fault given = .error (.argument (.notComparable given.kindName)) := by
  simp [boundFrom, bound, none]

/-- A bound that is found is that of the value, and not too small. -/
theorem boundFrom_ok {least : Int} {fault : ConfigFault} {given : Value} {found : Bound}
    (made : boundFrom least fault given = .ok found) :
    found.value = given ∧ found.isBelow least = false := by
  cases bounds : Bound.ofValue? given with
  -- What is no bound is refused.
  | none => cases (boundFrom_of_none bounds).symm.trans made
  | some own =>
    obtain rfl := Bound.value_of_ofValue? bounds
    rw [boundFrom_value] at made
    split at made
    · -- A bound that is too small is refused.
      cases made
    · -- A bound that is large enough is taken.
      rename_i enough
      obtain rfl := Except.ok.inj made
      exact ⟨rfl, Bool.eq_false_of_not_eq_true enough⟩

/-- A value is refused because it is too small, or because it is no bound. -/
theorem boundFrom_error {least : Int} {fault : ConfigFault} {given : Value} {error : Error}
    (failed : boundFrom least fault given = .error error) : error = .config fault ∨
      Bound.ofValue? given = none ∧ error = .argument (.notComparable given.kindName) := by
  cases bounds : Bound.ofValue? given with
  -- A value that is no bound cannot be compared.
  | none => exact .inr ⟨rfl, Except.error.inj (failed.symm.trans (boundFrom_of_none bounds))⟩
  | some own =>
    obtain rfl := Bound.value_of_ofValue? bounds
    rw [boundFrom_value] at failed
    split at failed
    · -- A bound that is too small is a fault.
      exact .inl (Except.error.inj failed).symm
    · -- A bound that is large enough is not refused.
      cases failed

/-- A configuration has the given settings, and the other ones by default; none of its limits is too
small. -/
theorem create_ok {settings : List (String × Value)} {config : Config}
    (created : create settings = .ok config) :
    config.settings = default.settings.map (fun setting =>
      (setting.1, (lookupKey setting.1 settings).getD setting.2)) ∧
    ∀ limit ∈ config.limits, limit.2.isBelow limit.1 = false := by
  simp only [create] at created
  split at created
  · -- An unknown name is refused.
    cases created
  -- Both bounds that are always there are made, and are large enough.
  obtain ⟨level, ofLevel, created⟩ := bind_eq_ok.mp created
  obtain ⟨threshold, ofThreshold, created⟩ := bind_eq_ok.mp created
  obtain ⟨levelValue, levelEnough⟩ := boundFrom_ok ofLevel
  obtain ⟨thresholdValue, thresholdEnough⟩ := boundFrom_ok ofThreshold
  -- Workers may be without a limit, which is then not compared with anything.
  split at created
  · -- There are no workers to bound.
    rename_i none
    obtain rfl := Except.ok.inj created
    exact ⟨by simp [Config.settings, default, levelValue, thresholdValue, none],
      by simp [limits, levelEnough, thresholdEnough]⟩
  · -- The bound of the workers is made as well.
    obtain ⟨workers, ofWorkers, created⟩ := bind_eq_ok.mp created
    obtain rfl := Except.ok.inj created
    obtain ⟨workersValue, workersEnough⟩ := boundFrom_ok ofWorkers
    exact ⟨by simp [Config.settings, default, levelValue, thresholdValue, workersValue],
      by simp [limits, levelEnough, thresholdEnough, workersEnough]⟩

/-- A limit, for which there is a bound by default, is refused because of a fault of the
configuration, or because its value is no bound. -/
theorem boundFrom_getD_error {settings : List (String × Value)} {name : String} {otherwise : Bound}
    {least : Int} {fault : ConfigFault} {error : Error}
    (failed : boundFrom least fault ((lookupKey name settings).getD otherwise.value) =
      .error error) :
    error = .config fault ∨ ∃ value, lookupKey name settings = some value ∧
    Bound.ofValue? value = none ∧
      error = .argument (.notComparable value.kindName) := by
  refine (boundFrom_error failed).imp_right ?_
  rintro ⟨unbounded, wrong⟩
  cases found : lookupKey name settings with
  -- The default is a bound.
  | none => simp [found] at unbounded
  -- A setting that is no bound cannot be compared.
  | some value =>
    rw [found, Option.getD_some] at unbounded wrong
    exact ⟨value, rfl, unbounded, wrong⟩

/-- Known settings are refused because of a fault of the configuration, or because one for a limit
is no bound. -/
theorem create_error {settings : List (String × Value)} {error : Error}
    (known : ∀ setting ∈ settings, setting.1 ∈ names) (failed : create settings = .error error) :
    (∃ fault, error = .config fault) ∨
      ∃ name ∈ limitNames, ∃ value, lookupKey name settings = some value ∧
        Bound.ofValue? value = none ∧
        (name = "max_workers" → value ≠ .null) ∧
        error = .argument (.notComparable value.kindName) := by
  simp only [create, find?_unknown known] at failed
  -- The bound of the level is not made.
  rcases bind_eq_error.mp failed with ofLevel | ⟨level, _, failed⟩
  · rcases boundFrom_getD_error ofLevel with fault | ⟨value, found, none, wrong⟩
    · exact .inl ⟨_, fault⟩
    · exact .inr ⟨_, by decide, value, found, none, fun workers =>
        absurd workers (by decide), wrong⟩
  -- The bound of the threshold is not made.
  rcases bind_eq_error.mp failed with ofThreshold | ⟨threshold, _, failed⟩
  · rcases boundFrom_getD_error ofThreshold with fault | ⟨value, found, none, wrong⟩
    · exact .inl ⟨_, fault⟩
    · exact .inr ⟨_, by decide, value, found, none, fun workers =>
        absurd workers (by decide), wrong⟩
  -- None for workers, as it is by default, is not compared with anything.
  split at failed
  · -- Without workers nothing is refused.
    cases failed
  rename_i given
  -- The bound of the workers is not made; then it is given and not none.
  rcases bind_eq_error.mp failed with ofWorkers | ⟨_, _, made⟩
  · rcases boundFrom_error ofWorkers with fault | ⟨none, wrong⟩
    · exact .inl ⟨_, fault⟩
    cases found : lookupKey "max_workers" settings with
    | none => exact absurd (by rw [found]; rfl) given
    | some value =>
      rw [found, Option.getD_some] at none wrong given
      exact .inr ⟨"max_workers", by decide, value, found, none, fun _ => given, wrong⟩
  · -- Nothing follows once all bounds are made.
    cases made

/-- The keys of a mapping from texts are texts. -/
theorem textKeys_texts (keys : List String) : textKeys (keys.map .text) = .ok keys := by
  induction keys with
  | nil => rfl
  | cons key rest ih => simp [textKeys, ih, Except.map]

/-- A mapping whose keys are names of settings is read setting by setting. -/
theorem ofValue_dict {entries : List (String × Value)}
    (known : ∀ entry ∈ entries, entry.1 ∈ names) :
    ofValue (.dict entries) = readSettings entries >>= create := by
  have keys : (Value.dict entries).items = .ok ((entries.map (·.1)).map .text) := by
    simp [Value.items]
  -- No name is unknown.
  have none : (entries.map (·.1)).filter (fun key => !names.contains key) = [] := by
    rw [List.filter_eq_nil_iff, List.forall_mem_map]
    simpa using known
  simp only [ofValue, keys, ok_bind, textKeys_texts, none, Value.entries]
  simp [Text.distinct, Text.sorted]

/-- A mapping with any other text for a key is refused. -/
theorem ofValue_dict_of_unknown {entries : List (String × Value)}
    (unknown : ¬ ∀ entry ∈ entries, entry.1 ∈ names) :
    ∃ fault, ofValue (.dict entries) = .error (.config fault) := by
  obtain ⟨entry, member, unknown⟩ : ∃ entry ∈ entries, entry.1 ∉ names := by simpa using unknown
  have keys : (Value.dict entries).items = .ok ((entries.map (·.1)).map .text) := by
    simp [Value.items]
  have refused : entry.1 ∈ Text.sorted (Text.distinct
      ((entries.map (·.1)).filter fun key => !names.contains key)) := by
    rw [Text.sorted, List.mem_mergeSort, Text.mem_distinct]
    exact List.mem_filter.mpr ⟨List.mem_map_of_mem member, by simpa using unknown⟩
  simp only [ofValue, keys, ok_bind, textKeys_texts]
  rw [if_pos (by simpa using List.ne_nil_of_mem refused)]
  exact ⟨_, rfl⟩

/-- A mapping from texts is refused because of a fault of the configuration, because the value for a
limit is no limit, or because a value for a flag cannot be shown. -/
theorem ofValue_dict_error {entries : List (String × Value)} {error : Error}
    (failed : ofValue (.dict entries) = .error error) : (∃ fault, error = .config fault) ∨
      (∃ name ∈ limitNames, ∃ given, lookupKey name entries = some given ∧ ¬ IsLimit name given ∧
        error = .argument (.notComparable given.kindName)) ∨
      ∃ entry ∈ entries, entry.1 ∈ flagNames ∧ entry.2.WriteFails error := by
  -- A name that is unknown is refused first.
  by_cases known : ∀ entry ∈ entries, entry.1 ∈ names
  case neg =>
    obtain ⟨fault, refused⟩ := ofValue_dict_of_unknown known
    exact .inl ⟨fault, Except.error.inj (failed.symm.trans refused)⟩
  rw [ofValue_dict known] at failed
  rcases bind_eq_error.mp failed with unread | ⟨settings, read, failed⟩
  · -- A setting cannot be read, or not be shown.
    exact (readSettings_error unread).imp_right .inr
  rcases create_error (known_readSettings known read) failed
    with fault | ⟨name, limit, value, found, none, some, wrong⟩
  · -- A limit is too small.
    exact .inl fault
  -- A limit is no bound; then it was given, and as it is found.
  have read := lookupKey_readSettings name read
  rw [found] at read
  cases looked : lookupKey name entries with
  | none => rw [looked] at read; cases read
  | some given =>
    rw [looked, Option.rel_some_some] at read
    rcases readSetting_limit limit read with ⟨_, ⟨n, rfl⟩ | ⟨workers, null⟩⟩ | ⟨other, rfl⟩
    · -- A text gives a whole number, which is a bound.
      cases none
    · -- Or it gives none, which only the workers may have.
      exact absurd null (some workers)
    · -- Any other value is found as it is given, and is no limit.
      refine .inr (.inl ⟨name, limit, value, looked, ?_, wrong⟩)
      rintro (⟨s, text⟩ | ⟨bound, bounds⟩ | ⟨workers, null⟩)
      · exact other s text
      · cases none.symm.trans bounds
      · exact some workers null

/-- A configuration of the expected form is refused with a report if at all. -/
theorem reports_ofValue {given : Value} (shaped : IsSection given) : Reports (ofValue given) := by
  obtain ⟨entries, rfl, limits, shown⟩ := shaped
  intro error failed
  rcases ofValue_dict_error failed with
    ⟨fault, rfl⟩ | ⟨name, limit, given, found, wrong, _⟩ | ⟨entry, member, flag, hides⟩
  · -- A fault of the configuration is reported.
    rfl
  · -- Each limit is one.
    exact absurd (limits (name, given) (mem_of_lookupKey found) limit) wrong
  · -- Each value for a flag can be shown.
    exact absurd hides (shown entry member flag).not_writeFails

end

section

variable {runtime : Runtime} {readers : Document.Readers}

/-- The configuration in a file can be converted, and its section is of the expected form. -/
structure FitsFile [Runtime] [Document.Readers] (files : Document.Files)
    (path : String) : Prop where
  converts : files.Converts (Document.normalPath path)
  shaped : ∀ document pairs, files.Holds (Document.normalPath path) document →
    document.pairs? = some pairs → IsSection ((lookupName "enforcer" pairs).getD document)

/-- Such a file is refused with a report if at all. -/
theorem FitsFile.reports {files : Document.Files} {path : String} (fits : FitsFile files path) :
    Reports (ofFile files path) := by
  refine .bind ((Document.Files.reports_load_iff (fun _ => rfl) rfl).mpr fits.converts)
    fun document loaded => ?_
  have holds := Document.Files.load_eq_ok.mp loaded
  split
  · -- What is no mapping is refused with a report.
    exact .error rfl
  · -- A mapping is a section that is read, or refused with a report.
    rename_i pairs isMapping
    exact reports_ofValue (fits.shaped document pairs holds isMapping)

end

end Config

end AccessControl
