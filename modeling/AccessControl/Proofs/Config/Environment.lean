import AccessControl.Proofs.Config.Typed
import AccessControl.Proofs.Decimal.Reading

/-! A typed configuration is read back from its settings, and from environment variables that hold
these as texts. -/

namespace AccessControl

/-! ### Texts of numbers -/

section

open AccessControl.Text AccessControl.Decimal

/-- A text stays as it is in lower case if each of its characters does, wherever that stands. -/
theorem Text.lower_eq_self {s : String}
    (each : ∀ c ∈ s.toList, c.toNat ≠ 0x3a3 ∧ lowerChar c = [c]) :
    lower s = s := by
  -- What was passed before a character matters for a capital sigma alone.
  have general (cs before : List Char) (each : ∀ c ∈ cs, c.toNat ≠ 0x3a3 ∧ lowerChar c = [c]) :
      lowerChars before cs = cs := by
    induction cs generalizing before with
    | nil => rfl
    | cons c rest ih =>
      obtain ⟨⟨other, own⟩, others⟩ := List.forall_mem_cons.mp each
      simp [lowerChars, other, own, ih _ others]
  rw [lower, general _ _ each, String.ofList_toList]

/-- A digit has no case. -/
theorem Text.lowerChar_of_isAsciiDigit {c : Char} (ascii : isAsciiDigit c = true) :
    lowerChar c = [c] := by
  have bounds := isAsciiDigit_iff.mp ascii
  have small : c.toNat < 128 := by omega
  have other : c.toLower = c := by
    refine dif_neg fun capital => ?_
    have low : 'A'.toNat ≤ c.toNat := capital.1
    have letter : 'A'.toNat = 65 := rfl
    omega
  rw [lowerChar, if_pos small, other]

/-- The text of a whole number has no blanks and no case. -/
theorem lower_trim_intText (i : Int) : Text.lower (Text.trim (intText i)) = intText i := by
  have untouched : Text.trim (intText i) = intText i := by
    rw [trim, trimChars, trimBoth_eq_self, String.ofList_toList]
    intro c member
    -- No character of a number is a blank, neither its sign nor a digit.
    rcases mem_intText member with rfl | digit
    · rfl
    · exact isBlank_of_isAsciiDigit digit
  rw [untouched]
  refine Text.lower_eq_self fun c member => ?_
  -- Nor has one another form in small letters.
  rcases mem_intText member with rfl | digit
  · exact ⟨by decide, rfl⟩
  · have bounds := isAsciiDigit_iff.mp digit
    exact ⟨by omega, Text.lowerChar_of_isAsciiDigit digit⟩

end

namespace Config

open AccessControl.Decimal

/-- The text of a whole number is none of the words for no limit. -/
theorem intText_notMem_noneWords (i : Int) : intText i ∉ noneWords := by
  -- A number is not written with nothing at all.
  have empty : (intText i).toList ≠ [] := by
    rw [toList_intText]
    exact List.append_ne_nil_of_right_ne_nil _ (isDigits_digitChars _).some
  -- And a number is not written with letters.
  have letter : 'n' ∉ (intText i).toList := by
    intro member
    rcases mem_intText member with sign | digit
    · exact absurd sign (by decide)
    · exact absurd digit (by decide)
  intro member
  simp only [noneWords, List.mem_cons, List.not_mem_nil, or_false] at member
  rcases member with none | none | none
  · -- The first of the words is empty.
    exact empty (by rw [none]; rfl)
  · -- The others have a letter.
    exact letter (by rw [none]; decide)
  · exact letter (by rw [none]; decide)

/-! ### Single settings -/

section

variable {runtime : Runtime} {config : Config}

/-- A configuration has all settings. -/
theorem keys_settings (config : Config) : config.settings.map (·.1) = names := rfl

/-- What is a setting of a configuration has the name of one. -/
theorem mem_names {name : String} {value : Value} (member : (name, value) ∈ config.settings) :
    name ∈ names :=
  keys_settings config ▸ List.mem_map_of_mem member

/-- A configuration has one value for each setting. -/
theorem eq_of_mem_settings {name : String} {value other : Value}
    (member : (name, value) ∈ config.settings)
    (again : (name, other) ∈ config.settings) : value = other := by
  have distinct : (config.settings.map (·.1)).Nodup := by
    rw [keys_settings]
    decide
  exact congrArg Prod.snd (List.inj_on_of_nodup_map distinct member again rfl)

/-- A setting of a typed configuration is a flag for a flag, or a whole number or nothing for a
limit. -/
theorem IsTyped.setting_cases (typed : config.IsTyped) : ∀ setting ∈ config.settings,
    setting.1 ∈ flagNames ∧ (∃ b, setting.2 = .flag b) ∨
      setting.1 ∈ limitNames ∧ IsWholeLimit setting.1 setting.2 := by
  obtain ⟨⟨level, _, levelWhole⟩, ⟨threshold, _, thresholdWhole⟩, workers⟩ :=
    forall_mem_limits.mp typed.limits
  have workersWhole := (isWholeLimit_workers config.maxWorkers).mpr fun bound member =>
    (workers bound member).imp fun _ => And.right
  have areFlags := typed.flags
  simp only [Config.flags, List.forall_mem_cons] at areFlags
  obtain ⟨enabled, builds, logs, _⟩ := areFlags
  simp only [settings, List.forall_mem_cons]
  exact ⟨.inl ⟨by decide, enabled⟩, .inl ⟨by decide, builds⟩,
    .inr ⟨by decide, (isWholeLimit_value _ _).mpr ⟨level, levelWhole⟩⟩,
    .inr ⟨by decide, (isWholeLimit_value _ _).mpr ⟨threshold, thresholdWhole⟩⟩,
    .inr ⟨by decide, workersWhole⟩, .inl ⟨by decide, logs⟩, List.forall_mem_nil _⟩

/-- A setting of a typed configuration is read as itself. -/
theorem IsTyped.readSetting_self (typed : config.IsTyped) {setting : String × Value}
    (member : setting ∈ config.settings) : readSetting setting.1 setting.2 = .ok setting.2 := by
  -- A flag is read as itself.
  rcases typed.setting_cases setting member with ⟨flag, b, own⟩ | ⟨limit, whole⟩
  · rw [readSetting, if_pos (by simpa using flag), own]
    rfl
  · -- A limit is no text, and only texts are read as numbers.
    have other : ∀ s, setting.2 ≠ .text s := by
      rcases whole with ⟨n, own⟩ | ⟨_, none⟩
      · simp [own]
      · simp [none]
    rw [readSetting, if_neg (by simpa using notMem_flagNames limit), readNumber_of_ne_text other]

/-- All whole numbers among the settings have few digits. -/
def HasFewDigits (config : Config) : Prop :=
  ∀ setting ∈ config.settings, ∀ n, setting.2 = .int n → Decimal.HasFewDigits n

/-- A flag is read from its text. -/
theorem readFlag_asText (name : String) (b : Bool) :
    readFlag name (.text (Value.flag b).asText) = .ok (.flag b) := by
  cases b <;> rfl

/-- A whole number with few digits is read from its text. -/
theorem readNumber_asText (name : String) {n : Int} (few : Decimal.HasFewDigits n) :
    readNumber name (.text (Value.int n).asText) = .ok (.int n) := by
  have text : (Value.int n).asText = intText n := by simp [Value.asText, Value.shown]
  simp [readNumber, text, lower_trim_intText, intText_notMem_noneWords, readWhole_intText few]

/-- A setting of a typed configuration is read from its text, if numbers have few digits. -/
theorem IsTyped.readSetting_asText (typed : config.IsTyped) (few : config.HasFewDigits)
    {setting : String × Value} (member : setting ∈ config.settings) :
    readSetting setting.1 (.text setting.2.asText) = .ok setting.2 := by
  rcases typed.setting_cases setting member
    with ⟨flag, b, own⟩ | ⟨limit, ⟨n, own⟩ | ⟨workers, none⟩⟩
  · -- The words for flags are read.
    rw [readSetting, if_pos (by simpa using flag), own, readFlag_asText]
  · -- Whole numbers are read, if they have few digits.
    rw [readSetting, if_neg (by simpa using notMem_flagNames limit), own,
      readNumber_asText _ (few setting member n own)]
  · -- None is read for the workers.
    rw [workers, none]
    rfl

/-! ### Settings -/

/-- Entries that are all read give settings. -/
theorem exists_readSettings {entries : List (String × Value)}
    (each : ∀ entry ∈ entries, ∃ value, readSetting entry.1 entry.2 = .ok value) :
    ∃ settings, readSettings entries = .ok settings := by
  induction entries with
  | nil => exact ⟨[], rfl⟩
  | cons first rest ih =>
    obtain ⟨⟨value, own⟩, others⟩ := List.forall_mem_cons.mp each
    obtain ⟨more, read⟩ := ih others
    exact ⟨(first.1, value) :: more, by rw [readSettings_cons, own, read]; rfl⟩

/-- A bound that is not too small is that of its value. -/
theorem boundFrom_of_enough {least : Int} {bound : Bound} (enough : bound.isBelow least = false)
    (fault : ConfigFault) : boundFrom least fault bound.value = .ok bound := by
  rw [boundFrom_value, enough]
  rfl

/-- All settings of a configuration give that configuration, if none of its limits is too small. -/
theorem create_eq_ok {given : List (String × Value)} (known : ∀ setting ∈ given, setting.1 ∈ names)
    (found : ∀ setting ∈ config.settings, lookupKey setting.1 given = some setting.2)
    (enough : ∀ limit ∈ config.limits, limit.2.isBelow limit.1 = false) :
    create given = .ok config := by
  obtain ⟨enabled, builds, level, threshold, limit, logs⟩ := config
  obtain ⟨levelEnough, thresholdEnough, workersEnough⟩ := forall_mem_limits.mp enough
  simp only [settings, List.forall_mem_cons] at found
  obtain ⟨enabledFound, buildsFound, levelFound, thresholdFound, workersFound, logsFound, _⟩ :=
    found
  simp only [create, find?_unknown known, enabledFound, buildsFound, levelFound, thresholdFound,
    workersFound, logsFound,
    Option.getD_some, boundFrom_of_enough levelEnough, boundFrom_of_enough thresholdEnough, ok_bind]
  -- Only a limit for workers that is there is compared with anything.
  cases limit with
  | none => rfl
  | some bound =>
    have most := boundFrom_of_enough (workersEnough bound rfl) .noWorkers
    cases bound <;> exact bind_eq_ok.mpr ⟨_, most, rfl⟩

/-- A mapping with a value for each setting that is read as the one of a configuration is read as
that configuration, if none of its limits is too small. -/
theorem ofValue_dict_eq_ok {entries : List (String × Value)}
    (each : ∀ entry ∈ entries, ∃ value, (entry.1, value) ∈ config.settings ∧
      readSetting entry.1 entry.2 = .ok value)
    (all : ∀ name ∈ names, name ∈ entries.map (·.1))
    (enough : ∀ limit ∈ config.limits, limit.2.isBelow limit.1 = false) :
    ofValue (.dict entries) = .ok config := by
  have known : ∀ entry ∈ entries, entry.1 ∈ names := by
    intro entry member
    obtain ⟨value, own, _⟩ := each entry member
    exact mem_names own
  obtain ⟨given, read⟩ := exists_readSettings fun entry member =>
    (each entry member).imp fun _ => And.right
  rw [ofValue_dict known, read, ok_bind]
  refine create_eq_ok (known_readSettings known read) ?_ enough
  -- The value that stands under the name of a setting is read as the one of the configuration.
  rintro ⟨name, value⟩ member
  have related := lookupKey_readSettings name read
  obtain ⟨raw, found⟩ := Option.isSome_iff_exists.mp
    (lookupKey_isSome.mpr (all name (mem_names member)))
  obtain ⟨own, listed, readOwn⟩ := each (name, raw) (mem_of_lookupKey found)
  rw [found] at related
  generalize lookupKey name given = asked at related ⊢
  cases related with
  | some readAsked =>
    obtain rfl := Except.ok.inj (readAsked.symm.trans readOwn)
    rw [eq_of_mem_settings listed member]

/-! ### Environment variables -/

/-- The name of the environment variable for a setting, which has the name of the setting in
capitals behind a beginning. -/
def variableFor (beginning name : String) : String :=
  beginning ++ String.ofList (name.toList.map Char.toUpper)

/-- Environment variables, each once, hold a configuration: for every setting there is one with its
text, and no other one has the beginning. -/
structure IsHeldBy (config : Config) (beginning : String)
    (given : List (String × String)) : Prop where
  distinct : (given.map (·.1)).Nodup
  held : ∀ setting ∈ config.settings, (variableFor beginning setting.1, setting.2.asText) ∈ given
  others : ∀ entry ∈ given, (∀ name ∈ names, entry.1 ≠ variableFor beginning name) →
    ¬ beginning.toList <+: entry.1.toList

/-- The name of a setting is what its variable has behind the beginning, in lower case. -/
theorem lower_variableFor (beginning : String) : ∀ name ∈ names,
    Text.lower (String.ofList ((variableFor beginning name).toList.drop beginning.length)) =
      name := by
  have capitals : ∀ name ∈ names,
      Text.lower (String.ofList (name.toList.map Char.toUpper)) = name := by
    decide
  intro name known
  rw [variableFor, String.toList_append, String.toList_ofList, ← String.length_toList,
    List.drop_left]
  exact capitals name known

/-- From an environment that holds a configuration the texts of its settings are taken, and nothing
else. -/
theorem IsHeldBy.ofEnvironment_eq {beginning : String} {given : List (String × String)}
    (holds : config.IsHeldBy beginning given) :
    ∃ entries, ofEnvironment beginning given = ofValue (.dict (collectKeys entries)) ∧
      ∀ entry, entry ∈ entries ↔ ∃ setting ∈ config.settings,
        entry = (setting.1, .text setting.2.asText) := by
  refine ⟨_, rfl, fun entry => ?_⟩
  rw [List.mem_filterMap]
  constructor
  · rintro ⟨⟨title, text⟩, member, taken⟩
    simp only at taken
    split at taken
    · rename_i inFront
      -- A variable with the beginning is that of a setting, which is held by no other one.
      have own : ∃ name ∈ names, title = variableFor beginning name := by
        by_contra other
        refine holds.others (title, text) member (fun name known equal => ?_)
          (List.isPrefixOf_iff_prefix.mp inFront)
        exact other ⟨name, known, equal⟩
      obtain ⟨name, known, rfl⟩ := own
      obtain ⟨setting, listed, rfl⟩ : ∃ setting ∈ config.settings, setting.1 = name :=
        List.mem_map.mp (keys_settings config ▸ known)
      have same : text = setting.2.asText := congrArg Prod.snd
        (List.inj_on_of_nodup_map holds.distinct member (holds.held setting listed) rfl)
      simp only [lower_variableFor beginning _ known, List.contains_iff_mem, known,
        if_true] at taken
      exact ⟨setting, listed, by rw [← Option.some.inj taken, same]⟩
    · -- Without the beginning nothing is taken.
      cases taken
  · -- The variable of each setting is among those given, and has the beginning.
    rintro ⟨setting, member, rfl⟩
    have known := mem_names member
    have inFront : beginning.toList.isPrefixOf (variableFor beginning setting.1).toList = true := by
      simp [variableFor]
    refine ⟨_, holds.held setting member, ?_⟩
    simp only [inFront, if_true, lower_variableFor beginning _ known, List.contains_iff_mem, known]

end

/-- A typed configuration is read back from its settings. If whole numbers have few digits, it is
read back from every environment that holds it as well, whatever the beginning is. -/
theorem IsTyped.restored [Runtime] {config : Config} (typed : config.IsTyped) :
    ofValue (.dict config.settings) = .ok config ∧
    (config.HasFewDigits → ∀ beginning given, config.IsHeldBy beginning given →
      ofEnvironment beginning given = .ok config) := by
  have enough : ∀ limit ∈ config.limits, limit.2.isBelow limit.1 = false := by
    -- Every setting is given with the value that is read back.
    intro limit member
    obtain ⟨n, least, whole⟩ := typed.limits limit member
    simp [whole, Bound.isBelow, least]
  constructor
  · -- In the environment every setting stands as a text.
    refine ofValue_dict_eq_ok (fun setting member => ?_) (fun name known => ?_) enough
    · exact ⟨setting.2, member, typed.readSetting_self member⟩
    · rwa [keys_settings]
  · intro few beginning given holds
    -- What is collected is the text of a setting, and that is read.
    obtain ⟨entries, same, held⟩ := holds.ofEnvironment_eq
    rw [same]
    -- Every setting is collected.
    refine ofValue_dict_eq_ok (fun entry member => ?_) (fun name known => ?_) enough
    · obtain ⟨setting, listed, rfl⟩ := (held entry).mp (mem_of_mem_collectKeys member)
      exact ⟨setting.2, listed, typed.readSetting_asText few listed⟩
    · obtain ⟨setting, listed, rfl⟩ : ∃ setting ∈ config.settings, setting.1 = name :=
        List.mem_map.mp (keys_settings config ▸ known)
      rw [mem_keys_collectKeys]
      have entry := (held (setting.1, .text setting.2.asText)).mpr ⟨setting, listed, rfl⟩
      exact List.mem_map.mpr ⟨_, entry, rfl⟩

/-- A configuration in which every setting is another one than by default. -/
def limitedConfig : Config :=
  ⟨.flag false, .flag false, .whole 0, .whole 10000000000, some (.whole 8), .flag true⟩

/-- Environment variables that hold it, and one more. -/
def limitedVariables : List (String × String) := [
  ("PATH", "/bin"), ("GATEKEEPER_MAX_WORKERS", "8"), ("GATEKEEPER_ENABLED", "False"),
  ("GATEKEEPER_AUTO_BUILD_ROLE_LINKS", "False"), ("GATEKEEPER_MAX_HIERARCHY_LEVEL", "0"),
  ("GATEKEEPER_BATCH_PARALLEL_THRESHOLD", "10000000000"), ("GATEKEEPER_LOG_DECISIONS", "True")]

/-- No steps at all and ten digits are limits as good as others. -/
theorem IsTyped.restored_limited :
    limitedConfig.IsTyped ∧ limitedConfig.HasFewDigits ∧
      limitedConfig.IsHeldBy "GATEKEEPER_" limitedVariables ∧
      ofValue (.dict limitedConfig.settings) = .ok limitedConfig ∧
      ofEnvironment "GATEKEEPER_" limitedVariables = .ok limitedConfig := by
  have typed : limitedConfig.IsTyped :=
    ⟨by simp [limitedConfig, Config.flags], by simp [limitedConfig, Config.limits]⟩
  have few : limitedConfig.HasFewDigits := by
    simp only [limitedConfig, Config.HasFewDigits, settings, List.forall_mem_cons]
    simpa [Bound.value] using ⟨by decide, by decide, by decide⟩
  have held : limitedConfig.IsHeldBy "GATEKEEPER_" limitedVariables :=
    ⟨by decide, by decide, by decide⟩
  obtain ⟨fromSettings, fromEnvironment⟩ := typed.restored
  exact ⟨typed, few, held, fromSettings, fromEnvironment few _ _ held⟩

end Config

end AccessControl
