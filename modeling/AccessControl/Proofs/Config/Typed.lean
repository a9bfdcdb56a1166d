import AccessControl.Proofs.Config.Document

/-! A configuration of a mapping has flags for flags. For its limits it has whole numbers, unless a
value of another kind is given for one of them, which is then taken as it is or cannot be compared.
What a flag is refused with shows the value, unless this cannot be written. -/

namespace AccessControl.Config

/-- The flags of a configuration. -/
def flags (config : Config) : List Value :=
  [config.enabled, config.autoBuildRoleLinks, config.logDecisions]

/-- All flags are flags, and all limits are whole numbers that are not too small. -/
structure IsTyped (config : Config) : Prop where
  flags : ∀ value ∈ config.flags, ∃ b, value = .flag b
  limits : ∀ limit ∈ config.limits, ∃ n, limit.1 ≤ n ∧ limit.2 = .whole n

section

variable {runtime : Runtime}

/-- A limit is given only in words, as a whole number, or as none for workers. -/
def HasWholeLimits (entries : List (String × Value)) : Prop :=
  ∀ name ∈ limitNames, ∀ given, lookupKey name entries = some given →
    (∃ s, given = .text s) ∨ IsWholeLimit name given

/-! ### Single settings -/

section

variable {entries settings : List (String × Value)} {name : String}

/-- What is read for a flag is a flag. -/
theorem flag_of_readSettings (read : readSettings entries = .ok settings) (flag : name ∈ flagNames)
    (otherwise : Bool) : ∃ b, (lookupKey name settings).getD (.flag otherwise) = .flag b := by
  have related := lookupKey_readSettings name read
  generalize lookupKey name entries = asked at related
  generalize lookupKey name settings = found at related ⊢
  cases related with
  -- The setting is left out.
  | none => exact ⟨otherwise, rfl⟩
  -- The setting is given, and read as a flag.
  | some read => exact readSetting_flag flag read

/-- A limit is a whole number exactly if it is so given, or in words, or by default. -/
theorem isWholeLimit_of_readSettings (read : readSettings entries = .ok settings)
    (limit : name ∈ limitNames) {otherwise : Value} (default : IsWholeLimit name otherwise) :
    IsWholeLimit name ((lookupKey name settings).getD otherwise) ↔
      ∀ given, lookupKey name entries = some given → (∃ s, given = .text s) ∨
        IsWholeLimit name given := by
  have related := lookupKey_readSettings name read
  generalize lookupKey name entries = asked at related ⊢
  generalize lookupKey name settings = found at related ⊢
  cases related with
  -- Nothing is given, and the default is taken.
  | none => exact ⟨nofun, fun _ => default⟩
  | @some given value read =>
    rw [Option.getD_some]
    rcases readSetting_limit limit read with ⟨text, whole⟩ | ⟨other, rfl⟩
    · -- A text is read as a whole number.
      refine ⟨fun _ same isGiven => ?_, fun _ => whole⟩
      obtain rfl := Option.some.inj isGiven
      exact .inl text
    · -- Any other value is taken as it is.
      constructor
      · intro whole same isGiven
        obtain rfl := Option.some.inj isGiven
        exact .inr whole
      · intro each
        exact (each value rfl).resolve_left (not_exists.mpr other)

end

/-- The value of a bound is a whole number exactly if the bound is one. -/
theorem isWholeLimit_value (name : String) (bound : Bound) :
    IsWholeLimit name bound.value ↔ ∃ n, bound = .whole n := by
  cases bound <;> simp [IsWholeLimit, Bound.value]

/-- It makes no difference if there is no limit for workers. -/
theorem isWholeLimit_workers (workers : Option Bound) :
    IsWholeLimit "max_workers" ((workers.map Bound.value).getD .null) ↔
      ∀ bound ∈ workers, ∃ n, bound = .whole n := by
  cases workers with
  -- None for workers is a limit as well.
  | none => simp [IsWholeLimit]
  -- With workers there is the bound to look at.
  | some bound => simpa using isWholeLimit_value "max_workers" bound

/-- There are two limits, and perhaps one for workers. -/
theorem forall_mem_limits {config : Config} {holds : Int × Bound → Prop} :
    (∀ limit ∈ config.limits, holds limit) ↔ holds (0, config.maxHierarchyLevel) ∧
      holds (0, config.batchParallelThreshold) ∧ ∀ bound ∈ config.maxWorkers, holds (1, bound) := by
  cases workers : config.maxWorkers <;> simp [limits, workers]

/-- Limits that are not too small are those of a typed configuration if they are whole numbers. -/
theorem forall_limits_whole_iff {config : Config}
    (enough : ∀ limit ∈ config.limits, limit.2.isBelow limit.1 = false) :
    (∀ limit ∈ config.limits, ∃ n, limit.1 ≤ n ∧ limit.2 = .whole n) ↔
      ∀ limit ∈ config.limits, ∃ n, limit.2 = .whole n := by
  refine forall₂_congr fun limit member => exists_congr fun n =>
    and_iff_right_of_imp fun whole => ?_
  -- A bound that is a whole number and not below the least one is at least that.
  have notBelow := enough limit member
  rw [whole] at notBelow
  simpa [Bound.isBelow] using notBelow

/-! ### Mappings -/

/-- Of a mapping from texts a configuration is read with flags for flags, and with limits that are
not too small. It is typed exactly if all limits that are given are so in words, as whole numbers,
or as none for workers. -/
theorem ofValue_dict_ok {entries : List (String × Value)} {config : Config}
    (read : ofValue (.dict entries) = .ok config) :
    (∀ value ∈ config.flags, ∃ b, value = .flag b) ∧
    (∀ limit ∈ config.limits, limit.2.isBelow limit.1 = false) ∧
    (config.IsTyped ↔ HasWholeLimits entries) := by
  obtain ⟨settings, readEach, created⟩ : ∃ settings, readSettings entries = .ok settings ∧
      create settings = .ok config := by
    -- Only known names are read.
    by_cases known : ∀ entry ∈ entries, entry.1 ∈ names
    · exact bind_eq_ok.mp ((ofValue_dict known).symm.trans read)
    · obtain ⟨fault, refused⟩ := ofValue_dict_of_unknown known
      cases refused.symm.trans read
  -- Each field of the configuration is the setting of its name, or the default.
  obtain ⟨same, enough⟩ := create_ok created
  obtain ⟨enabled, builds, level, threshold, workers, logs⟩ :
      config.enabled = (lookupKey "enabled" settings).getD default.enabled ∧
      config.autoBuildRoleLinks =
        (lookupKey "auto_build_role_links" settings).getD default.autoBuildRoleLinks ∧
      config.maxHierarchyLevel.value = (lookupKey "max_hierarchy_level" settings).getD (.int 10) ∧
      config.batchParallelThreshold.value =
        (lookupKey "batch_parallel_threshold" settings).getD (.int 10) ∧
      (config.maxWorkers.map Bound.value).getD .null =
        (lookupKey "max_workers" settings).getD .null ∧
      config.logDecisions = (lookupKey "log_decisions" settings).getD default.logDecisions := by
    simpa [Config.settings, default, Bound.value] using same
  have areFlags : ∀ value ∈ config.flags, ∃ b, value = .flag b := by
    have isFlag {name : String} (flag : name ∈ flagNames) := flag_of_readSettings readEach flag
    simp only [flags, List.forall_mem_cons, enabled, builds, logs]
    exact ⟨isFlag (by decide) true, isFlag (by decide) true, isFlag (by decide) false,
      List.forall_mem_nil _⟩
  -- Each limit is a whole number exactly if it is so given.
  have areWhole : (∀ limit ∈ config.limits, ∃ n, limit.2 = .whole n) ↔ HasWholeLimits entries := by
    have wholeLevel := isWholeLimit_of_readSettings readEach
      (by decide : "max_hierarchy_level" ∈ limitNames) (.inl ⟨10, rfl⟩)
    have wholeThreshold := isWholeLimit_of_readSettings readEach
      (by decide : "batch_parallel_threshold" ∈ limitNames) (.inl ⟨10, rfl⟩)
    have wholeWorkers := isWholeLimit_of_readSettings readEach
      (by decide : "max_workers" ∈ limitNames) (.inr ⟨rfl, rfl⟩)
    rw [← level, isWholeLimit_value] at wholeLevel
    rw [← threshold, isWholeLimit_value] at wholeThreshold
    rw [← workers, isWholeLimit_workers] at wholeWorkers
    rw [forall_mem_limits, wholeLevel, wholeThreshold, wholeWorkers]
    simp [HasWholeLimits, limitNames]
  -- A typed configuration has both.
  refine ⟨areFlags, enough, ?_⟩
  rw [← areWhole, ← forall_limits_whole_iff enough]
  exact ⟨IsTyped.limits, IsTyped.mk areFlags⟩

end

/-- A configuration of a mapping from texts has flags for flags, and limits that are not too small;
it is typed exactly if all limits that are given are so in words, as whole numbers, or as none for
workers. What is refused has a fault of the configuration, or a value for a limit that is no limit
and cannot be compared, or a value for a flag that is none and cannot be written into the message
about it, because of a number or because of its levels. So if all limits are given in these ways and
all values for flags can be written, a typed configuration is read, or there is a fault of the
configuration. -/
theorem ofValue_outcomes [Runtime] (entries : List (String × Value)) :
    (∀ config, ofValue (.dict entries) = .ok config →
      (∀ value ∈ config.flags, ∃ b, value = .flag b) ∧
      (∀ limit ∈ config.limits, limit.2.isBelow limit.1 = false) ∧
      (config.IsTyped ↔ HasWholeLimits entries)) ∧
    (∀ error, ofValue (.dict entries) = .error error → (∃ fault, error = .config fault) ∨
      (∃ name ∈ limitNames, ∃ given, lookupKey name entries = some given ∧ ¬ IsLimit name given ∧
        error = .argument (.notComparable given.kindName)) ∨
      ∃ entry ∈ entries, entry.1 ∈ flagNames ∧ entry.2.WriteFails error) ∧
    (HasWholeLimits entries → HasShownFlags entries →
      (∃ fault, ofValue (.dict entries) = .error (.config fault)) ∨
      ∃ config, ofValue (.dict entries) = .ok config ∧ config.IsTyped) := by
  refine ⟨fun config => ofValue_dict_ok, fun error => ofValue_dict_error, fun whole shown => ?_⟩
  cases read : ofValue (.dict entries) with
  | ok config =>
    obtain ⟨_, _, exactly⟩ := ofValue_dict_ok read
    exact .inr ⟨config, rfl, exactly.mpr whole⟩
  | error error =>
    -- What is no fault of the configuration is excluded by what is given.
    rcases ofValue_dict_error read with
      ⟨fault, rfl⟩ | ⟨name, limit, given, found, wrong, _⟩ | ⟨entry, member, flag, fails⟩
    · exact .inl ⟨fault, rfl⟩
    · -- What is given for a limit is one.
      refine absurd ?_ wrong
      rcases whole name limit given found with text | ⟨n, rfl⟩ | none
      · exact .inl text
      · exact .inr (.inl ⟨.whole n, rfl⟩)
      · exact .inr (.inr none)
    · -- What is given for a flag is shown in the message.
      exact absurd fails (shown entry member flag).not_writeFails

/-- A limit in words and none for workers give a typed configuration, and no workers at all are a
fault of the configuration. -/
theorem ofValue_outcomes_words :
    (∃ config, ofValue (.dict [("max_hierarchy_level", .text " 5 "), ("max_workers", .null)]) =
      .ok config ∧
      config.maxHierarchyLevel = .whole 5 ∧ config.IsTyped) ∧
    ∃ fault, ofValue (.dict [("max_workers", .text "0")]) = .error (.config fault) := by
  constructor
  · have read : ofValue (.dict [("max_hierarchy_level", .text " 5 "), ("max_workers", .null)]) =
        .ok { default with maxHierarchyLevel := .whole 5 } := by
      rw [ofValue_dict (by decide)]
      rfl
    obtain ⟨ofConfig, _, _⟩ :=
      ofValue_outcomes [("max_hierarchy_level", .text " 5 "), ("max_workers", .null)]
    obtain ⟨_, _, exactly⟩ := ofConfig _ read
    exact ⟨_, read, rfl, exactly.mpr
      (by simp [HasWholeLimits, limitNames, lookupKey, IsWholeLimit])⟩
  · obtain ⟨_, _, ofWhole⟩ := ofValue_outcomes [("max_workers", .text "0")]
    refine (ofWhole (by simp [HasWholeLimits, limitNames, lookupKey])
      (by simp [HasShownFlags, flagNames])).resolve_right ?_
    rintro ⟨config, read, _⟩
    rw [ofValue_dict (by decide)] at read
    cases read

/-- None for the level is no fault of the configuration, but cannot be compared; and a real number
for it is taken as it is, so that the configuration is not typed. -/
theorem ofValue_unread_level :
    ofValue (.dict [("max_hierarchy_level", .null)]) =
      .error (.argument (.notComparable "NoneType")) ∧
    ∃ config,
      ofValue (.dict [("max_hierarchy_level", .real (.finite false 6755399441055744 (-52)))]) =
      .ok config ∧ ¬ config.IsTyped := by
  rw [ofValue_dict (by decide), ofValue_dict (by decide)]
  refine ⟨rfl, _, rfl, fun typed => ?_⟩
  obtain ⟨n, _, whole⟩ := typed.limits (0, .real (.finite false 6755399441055744 (-52))) (by decide)
  cases whole

end AccessControl.Config
