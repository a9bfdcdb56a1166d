import AccessControl.Proofs.Pattern.Braces
import AccessControl.Proofs.Pattern.Segments

/-! A parameter has a value for a key exactly if the key fits the pattern and the pattern has the
parameter. -/

namespace AccessControl

variable {test : Char → Bool} {α : Type} {cs : List Char}

namespace Pattern

/-! ### Names behind colons -/

/-- The pieces that a text is read as from the left. A colon with a name behind it, up to the end of
its segment, is a parameter, a star is a run within a line, and any other character stands for
itself. -/
inductive ReadsColons : List Char → Pattern → Prop
  | nil : ReadsColons [] []
  | param {name rest : List Char} {pattern : Pattern} (nonempty : name ≠ [])
    (slashless : '/' ∉ name) (ends : EndsSegment rest) (behind : ReadsColons rest pattern) :
    ReadsColons (':' :: (name ++ rest)) (.param name :: pattern)
  | star {rest : List Char} {pattern : Pattern} (behind : ReadsColons rest pattern) :
    ReadsColons ('*' :: rest) (.run .withinLine :: pattern)
  | plain {c : Char} {rest : List Char} {pattern : Pattern} (other : c ≠ '*')
    (unnamed : c = ':' → EndsSegment rest) (behind : ReadsColons rest pattern) :
    ReadsColons (c :: rest) (.exact c :: pattern)

variable {text key name : List Char} {pattern : Pattern} {reach : Reach}

/-- A text starts with what is left of its segment. -/
theorem exists_segment (text : List Char) :
    ∃ segment rest, text = segment ++ rest ∧ '/' ∉ segment ∧ EndsSegment rest := by
  by_cases slash : '/' ∈ text
  · obtain ⟨segment, more, rfl, slashless⟩ := List.eq_append_cons_of_mem slash
    -- The segment ends at the first slash.
    exact ⟨segment, '/' :: more, rfl, slashless, .inr ⟨more, rfl⟩⟩
  · -- Without a slash it is the whole text.
    exact ⟨text, [], (List.append_nil text).symm, slash, .inl rfl⟩

/-- A star is read as a run. -/
theorem ofColons_star (rest : List Char) :
    ofColons none ('*' :: rest) = .run .withinLine :: ofColons none rest := by
  simp [ofColons, plainPiece]

/-- A text is read as one pattern from the left. -/
theorem readsColons_iff : ReadsColons text pattern ↔ ofColons none text = pattern := by
  constructor
  · intro reads
    induction reads with
    | nil => rfl
    | param nonempty slashless ends _ ih => rw [ofColons_parameter nonempty slashless ends, ih]
    | star _ ih => rw [ofColons_star, ih]
    | @plain c rest _ other unnamed _ ih =>
      by_cases colon : c = ':'
      · subst colon
        rw [ofColons_colon (unnamed rfl), ih]
      · rw [ofColons_plain colon other, ih]
  · rintro rfl
    -- A parameter takes several characters at once, so the induction is on the length.
    induction left : text.length using Nat.strong_induction_on generalizing text with
    | _ left ih =>
      subst left
      cases text with
      | nil => exact .nil
      | cons c rest =>
        have later := ih _ (Nat.lt_succ_self rest.length) rfl
        by_cases star : c = '*'
        · subst star
          rw [ofColons_star]
          exact .star later
        by_cases colon : c = ':'
        · subst colon
          -- The name is what is left of the segment, and without any the colon is plain.
          obtain ⟨segment, behind, rfl, slashless, ends⟩ := exists_segment rest
          by_cases nonempty : segment = []
          · subst nonempty
            rw [List.nil_append, ofColons_colon ends]
            exact .plain star (fun _ => ends) later
          · have shorter : behind.length < (':' :: (segment ++ behind)).length := by
              rw [List.length_cons, List.length_append]
              omega
            rw [ofColons_parameter nonempty slashless ends]
            exact .param nonempty slashless ends (ih _ shorter rfl)
        · rw [ofColons_plain colon star]
          exact .plain star (fun same => absurd same colon) later

end Pattern

/-! ### The shortest run -/

/-- A shortest run is found where there is any run. -/
theorem isSome_shortestRun (following : List Char → Option α) :
    (shortestRun test following cs).isSome =
      afterRun test (fun rest => (following rest).isSome) cs := by
  induction cs with
  | nil => simp [shortestRun, afterRun]
  | cons c cs ih =>
    rw [afterRun, ← ih, shortestRun]
    cases following (c :: cs) with
    | some a => simp
    | none => by_cases passes : test c = true <;> simp [passes]

/-- The shortest run that is found passes the test, and something follows it. -/
theorem of_shortestRun_eq_some {following : List Char → Option α} {taken : List Char} {a : α}
    (found : shortestRun test following cs = some (taken, a)) :
    (∀ c ∈ taken, test c = true) ∧ ∃ rest, cs = taken ++ rest ∧ following rest = some a := by
  induction cs generalizing taken with
  | nil =>
    obtain ⟨b, follows, same⟩ := Option.map_eq_some_iff.mp found
    obtain ⟨rfl, rfl⟩ := Prod.mk.inj same
    exact ⟨by simp, [], rfl, follows⟩
  | cons c cs ih =>
    rw [shortestRun] at found
    split at found
    · next b follows =>
      obtain ⟨rfl, rfl⟩ := Prod.mk.inj (Option.some.inj found)
      exact ⟨by simp, c :: cs, rfl, follows⟩
    · split at found
      · next passes =>
        obtain ⟨⟨behind, b⟩, later, same⟩ := Option.map_eq_some_iff.mp found
        obtain ⟨rfl, rfl⟩ := Prod.mk.inj same
        obtain ⟨all, rest, rfl, follows⟩ := ih later
        exact ⟨List.forall_mem_cons.mpr ⟨passes, all⟩, rest, rfl, follows⟩
      · cases found

namespace Pattern

/-! ### Bindings of either reach -/

variable {key name : List Char} {pattern : Pattern} {parts : List (List Char)} {reach : Reach}

/-- Whatever parameters take, there are bindings exactly if the key fits. -/
theorem isSome_bind? (reach : Reach) (pattern : Pattern) (key : List Char) :
    (pattern.bind? reach key).isSome = pattern.accepts key := by
  induction pattern generalizing key with
  | nil => cases key <;> rfl
  | cons piece pattern ih =>
    -- Single characters are tested alike, and runs are found alike whatever their reach.
    cases piece with
    | exact c =>
      cases key with
      | nil => rfl
      | cons d key => by_cases same : c = d <;> simp [bind?, accepts, same, ih]
    | one set =>
      cases key with
      | nil => rfl
      | cons d key => by_cases holds : set.holds d = true <;> simp [bind?, accepts, holds, ih]
    | run set => simp only [bind?, accepts, Option.isSome_map, isSome_longestRun, ih]
    | param name =>
      cases key with
      | nil => rfl
      | cons d key =>
        by_cases slash : (d != '/') = true
        · cases reach <;>
            simp only [bind?, accepts, slash, if_true, Bool.true_and, Option.isSome_map,
              isSome_longestRun, isSome_shortestRun, ih]
        · simp [bind?, accepts, slash]

/-- Bindings are those of a split of the key. -/
theorem splits_of_bind? {bound : Bindings} (given : pattern.bind? reach key = some bound) :
    ∃ parts, pattern.Splits key parts ∧ pattern.bindings parts = bound := by
  induction pattern generalizing key bound with
  | nil =>
    cases key with
    | nil => exact ⟨[], splits_nil.mpr ⟨rfl, rfl⟩, Option.some.inj given⟩
    | cons c key => cases given
  | cons piece pattern ih =>
    -- It is enough to find a part for the first piece, behind which the others are bound.
    suffices front : ∃ part rest behind, key = part ++ rest ∧ piece.Fits part ∧
        bind? reach pattern rest = some behind ∧ bound = piece.bind part behind by
      obtain ⟨part, rest, behind, joined, fits, later, rfl⟩ := front
      obtain ⟨parts, splits, rfl⟩ := ih later
      exact ⟨part :: parts, splits_cons.mpr ⟨part, parts, rest, rfl, joined, fits, splits⟩, rfl⟩
    cases piece with
    | exact c =>
      cases key with
      | nil => cases given
      | cons d key =>
        obtain ⟨same, later⟩ := Option.ite_none_right_eq_some.mp given
        exact ⟨[d], key, bound, rfl, by rw [Piece.Fits, beq_iff_eq.mp same], later, rfl⟩
    | one set =>
      cases key with
      | nil => cases given
      | cons d key =>
        obtain ⟨holds, later⟩ := Option.ite_none_right_eq_some.mp given
        exact ⟨[d], key, bound, rfl, ⟨d, holds, rfl⟩, later, rfl⟩
    | run set =>
      obtain ⟨⟨taken, behind⟩, found, rfl⟩ := Option.map_eq_some_iff.mp given
      obtain ⟨all, ⟨rest, joined, later⟩, _⟩ := of_longestRun_eq_some found
      exact ⟨taken, rest, behind, joined, all, later, rfl⟩
    | param name =>
      cases key with
      | nil => cases given
      | cons d key =>
        obtain ⟨slash, given⟩ := Option.ite_none_right_eq_some.mp given
        obtain ⟨⟨taken, behind⟩, found, rfl⟩ := Option.map_eq_some_iff.mp given
        -- The longest and the shortest run both pass the test and have something behind them.
        have run : (∀ c ∈ taken, (c != '/') = true) ∧
            ∃ rest, key = taken ++ rest ∧ bind? reach pattern rest = some behind := by
          cases reach with
          | longest =>
            obtain ⟨all, follows, _⟩ := of_longestRun_eq_some found
            exact ⟨all, follows⟩
          | shortest => exact of_shortestRun_eq_some found
        obtain ⟨all, rest, rfl, later⟩ := run
        have slashless := passes_iff.mp (List.forall_mem_cons.mpr ⟨slash, all⟩)
        exact ⟨d :: taken, rest, behind, rfl, ⟨List.cons_ne_nil d taken, slashless⟩, later, rfl⟩

/-- What a parameter is bound to is some text. -/
theorem Splits.bound_ne_nil (splits : pattern.Splits key parts) {binding : List Char × List Char}
    (member : binding ∈ pattern.bindings parts) : binding.2 ≠ [] := by
  have fits := splits.fits
  clear splits
  induction fits with
  | nil => cases member
  | @cons piece part _ _ first _ ih =>
    cases piece with
    | param name =>
      rcases List.mem_cons.mp member with rfl | member
      · exact first.1
      · exact ih member
    | exact c => exact ih member
    | one set => exact ih member
    | run set => exact ih member

end Pattern

/-! ### Values of parameters -/

variable {key name : List Char} {pattern : Pattern}

/-- A parameter of a pattern that the key fits has the value that it has in some split, and there is
no value otherwise. -/
theorem paramValue_cases (pattern : Pattern) (key name : List Char) :
    (pattern.accepts key = true ∧ name ∈ pattern.names ∧ ∃ parts, pattern.Splits key parts ∧
      (name, paramValue pattern key name) ∈ pattern.bindings parts) ∨
    ¬ (pattern.accepts key = true ∧ name ∈ pattern.names) ∧ paramValue pattern key name = [] := by
  by_cases named : name ∈ pattern.names
  · have value : paramValue pattern key name =
        ((pattern.bind? .shortest key).bind fun bindings => bindings.value? name).getD [] := by
      simp [paramValue, named]
    have fits := Pattern.isSome_bind? .shortest pattern key
    cases bound : pattern.bind? .shortest key with
    | none =>
      -- Without bindings the key does not fit.
      rw [bound] at value fits
      exact .inr ⟨fun both => (by simp [both.1] at fits), value⟩
    | some bindings =>
      rw [bound] at value fits
      obtain ⟨parts, splits, rfl⟩ := Pattern.splits_of_bind? bound
      refine .inl ⟨fits.symm, named, parts, splits, ?_⟩
      -- The names of the bindings are those of the pattern, so one of them is found.
      rw [← splits.names_bindings] at named
      obtain ⟨binding, member, rfl⟩ := List.mem_map.mp named
      cases found : (pattern.bindings parts).find? fun other => other.1 == binding.1 with
      | none => simpa using List.find?_eq_none.mp found binding member
      | some first =>
        obtain ⟨listed, same⟩ := Bindings.of_find?_eq_some found
        rw [value, Option.bind_some, Bindings.value?, found, ← same]
        exact listed
  · exact .inr ⟨fun both => named both.2, by simp [paramValue, named]⟩

/-- A parameter has a value exactly if the key fits the pattern and the pattern has the
parameter. -/
theorem paramValue_ne_nil_iff : paramValue pattern key name ≠ [] ↔
    pattern.accepts key = true ∧ name ∈ pattern.names := by
  rcases paramValue_cases pattern key name
    with ⟨fits, named, parts, splits, member⟩ | ⟨neither, none⟩
  · -- A parameter never stands for nothing, so its value tells that it is bound.
    exact ⟨fun _ => ⟨fits, named⟩, fun _ => splits.bound_ne_nil member⟩
  · exact ⟨fun some => absurd none some, fun both => absurd both neither⟩

-- The first parameter takes as little as it can, and the second one what is left.
example : paramValue (Pattern.ofBraces none "/\x7ba\x7d-\x7bb\x7d".toList) "/x-y-z".toList
    "a".toList = "x".toList := by decide

/-- For patterns that are read in a certain way one function gives values and another one tests.
Both answer for any key, pattern and name. There is a value exactly if the test holds and the
pattern has a parameter of that name, and it is then the part of the key that stands for the
parameter in a split of the key. -/
def Registry.BindsParams (registry : Registry) (getter test : String)
    (reads : List Char → Pattern → Prop) : Prop :=
  ∀ key pattern name : String, ∃ pieces valueOf value fits holds,
    reads pattern.toList pieces ∧
    registry.get? getter = some valueOf ∧
    valueOf.call [.text key, .text pattern, .text name] = .ok (.text value) ∧
    registry.get? test = some fits ∧
    fits.call [.text key, .text pattern] = .ok (.flag holds) ∧
    (value ≠ "" ↔ holds = true ∧ name.toList ∈ pieces.names) ∧
    (value ≠ "" → ∃ parts, pieces.Splits key.toList parts ∧
      (name.toList, value.toList) ∈ pieces.bindings parts)

/-- The value that is looked up is there exactly if the key fits, and it is a part of the key. -/
theorem paramValue_binds (pieces : Pattern) (key name : String) :
    (String.ofList (paramValue pieces key.toList name.toList) ≠ "" ↔
      pieces.accepts key.toList = true ∧ name.toList ∈ pieces.names) ∧
    (String.ofList (paramValue pieces key.toList name.toList) ≠ "" →
      ∃ parts, pieces.Splits key.toList parts ∧
        (name.toList, (String.ofList (paramValue pieces key.toList name.toList)).toList) ∈
          pieces.bindings parts) := by
  have text : String.ofList (paramValue pieces key.toList name.toList) ≠ "" ↔
      paramValue pieces key.toList name.toList ≠ [] := by
    rw [← String.toList_inj.ne, String.toList_ofList]
    rfl
  rw [text, String.toList_ofList]
  refine ⟨paramValue_ne_nil_iff, fun some => ?_⟩
  rcases paramValue_cases pieces key.toList name.toList with ⟨_, _, bound⟩ | ⟨_, none⟩
  · exact bound
  · exact absurd none some

/-- A parameter has a value exactly if the test for the same patterns holds and the pattern has the
parameter, be it written with a colon or in braces. -/
theorem Registry.keyGet_bindsParams [Runtime] (now : Time.Moment) :
    (Registry.builtin now).BindsParams "keyGet2" "keyMatch2" Pattern.ReadsColons ∧
    (Registry.builtin now).BindsParams "keyGet3" "keyMatch3" Pattern.ReadsBraces :=
  ⟨fun _ _ _ => ⟨_, _, _, _, _, Pattern.readsColons_iff.mpr rfl, rfl, rfl, rfl, rfl,
    paramValue_binds ..⟩,
    fun _ _ _ => ⟨_, _, _, _, _, Pattern.readsBraces_iff.mpr rfl, rfl, rfl, rfl, rfl,
      paramValue_binds ..⟩⟩

end AccessControl
