import AccessControl.Callable.Builtin
import AccessControl.Proofs.Pattern.Binding

/-! Patterns with parameters in braces: which parts of a pattern are names, and which keys fit it
with one value for each name. -/

namespace AccessControl

/-! ### Names in braces -/

/-- A name of a parameter is not empty, and neither a slash nor a closing brace is part of it. -/
structure IsParamName (name : List Char) : Prop where
  nonempty : name ≠ []
  slashless : '/' ∉ name
  unclosed : '\x7d' ∉ name

/-- A parameter is written at the start of the text: a name between braces. -/
def StartsParam (text : List Char) : Prop :=
  ∃ name rest, IsParamName name ∧ text = '\x7b' :: (name ++ '\x7d' :: rest)

namespace Pattern

/-- The pieces that a text is read as from the left. A name in braces is a parameter, a star is a
run within a line, and any other character stands for itself. -/
inductive ReadsBraces : List Char → Pattern → Prop
  | nil : ReadsBraces [] []
  | param {name rest : List Char} {pattern : Pattern} (named : IsParamName name)
    (behind : ReadsBraces rest pattern) :
    ReadsBraces ('\x7b' :: (name ++ '\x7d' :: rest)) (.param name :: pattern)
  | star {rest : List Char} {pattern : Pattern} (behind : ReadsBraces rest pattern) :
    ReadsBraces ('*' :: rest) (.run .withinLine :: pattern)
  | plain {c : Char} {rest : List Char} {pattern : Pattern} (other : c ≠ '*')
    (unnamed : ¬ StartsParam (c :: rest)) (behind : ReadsBraces rest pattern) :
    ReadsBraces (c :: rest) (.exact c :: pattern)

variable {text name rest read : List Char} {c : Char} {pattern : Pattern}

/-- A name that is being read ends at a closing brace, and a parameter has been read. -/
theorem ofBraces_some_named (slashless : '/' ∉ name) (unclosed : '\x7d' ∉ name)
    (nonempty : read ++ name ≠ []) : ofBraces (some read) (name ++ '\x7d' :: rest) =
      .param (read.reverse ++ name) :: ofBraces none rest := by
  induction name generalizing read with
  | nil =>
    rw [List.append_nil] at nonempty
    simp [ofBraces, nonempty]
  | cons c name ih =>
    rw [List.mem_cons, not_or] at slashless unclosed
    have more : c :: read ++ name ≠ [] := List.cons_ne_nil c (read ++ name)
    have further := ih slashless.2 unclosed.2 more
    simp [ofBraces, Ne.symm slashless.1, Ne.symm unclosed.1, further]

/-- Characters behind an opening brace that make no name stand for themselves, as the brace does. -/
theorem ofBraces_some_unnamed (unnamed : ∀ name rest, '/' ∉ name → '\x7d' ∉ name →
    read ++ name ≠ [] → text ≠ name ++ '\x7d' :: rest) : ofBraces (some read) text =
      .exact '\x7b' :: (read.reverse.map plainPiece ++ ofBraces none text) := by
  induction text generalizing read with
  | nil => simp [ofBraces]
  | cons c rest ih =>
    by_cases closing : c = '\x7d'
    · -- Right behind the opening brace a closing one makes no name.
      subst closing
      have empty : read = [] := by
        by_contra some
        exact unnamed [] rest (by simp) (by simp) (by simpa using some) rfl
      simp [empty, ofBraces]
    by_cases slash : c = '/'
    · -- A slash ends the name before it is closed.
      simp [slash, ofBraces]
    have further (more : List Char) : ∀ name after, '/' ∉ name → '\x7d' ∉ name → more ++ name ≠ [] →
        rest ≠ name ++ '\x7d' :: after := by
      rintro name after slashless unclosed - rfl
      exact unnamed (c :: name) after (by simp [Ne.symm slash, slashless])
        (by simp [Ne.symm closing, unclosed]) (by simp) rfl
    -- Nothing starts a name here, so the character stands for itself.
    have plain : ofBraces none (c :: rest) = plainPiece c :: ofBraces none rest := by
      by_cases opening : c = '\x7b'
      · -- The name that a second opening brace would start ends where the first one would.
        rw [ofBraces, if_pos (beq_iff_eq.mpr opening), ih (further []), opening]
        rfl
      · simp [ofBraces, opening]
    -- The character is read as part of a name.
    have longer : ofBraces (some read) (c :: rest) = ofBraces (some (c :: read)) rest := by
      simp [ofBraces, closing, slash]
    rw [longer, ih (further (c :: read)), plain, List.reverse_cons, List.map_append,
      List.append_assoc]
    rfl

/-- A name in braces is read as a parameter. -/
theorem ofBraces_param (named : IsParamName name) :
    ofBraces none ('\x7b' :: (name ++ '\x7d' :: rest)) = .param name :: ofBraces none rest := by
  rw [ofBraces, if_pos (beq_self_eq_true _), ofBraces_some_named named.slashless named.unclosed
    (by simpa using named.nonempty), List.reverse_nil, List.nil_append]

/-- A character that starts no parameter is read as a star or as itself. -/
theorem ofBraces_plain (unnamed : ¬ StartsParam (c :: rest)) :
    ofBraces none (c :: rest) = plainPiece c :: ofBraces none rest := by
  by_cases opening : c = '\x7b'
  · -- The brace opens no name.
    subst opening
    rw [ofBraces, if_pos (beq_self_eq_true _), ofBraces_some_unnamed]
    · rfl
    · rintro name after slashless unclosed nonempty rfl
      exact unnamed ⟨name, after, ⟨nonempty, slashless, unclosed⟩, rfl⟩
  · -- Any other character stands for itself.
    simp [ofBraces, opening]

/-- A text is read as one pattern from the left. -/
theorem readsBraces_iff : ReadsBraces text pattern ↔ ofBraces none text = pattern := by
  constructor
  · intro reads
    induction reads with
    | nil => rfl
    -- A parameter takes all of its braces.
    | param named _ ih => rw [ofBraces_param named, ih]
    -- A star stands for anything.
    | star _ ih => rw [ofBraces_plain (by rintro ⟨_, _, _, same⟩; cases same), ih]; rfl
    -- All others stand for themselves.
    | plain other unnamed _ ih => rw [ofBraces_plain unnamed, ih, plainPiece,
      if_neg (by simpa using other)]
  · rintro rfl
    -- A parameter takes several characters at once, so the induction is on the length.
    induction left : text.length using Nat.strong_induction_on generalizing text with
    | _ left ih =>
      subst left
      cases text with
      | nil => exact .nil
      | cons c rest =>
        by_cases named : StartsParam (c :: rest)
        · -- A parameter starts here.
          obtain ⟨name, after, isName, same⟩ := named
          rw [same, ofBraces_param isName]
          exact .param isName (ih _ (by simp [same]; omega) rfl)
        · -- None does.
          have later := ih _ (Nat.lt_succ_self _) rfl
          rw [ofBraces_plain named]
          by_cases star : c = '*'
          · subst star
            exact .star later
          · rw [plainPiece, if_neg (by simpa using star)]
            exact .plain star named later

end Pattern

/-! ### The two tests -/

variable {key text : List Char}

/-- The test that ignores names holds exactly if the key splits. -/
theorem matchesBraces_iff :
    matchesBraces key text = true ↔ ∃ parts, (Pattern.ofBraces none text).Splits key parts :=
  Pattern.accepts_iff

/-- The test that compares values holds exactly if the greedy split has one value for each name. -/
theorem matchesEqualBraces_iff : matchesEqualBraces key text = true ↔
    ∃ value parts, (Pattern.ofBraces none text).IsGreedy key parts ∧
      (Pattern.ofBraces none text).FilledBy value key parts := by
  rcases Pattern.bind?_longest (Pattern.ofBraces none text) key with
    ⟨parts, greedy, bound⟩ | ⟨unbound, never⟩
  · -- As there is one greedy split at most, it is the one that has been bound.
    rw [matchesEqualBraces, bound, greedy.splits.agree_iff]
    constructor
    · rintro ⟨value, filled⟩
      exact ⟨value, parts, greedy, filled⟩
    · rintro ⟨value, others, other, filled⟩
      obtain rfl := greedy.unique other
      exact ⟨value, filled⟩
  · -- Without any split there is no greedy one.
    simp only [matchesEqualBraces, unbound, Bool.false_eq_true, false_iff]
    rintro ⟨_, parts, greedy, _⟩
    exact never parts greedy.splits

/-- A key that passes the test with values passes the one without. -/
theorem matchesBraces_of_matchesEqualBraces (fits : matchesEqualBraces key text = true) :
    matchesBraces key text = true := by
  obtain ⟨_, parts, greedy, _⟩ := matchesEqualBraces_iff.mp fits
  exact matchesBraces_iff.mpr ⟨parts, greedy.splits⟩

/-- Without repeated names the two tests are the same. -/
theorem matchesEqualBraces_eq_matchesBraces (different : (Pattern.ofBraces none text).names.Nodup) :
    matchesEqualBraces key text = matchesBraces key text := by
  rw [Bool.eq_iff_iff]
  refine ⟨matchesBraces_of_matchesEqualBraces, fun fits => ?_⟩
  obtain ⟨_, splits⟩ := matchesBraces_iff.mp fits
  obtain ⟨parts, greedy⟩ := splits.exists_isGreedy
  -- With one binding for each name no two of them can disagree.
  rw [← greedy.splits.names_bindings] at different
  obtain ⟨value, filled⟩ := greedy.splits.agree_iff.mp (Bindings.agree_of_nodup different)
  exact matchesEqualBraces_iff.mpr ⟨value, parts, greedy, filled⟩

/-- If a key is filled and all its splits are the same, then it passes the test with values. -/
theorem matchesEqualBraces_of_filledBy {value : List Char → List Char} {parts : List (List Char)}
    (filled : (Pattern.ofBraces none text).FilledBy value key parts)
    (only : ∀ others, (Pattern.ofBraces none text).Splits key others → others = parts) :
    matchesEqualBraces key text = true := by
  obtain ⟨others, greedy⟩ := (Pattern.filledBy_iff.mp filled).1.exists_isGreedy
  obtain rfl := only others greedy.splits
  exact matchesEqualBraces_iff.mpr ⟨value, others, greedy, filled⟩

/-- The two tests for parameters in braces answer for any key and any pattern. One that passes the
test with values passes that without, and the two are the same if no name is repeated. -/
theorem Registry.keyMatch4_keyMatch3 [Runtime] (now : Time.Moment) (key pattern : String) :
    ∃ pieces withValues holdsWithValues without holdsWithout,
      Pattern.ReadsBraces pattern.toList pieces ∧
      (Registry.builtin now).get? "keyMatch4" = some withValues ∧
      withValues.call [.text key, .text pattern] = .ok (.flag holdsWithValues) ∧
      (Registry.builtin now).get? "keyMatch3" = some without ∧
      without.call [.text key, .text pattern] = .ok (.flag holdsWithout) ∧
      (holdsWithValues = true → holdsWithout = true) ∧
      (pieces.names.Nodup → holdsWithValues = holdsWithout) :=
  ⟨_, _, _, _, _, Pattern.readsBraces_iff.mpr rfl, rfl, rfl, rfl, rfl,
    matchesBraces_of_matchesEqualBraces, matchesEqualBraces_eq_matchesBraces⟩

/-- The test with values answers for any key and any pattern, and it holds exactly if the greedy
split of the key has one value for each name. So if it holds, the key is the pattern with values for
its names and texts for its stars. If the key is that, the test holds as long as no name is
repeated, the pattern is a path, or the key splits in no other way. -/
theorem Registry.keyMatch4_filledBy [Runtime] (now : Time.Moment) (key pattern : String) :
    ∃ pieces function holds, Pattern.ReadsBraces pattern.toList pieces ∧
      (Registry.builtin now).get? "keyMatch4" = some function ∧
      function.call [.text key, .text pattern] = .ok (.flag holds) ∧
      (holds = true ↔ ∃ value parts,
        pieces.IsGreedy key.toList parts ∧ pieces.FilledBy value key.toList parts) ∧
      (holds = true → ∃ value parts, pieces.FilledBy value key.toList parts) ∧
      ∀ value parts, pieces.FilledBy value key.toList parts →
        (pieces.names.Nodup ∨ pieces.IsPath ∨
          ∀ others, pieces.Splits key.toList others → others = parts) → holds = true := by
  refine ⟨_, _, _, Pattern.readsBraces_iff.mpr rfl, rfl, rfl, matchesEqualBraces_iff,
    fun holds => ?_, ?_⟩
  · -- What holds is the greedy split.
    obtain ⟨value, parts, _, filled⟩ := matchesEqualBraces_iff.mp holds
    exact ⟨value, parts, filled⟩
  · intro value parts filled plain
    have splits := (Pattern.filledBy_iff.mp filled).1
    rcases plain with different | path | only
    · -- With different names there is nothing to agree on.
      rw [matchesEqualBraces_eq_matchesBraces different]
      exact matchesBraces_iff.mpr ⟨parts, splits⟩
    · -- Of a path there is one split.
      exact matchesEqualBraces_of_filledBy filled fun others other =>
        other.unique_of_isPath path splits
    · -- There is one split anyway.
      exact matchesEqualBraces_of_filledBy filled only

/-- With the value `x` for the name `a` and `y-z` for `b` the key is the pattern, but it does not
pass: the greedy split has `x-y` for `a` at its first place, and `x` at the second one. -/
theorem Registry.keyMatch4_filledBy_refused :
    ∃ pieces value parts function,
      Pattern.ReadsBraces "/\x7ba\x7d-\x7bb\x7d/\x7ba\x7d".toList pieces ∧
      pieces.FilledBy value "/x-y-z/x".toList parts ∧
      (Registry.builtin 0).get? "keyMatch4" = some function ∧
      function.call [.text "/x-y-z/x", .text "/\x7ba\x7d-\x7bb\x7d/\x7ba\x7d"] =
        .ok (.flag false) := by
  have filled : Pattern.FilledBy
      [.exact '/', .param ['a'], .exact '-', .param ['b'], .exact '/', .param ['a']]
      (fun name => if name = ['a'] then ['x'] else ['y', '-', 'z']) "/x-y-z/x".toList
      [['/'], ['x'], ['-'], ['y', '-', 'z'], ['/'], ['x']] :=
    ⟨by simp [Piece.FilledBy, Piece.Fits], rfl⟩
  exact ⟨_, _, _, _, Pattern.readsBraces_iff.mpr rfl, filled, rfl, by rfl⟩

end AccessControl
