import AccessControl.Callable.Builtin
import AccessControl.Proofs.Pattern.Split
import AccessControl.Proofs.Text.Split

/-! Patterns with colons and without stars stand for keys segment by segment. -/

namespace AccessControl

open Text

variable {c : Char} {segment name part rest key : List Char}

/-! ### Segments -/

/-- A parameter is written in the segment: a colon with at least one character behind it. -/
def HasParameter (segment : List Char) : Prop :=
  ∃ before name, name ≠ [] ∧ segment = before ++ ':' :: name

/-- The part of a key can stand in the place of the segment. If that has a parameter, the part
begins with what is in front of the first colon and has something left for the parameter, and
otherwise it is the segment. -/
structure FitsSegment (segment part : List Char) : Prop where
  parameter : HasParameter segment →
    segment.takeWhile (· != ':') <+: part ∧ segment.takeWhile (· != ':') ≠ part
  plain : ¬ HasParameter segment → part = segment

/-- A segment without characters has no parameter. -/
theorem not_hasParameter_nil : ¬ HasParameter [] := by
  rintro ⟨before, name, -, same⟩
  simp at same

/-- A parameter starts with the first character, which is a colon, or behind it. -/
theorem hasParameter_cons : HasParameter (c :: segment) ↔ c = ':' ∧ segment ≠ [] ∨
    HasParameter segment := by
  constructor
  · rintro ⟨before, name, some, same⟩
    -- The colon comes first.
    cases before with
    | nil =>
      obtain ⟨rfl, rfl⟩ := List.cons.inj same
      exact .inl ⟨rfl, some⟩
    -- The colon comes later.
    | cons d before => exact .inr ⟨before, name, some, (List.cons.inj same).2⟩
  · rintro (⟨rfl, some⟩ | ⟨before, name, some, rfl⟩)
    · -- A colon with a name behind it is a parameter.
      exact ⟨[], segment, some, rfl⟩
    · -- A parameter stays one behind another character.
      exact ⟨c :: before, name, some, rfl⟩

/-- Whether there is a parameter is found by going through the characters. -/
instance HasParameter.decidable : DecidablePred HasParameter
  | [] => isFalse not_hasParameter_nil
  | _ :: segment =>
    have := HasParameter.decidable segment
    decidable_of_iff' _ hasParameter_cons

/-- Whether a part fits a segment can be tested. -/
instance FitsSegment.decidable (segment part : List Char) : Decidable (FitsSegment segment part) :=
  decidable_of_iff ((HasParameter segment →
      segment.takeWhile (· != ':') <+: part ∧ segment.takeWhile (· != ':') ≠ part) ∧
    (¬ HasParameter segment → part = segment))
    ⟨fun fits => ⟨fits.1, fits.2⟩, fun fits => ⟨fits.parameter, fits.plain⟩⟩

/-- Without a parameter only the segment itself fits. -/
theorem fitsSegment_plain (plain : ¬ HasParameter segment) :
    FitsSegment segment part ↔ part = segment :=
  ⟨fun fits => fits.plain plain, fun same => ⟨fun has => absurd has plain, fun _ => same⟩⟩

/-- With a parameter the part goes on behind what is in front of the first colon. -/
theorem fitsSegment_parameter (has : HasParameter segment) : FitsSegment segment part ↔
    segment.takeWhile (· != ':') <+: part ∧ segment.takeWhile (· != ':') ≠ part :=
  ⟨fun fits => fits.parameter has, fun longer => ⟨fun _ => longer, fun plain => absurd has plain⟩⟩

-- Nothing is left for the parameter.
example : ¬ FitsSegment "item-:id".toList "item-".toList := by decide

/-- A colon in front of a name takes any part but none. -/
theorem fitsSegment_colon (some : name ≠ []) : FitsSegment (':' :: name) part ↔ part ≠ [] := by
  rw [fitsSegment_parameter (hasParameter_cons.mpr (.inl ⟨rfl, some⟩))]
  simp [@eq_comm _ [] part]

/-- A character in front that is no colon is taken as it is. -/
theorem fitsSegment_cons (other : c ≠ ':') : FitsSegment (c :: segment) part ↔
    ∃ behind, part = c :: behind ∧ FitsSegment segment behind := by
  -- The first colon is further on, and so is the parameter if there is one.
  have same : HasParameter (c :: segment) ↔ HasParameter segment := by
    simp [hasParameter_cons, other]
  by_cases has : HasParameter segment
  · have front : (c :: segment).takeWhile (· != ':') = c :: segment.takeWhile (· != ':') := by
      simp [other]
    rw [fitsSegment_parameter (same.mpr has), front]
    constructor
    · -- The part starts with the character.
      rintro ⟨⟨left, rfl⟩, longer⟩
      refine ⟨_, rfl, (fitsSegment_parameter has).mpr ⟨⟨left, rfl⟩, fun same => longer ?_⟩⟩
      exact congrArg (c :: ·) same
    · -- Both go on with the same character.
      rintro ⟨behind, rfl, fits⟩
      obtain ⟨begins, longer⟩ := fits.parameter has
      exact ⟨List.cons_prefix_cons.mpr ⟨rfl, begins⟩, fun same => longer (List.cons.inj same).2⟩
  · -- Without a parameter both are the same.
    rw [fitsSegment_plain (same.not.mpr has)]
    simp [fitsSegment_plain has]

/-! ### Segments of a pattern -/

/-- The text is at the end of a segment. -/
def EndsSegment (rest : List Char) : Prop :=
  rest = [] ∨ ∃ more, rest = '/' :: more

namespace Pattern

/-- A name goes on up to the end of its segment. -/
theorem ofColons_name (slashless : '/' ∉ name) (ends : EndsSegment rest) (read : List Char) :
    ofColons (some read) (name ++ rest) = .param (read.reverse ++ name) :: ofColons none rest := by
  induction name generalizing read with
  -- The name ends with the segment.
  | nil => rcases ends with rfl | ⟨more, rfl⟩ <;> simp [ofColons, plainPiece]
  -- Each character is read as one of the name.
  | cons c name ih =>
    rw [List.mem_cons, not_or] at slashless
    simp [ofColons, Ne.symm slashless.1, ih slashless.2]

/-- A colon in front of a name starts a parameter. -/
theorem ofColons_parameter (some : name ≠ []) (slashless : '/' ∉ name) (ends : EndsSegment rest) :
    ofColons none (':' :: (name ++ rest)) = .param name :: ofColons none rest := by
  obtain ⟨c, others, rfl⟩ := List.exists_cons_of_ne_nil some
  have first : c ≠ '/' := (List.ne_of_not_mem_cons slashless).symm
  have starts : ofColons none (':' :: (c :: others ++ rest)) =
      ofColons (.some []) (c :: others ++ rest) := by
    simp [ofColons, first]
  rw [starts, ofColons_name slashless ends, List.reverse_nil, List.nil_append]

/-- A colon at the end of a segment stands for itself. -/
theorem ofColons_colon (ends : EndsSegment rest) :
    ofColons none (':' :: rest) = .exact ':' :: ofColons none rest := by
  rcases ends with rfl | ⟨more, rfl⟩ <;> simp [ofColons, plainPiece]

/-- A character that is neither a colon nor a star stands for itself. -/
theorem ofColons_plain (other : c ≠ ':') (starless : c ≠ '*') :
    ofColons none (c :: rest) = .exact c :: ofColons none rest := by
  simp [ofColons, plainPiece, other, starless]

/-- A key fits a segment and what is behind it exactly if its beginning, without slashes, fits the
segment, and its rest what is behind. -/
theorem accepts_segment (slashless : '/' ∉ segment) (starless : '*' ∉ segment)
    (ends : EndsSegment rest) :
    accepts (ofColons none (segment ++ rest)) key = true ↔ ∃ part left, key = part ++ left ∧
      '/' ∉ part ∧ FitsSegment segment part ∧ accepts (ofColons none rest) left = true := by
  induction segment generalizing key with
  | nil => simp [fitsSegment_plain not_hasParameter_nil]
  | cons c segment ih =>
    rw [List.mem_cons, not_or] at slashless starless
    by_cases colon : c = ':'
    · subst colon
      by_cases last : segment = []
      · -- There is no name, so the colon stands for itself.
        subst last
        have plain : ¬ HasParameter [':'] := by simp [hasParameter_cons, not_hasParameter_nil]
        simp [ofColons_colon ends, accepts_cons, Piece.Fits, fitsSegment_plain plain]
      · -- The parameter takes all that the key has in this segment.
        rw [List.cons_append, ofColons_parameter last slashless.2 ends, accepts_cons]
        simp only [Piece.Fits, fitsSegment_colon last, and_assoc, and_left_comm]
    · -- Any other character stands for itself.
      rw [List.cons_append, ofColons_plain colon (Ne.symm starless.1), accepts_cons]
      simp only [fitsSegment_cons colon, ih slashless.2 starless.2, Piece.Fits]
      constructor
      · -- The part has the character and what fits the others.
        rintro ⟨_, _, rfl, rfl, part, left, rfl, free, fits, later⟩
        exact ⟨c :: part, left, rfl, by simp [slashless.1, free], ⟨part, rfl, fits⟩, later⟩
      · -- The character is the first one of the part.
        rintro ⟨_, left, rfl, free, ⟨part, rfl, fits⟩, later⟩
        rw [List.mem_cons, not_or] at free
        exact ⟨[c], part ++ left, rfl, rfl, part, left, rfl, free.2, fits, later⟩

end Pattern

/-- A key fits a pattern without stars exactly if they have as many segments, and each of the key
fits that of the pattern in its place. -/
theorem matchesColons_iff {pattern : List Char} (starless : '*' ∉ pattern) :
    matchesColons key pattern = true ↔
    List.Forall₂ FitsSegment (splitOn '/' pattern) (splitOn '/' key) := by
  rw [matchesColons]
  generalize split : splitOn '/' pattern = segments
  induction segments generalizing pattern key with
  | nil => exact absurd split (splitOn_ne_nil '/' pattern)
  | cons segment segments ih =>
    rw [List.forall₂_cons_left_iff]
    by_cases last : segments = []
    · -- The last segment takes the whole key, which so is its own only segment.
      subst last
      obtain ⟨rfl, slashless⟩ := splitOn_eq_singleton_iff.mp split
      have whole := @Pattern.accepts_segment pattern [] key slashless starless (.inl rfl)
      rw [List.append_nil] at whole
      simp only [whole, Pattern.ofColons, Pattern.accepts, List.isEmpty_iff,
        List.forall₂_nil_left_iff]
      constructor
      · rintro ⟨part, _, rfl, free, fits, rfl⟩
        exact ⟨part, [], fits, rfl, splitOn_eq_singleton_iff.mpr ⟨List.append_nil part, free⟩⟩
      · rintro ⟨part, _, fits, rfl, single⟩
        obtain ⟨rfl, free⟩ := splitOn_eq_singleton_iff.mp single
        exact ⟨key, [], (List.append_nil key).symm, free, fits, rfl⟩
    · -- Behind another one both go on with a slash.
      obtain ⟨rest, rfl, slashless, later⟩ := (splitOn_eq_cons_iff last).mp split
      simp only [List.mem_append, List.mem_cons, not_or] at starless
      obtain ⟨starlessFirst, -, starless⟩ := starless
      rw [Pattern.accepts_segment slashless starlessFirst (.inr ⟨rest, rfl⟩),
        Pattern.ofColons_plain (by decide) (by decide)]
      simp only [Pattern.accepts_cons, Piece.Fits, ih starless later]
      constructor
      · rintro ⟨part, _, rfl, free, fits, _, left, rfl, rfl, behind⟩
        have more : splitOn '/' left ≠ [] := splitOn_ne_nil '/' left
        exact ⟨part, _, fits, behind, (splitOn_eq_cons_iff more).mpr ⟨left, rfl, free, rfl⟩⟩
      · rintro ⟨part, parts, fits, behind, parted⟩
        have more : parts ≠ [] := by
          rintro rfl
          exact last (List.forall₂_nil_right_iff.mp behind)
        obtain ⟨left, rfl, free, rfl⟩ := (splitOn_eq_cons_iff more).mp parted
        exact ⟨part, _, rfl, free, fits, ['/'], left, rfl, rfl, behind⟩

/-- The test for colon parameters answers for any key and any pattern without stars, and it holds
exactly if key and pattern have as many segments and these fit one by one. -/
theorem Registry.keyMatch2_fitsSegments [Runtime] (now : Time.Moment) (key pattern : String)
    (starless : '*' ∉ pattern.toList) :
    ∃ function holds, (Registry.builtin now).get? "keyMatch2" = some function ∧
      function.call [.text key, .text pattern] = .ok (.flag holds) ∧
      (holds = true ↔
        List.Forall₂ FitsSegment (splitOn '/' pattern.toList) (splitOn '/' key.toList)) :=
  ⟨_, _, rfl, rfl, matchesColons_iff starless⟩

/-- In a pattern with a parameter behind the start of a segment and a colon at the end of another
one, both segments fit, and the test holds. -/
theorem Registry.keyMatch2_fitsSegments_item :
    '*' ∉ "/item-:id/at:".toList ∧
      ∃ function, (Registry.builtin 0).get? "keyMatch2" = some function ∧
        function.call [.text "/item-7/at:", .text "/item-:id/at:"] = .ok (.flag true) := by
  have starless : '*' ∉ "/item-:id/at:".toList := by decide
  refine ⟨starless, ?_⟩
  obtain ⟨function, holds, found, called, fits⟩ :=
    Registry.keyMatch2_fitsSegments 0 "/item-7/at:" "/item-:id/at:" starless
  have all : List.Forall₂ FitsSegment (splitOn '/' "/item-:id/at:".toList)
      (splitOn '/' "/item-7/at:".toList) := by decide
  rw [fits.mpr all] at called
  exact ⟨function, found, called⟩

end AccessControl
