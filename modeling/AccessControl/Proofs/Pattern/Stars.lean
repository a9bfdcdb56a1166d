import AccessControl.Proofs.Pattern.Split
import AccessControl.Proofs.Pattern.Wildcard
import Mathlib.Data.List.TakeWhile

/-! Stars within a line are compared with stars that stand for any characters at all, and the part
of a key that is given for a star with what the star stands for. -/

namespace AccessControl

variable {pattern fixed key value : List Char} {parts : List (List Char)} {c mark : Char}

/-! ### Stars within a line -/

/-- What a character stands for has as many newlines as the character itself, so none for a star. -/
theorem fits_plainPiece {part : List Char} : (Pattern.plainPiece c).Fits part ↔
    (c = '*' ∨ part = [c]) ∧ part.count '\n' = [c].count '\n' := by
  by_cases star : c = '*'
  · -- A star takes anything but newlines.
    subst star
    have within : (Pattern.plainPiece '*').Fits part ↔ '\n' ∉ part := by
      simp only [Pattern.plainPiece, beq_self_eq_true, if_true, Piece.Fits,
        CharSet.holds, bne_iff_ne]
      exact ⟨fun all member => all '\n' member rfl, fun free c member same => free (same ▸ member)⟩
    simp [within, List.count_eq_zero]
  · -- Any other character takes itself.
    have plain : (Pattern.plainPiece c).Fits part ↔ part = [c] := by
      simp [Pattern.plainPiece, star, Piece.Fits]
    rw [plain, or_iff_right star]
    exact ⟨fun same => ⟨same, by rw [same]⟩, And.left⟩

/-- A key that fills the stars of a pattern has every mark of the pattern that is no star. -/
theorem count_le_of_filled (other : mark ≠ '*')
    (filled : List.Forall₂ (fun c part => c = '*' ∨ part = [c]) pattern parts) :
    pattern.count mark ≤ parts.flatten.count mark := by
  induction filled with
  | nil => exact Nat.le_refl _
  | @cons c part pattern parts first _ ih =>
    -- A star is no such mark, and any other character is there as it is.
    have fewer : [c].count mark ≤ part.count mark := by
      rcases first with rfl | rfl
      · -- A star takes the place of no mark.
        simp [Ne.symm other]
      · -- Any other character is counted alike.
        exact Nat.le_refl _
    rw [List.flatten_cons, List.count_append, ← List.singleton_append, List.count_append]
    exact Nat.add_le_add fewer ih

/-- There are as many of a mark in the key as in the pattern exactly if none of them stands in the
place of a star. -/
theorem filled_evenly_iff (other : mark ≠ '*') :
    List.Forall₂ (fun c part => (c = '*' ∨ part = [c]) ∧ part.count mark = [c].count mark)
      pattern parts ↔
      List.Forall₂ (fun c part => c = '*' ∨ part = [c]) pattern parts ∧
        parts.flatten.count mark = pattern.count mark := by
  induction pattern generalizing parts with
  | nil => cases parts <;> simp
  | cons c pattern ih =>
    cases parts with
    | nil => simp
    | cons part parts =>
      have counts : (c :: pattern).count mark = [c].count mark + pattern.count mark := by
        rw [← List.count_append, List.singleton_append]
      rw [List.forall₂_cons, List.forall₂_cons, ih, List.flatten_cons, List.count_append, counts]
      constructor
      · -- Each part is counted as its character is, and so are all of them.
        rintro ⟨⟨first, same⟩, later, evenly⟩
        exact ⟨⟨first, later⟩, by rw [same, evenly]⟩
      · rintro ⟨⟨first, later⟩, evenly⟩
        -- Neither the first part nor the others have fewer marks, so neither have more.
        have fewerFirst : [c].count mark ≤ part.count mark := by
          simpa using count_le_of_filled other (.cons first .nil)
        have fewerLater := count_le_of_filled other later
        exact ⟨⟨first, by omega⟩, later, by omega⟩

/-- A key that fills the stars of a pattern has at least as many of every mark that is no star. -/
theorem FillsStars.count_le (other : mark ≠ '*') (fills : FillsStars pattern key) :
    pattern.count mark ≤ key.count mark := by
  obtain ⟨parts, filled, rfl⟩ := fills
  exact count_le_of_filled other filled

/-- A key fits a pattern with stars within a line exactly if it fills the stars and has no more
newlines than the pattern. -/
theorem matchesStars_iff : matchesStars key pattern = true ↔
    FillsStars pattern key ∧ key.count '\n' = pattern.count '\n' := by
  rw [matchesStars, Pattern.accepts_iff]
  constructor
  · -- The parts for the stars have no newline, so all newlines are those of the pattern.
    rintro ⟨parts, fits, rfl⟩
    simp only [Pattern.ofStars, List.forall₂_map_left_iff, fits_plainPiece] at fits
    obtain ⟨filled, evenly⟩ := (filled_evenly_iff (by decide)).mp fits
    exact ⟨⟨parts, filled, rfl⟩, evenly⟩
  · -- With no more newlines than the pattern, none is in a part for a star.
    rintro ⟨⟨parts, filled, rfl⟩, evenly⟩
    refine ⟨parts, ?_, rfl⟩
    simp only [Pattern.ofStars, List.forall₂_map_left_iff, fits_plainPiece]
    exact (filled_evenly_iff (by decide)).mpr ⟨filled, evenly⟩

/-- The two tests for stars answer for any key and any pattern. The one within lines holds exactly
if the other one does and the key has as many newlines as the pattern, so they are the same unless
the key has more of them. -/
theorem Registry.keyMatch_iff_keyMatch5 [Runtime] (now : Time.Moment) (key pattern : String) :
    ∃ withinLines holdsWithin anywhere holdsAnywhere,
      (Registry.builtin now).get? "keyMatch" = some withinLines ∧
      withinLines.call [.text key, .text pattern] = .ok (.flag holdsWithin) ∧
      (Registry.builtin now).get? "keyMatch5" = some anywhere ∧
      anywhere.call [.text key, .text pattern] = .ok (.flag holdsAnywhere) ∧
      (holdsWithin = true ↔
        holdsAnywhere = true ∧ key.toList.count '\n' = pattern.toList.count '\n') ∧
      (key.toList.count '\n' ≤ pattern.toList.count '\n' → holdsWithin = holdsAnywhere) := by
  have within : matchesStars key.toList pattern.toList = true ↔
      matchesWildcards key.toList pattern.toList = true ∧
        key.toList.count '\n' = pattern.toList.count '\n' := by
    rw [matchesStars_iff, matchesWildcards_iff]
  refine ⟨_, _, _, _, rfl, rfl, rfl, rfl, within, fun few => ?_⟩
  rw [Bool.eq_iff_iff, within]
  refine ⟨And.left, fun holds => ⟨holds, ?_⟩⟩
  exact Nat.le_antisymm few ((matchesWildcards_iff.mp holds).count_le (by decide))

/-- A star does not stand for a newline in the one test, as it does in the other. -/
theorem Registry.keyMatch_refuses_newline : ∃ withinLines anywhere,
    (Registry.builtin 0).get? "keyMatch" = some withinLines ∧
    withinLines.call [.text "/a\nb", .text "/*"] = .ok (.flag false) ∧
    (Registry.builtin 0).get? "keyMatch5" = some anywhere ∧
    anywhere.call [.text "/a\nb", .text "/*"] = .ok (.flag true) := by
  have holds : matchesWildcards "/a\nb".toList "/*".toList = true :=
    matchesWildcards_iff.mpr ⟨[['/'], ['a', '\n', 'b']], by simp, rfl⟩
  refine ⟨_, _, rfl, rfl, rfl, ?_⟩
  exact congrArg (fun answer => Except.ok (Value.flag answer)) holds

/-! ### The part for a star -/

/-- The pattern with a text in the place of each star. -/
def fillEachStar (value pattern : List Char) : List Char :=
  pattern.flatMap fun c => if c = '*' then value else [c]

/-- Without stars nothing is filled. -/
theorem fillEachStar_plain (plain : '*' ∉ fixed) : fillEachStar value fixed = fixed := by
  induction fixed with
  | nil => rfl
  | cons c fixed ih =>
    obtain ⟨other, plain⟩ := not_or.mp (mt List.mem_cons.mpr plain)
    rw [fillEachStar, List.flatMap_cons, if_neg (Ne.symm other), List.singleton_append]
    exact congrArg (c :: ·) (ih plain)

/-- A pattern with one star is filled with a text between what is in front of the star and what is
behind it. -/
theorem fillEachStar_single {before after : List Char} (plainBefore : '*' ∉ before)
    (plainAfter : '*' ∉ after) :
    fillEachStar value (before ++ '*' :: after) = before ++ (value ++ after) := by
  have parted : fillEachStar value (before ++ '*' :: after) =
      fillEachStar value before ++ (value ++ fillEachStar value after) := by simp [fillEachStar]
  rw [parted, fillEachStar_plain plainBefore, fillEachStar_plain plainAfter]

/-- In front of its first star a pattern has what it has up to a star. -/
theorem takeWhile_star {before after : List Char} (plain : '*' ∉ before) :
    (before ++ '*' :: after).takeWhile (· != '*') = before := by
  have all : ∀ c ∈ before, (c != '*') = true := fun c member =>
    bne_iff_ne.mpr fun same => plain (same ▸ member)
  rw [List.takeWhile_append_of_pos all, List.takeWhile_cons_of_neg (by simp), List.append_nil]

/-- The part for a star is some text exactly if this is what the key has behind the text in front of
the first star. -/
theorem starValue_eq_iff (some : value ≠ []) : starValue key pattern = value ↔
    ∃ before after, pattern = before ++ '*' :: after ∧ '*' ∉ before ∧ key = before ++ value := by
  by_cases star : '*' ∈ pattern
  · -- What is in front of the first star is compared with the key, and nothing else.
    obtain ⟨before, after, rfl, plain⟩ := List.eq_append_cons_of_mem star
    have given : starValue key (before ++ '*' :: after) =
        if before.isPrefixOf key then key.drop before.length else [] := by
      simp [starValue, takeWhile_star plain]
    rw [given]
    constructor
    · intro same
      split at same
      · -- The key starts with it.
        next front =>
        obtain ⟨rest, rfl⟩ := List.isPrefixOf_iff_prefix.mp front
        exact ⟨before, after, rfl, plain, by rw [← same, List.drop_left]⟩
      · -- The key starts with something else.
        exact absurd same.symm some
    · rintro ⟨front, behind, split, plainFront, rfl⟩
      -- Both texts are what the pattern has up to its first star.
      obtain rfl : before = front := by
        rw [← takeWhile_star plain, split, takeWhile_star plainFront]
      simp
  · -- Without a star the whole pattern is in front.
    have starless : starValue key pattern = [] := by
      have whole : pattern.takeWhile (· != '*') = pattern :=
        List.takeWhile_eq_self_iff.mpr fun c member => bne_iff_ne.mpr fun same =>
          star (same ▸ member)
      simp [starValue, whole]
    rw [starless]
    constructor
    · exact fun same => absurd same.symm some
    · rintro ⟨before, after, rfl, -, -⟩
      exact absurd (by simp) star

/-- In the place of the only star of a pattern, its part makes the key with what is behind the star
once more. -/
theorem fillEachStar_starValue {before after : List Char} (plain : '*' ∉ before)
    (plainAfter : '*' ∉ after) (some : starValue key (before ++ '*' :: after) ≠ []) :
    fillEachStar (starValue key (before ++ '*' :: after)) (before ++ '*' :: after) =
      key ++ after := by
  obtain ⟨front, behind, split, plainFront, joined⟩ := (starValue_eq_iff some).mp rfl
  obtain rfl : before = front := by rw [← takeWhile_star plain, split, takeWhile_star plainFront]
  calc fillEachStar (starValue key (before ++ '*' :: after)) (before ++ '*' :: after)
      = before ++ (starValue key (before ++ '*' :: after) ++ after) :=
      fillEachStar_single plain plainAfter
    _ = key ++ after := by rw [← List.append_assoc, ← joined]

/-- The part for a star is there for any key and any pattern. It is some text exactly if this is
what the key has behind the text in front of the first star, so that what is behind the star is not
looked at: in a pattern with one star it makes the key and, once more, what is behind the star. -/
theorem Registry.keyGet_fillsStar [Runtime] (now : Time.Moment) (key pattern : String) :
    ∃ function part, (Registry.builtin now).get? "keyGet" = some function ∧
      function.call [.text key, .text pattern] = .ok (.text part) ∧
      (∀ value, value ≠ "" → (part = value ↔ ∃ before after,
        pattern.toList = before ++ '*' :: after ∧ '*' ∉ before ∧
        key.toList = before ++ value.toList)) ∧
      (part ≠ "" → ∀ before after, pattern.toList = before ++ '*' :: after → '*' ∉ before →
        '*' ∉ after →
        fillEachStar part.toList pattern.toList = key.toList ++ after ∧
        (fillEachStar part.toList pattern.toList = key.toList ↔ after = [])) := by
  refine ⟨_, _, rfl, rfl, fun value some => ?_, fun some before after split plain plainAfter => ?_⟩
  · -- The value is that behind the first star.
    rw [← starValue_eq_iff (by simpa using some), ← String.toList_inj, String.toList_ofList]
  · -- With a single star nothing but what follows it is added.
    rw [← String.toList_inj.ne, String.toList_ofList, split] at some
    rw [String.toList_ofList, split, fillEachStar_starValue plain plainAfter some]
    exact ⟨rfl, List.append_right_eq_self⟩

/-- The part for the star in the middle of a pattern goes on to the end of the key, so it does not
make the key. -/
theorem Registry.keyGet_passes_end : ∃ function,
    (Registry.builtin 0).get? "keyGet" = some function ∧
    function.call [.text "/foo/bar/baz", .text "/foo/*/baz"] = .ok (.text "bar/baz") ∧
    "/foo/*/baz".toList.count '*' = 1 ∧
    fillEachStar "bar/baz".toList "/foo/*/baz".toList ≠ "/foo/bar/baz".toList :=
  ⟨_, rfl, by rfl, by decide, by decide⟩

end AccessControl
