import AccessControl.Proofs.Decimal.Reading
import Mathlib.Data.List.DropRight

/-! Blanks are parts of no words, and those at the ends of a text are removed from it and no
others. -/

namespace AccessControl.Text

/-! ### Blanks between words -/

/-- The ranges of letters and numbers lie between the blanks. -/
theorem lettersAndNumbers_between_blanks : ∀ range ∈ lettersAndNumbers.toList, range.2 < 0x80 ∨
    0xa0 < range.1 ∧ range.2 < 0x1680 ∨ 0x1680 < range.1 ∧ range.2 < 0x2000 ∨
      0x205f < range.1 ∧ range.2 < 0x3000 ∨ 0x3000 < range.1 := by
  decide +kernel

/-- The ASCII letters have two rows of code points. -/
theorem isAsciiLetter_iff {c : Char} : isAsciiLetter c = true ↔
    (0x61 ≤ c.toNat ∧ c.toNat ≤ 0x7a) ∨ 0x41 ≤ c.toNat ∧ c.toNat ≤ 0x5a := by
  simp only [isAsciiLetter, Bool.or_eq_true, Bool.and_eq_true, decide_eq_true_eq, Char.le_def,
    UInt32.le_iff_toNat_le]
  exact Iff.rfl

/-- A blank is no character of a word. -/
theorem isWord_of_isBlank {c : Char} (blank : isBlank c = true) : isWord c = false := by
  have other : c ≠ '_' := by
    rintro rfl
    exact absurd blank (by decide)
  -- All other characters of words are told from blanks by their code points.
  simp only [isBlank, Bool.or_eq_true, Bool.and_eq_true, decide_eq_true_eq, beq_iff_eq] at blank
  rw [← Bool.not_eq_true]
  intro word
  unfold isWord at word
  split at word
  · -- The letters and digits of the ASCII range come behind its blanks.
    simp only [Bool.or_eq_true, isAsciiLetter_iff, Decimal.isAsciiDigit_iff, beq_iff_eq, other,
      or_false] at word
    omega
  · simp only [Ranges.contains, Array.any_eq_true'] at word
    obtain ⟨range, listed, inside⟩ := word
    have between := lettersAndNumbers_between_blanks range (by simpa using listed)
    simp only [Bool.and_eq_true, decide_eq_true_eq] at inside
    omega

/-! ### Blanks at the ends -/

/-- Where there is nothing to drop at the front, there is nothing after a removal at the end
either. -/
theorem dropWhile_eq_self_of_prefix {test : Char → Bool} {cs front : List Char}
    (within : front <+: cs) (kept : cs.dropWhile test = cs) : front.dropWhile test = front := by
  obtain ⟨more, rfl⟩ := within
  rw [List.dropWhile_eq_self_iff] at kept ⊢
  intro nonempty
  have first := kept (by simp only [List.length_append]; omega)
  rwa [List.getElem_append_left nonempty] at first

/-- Removal is first from the front, and then from the back. -/
theorem trimBoth_eq (test : Char → Bool) (cs : List Char) :
    trimBoth test cs = (cs.dropWhile test).rdropWhile test := rfl

/-- What stays is a part of the text. -/
theorem trimBoth_sublist (test : Char → Bool) (cs : List Char) : (trimBoth test cs).Sublist cs :=
  (List.rdropWhile_prefix test _).sublist.trans (List.dropWhile_sublist test)

/-- What is dropped in front makes no difference. -/
theorem trimBoth_cons {test : Char → Bool} {c : Char} (dropped : test c = true) (cs : List Char) :
    trimBoth test (c :: cs) = trimBoth test cs := by
  rw [trimBoth, trimBoth, List.dropWhile_cons_of_pos dropped]

/-- What may stay is kept, wherever it stands. -/
theorem mem_trimBoth {test : Char → Bool} {cs : List Char} {c : Char} (stays : test c = false) :
    c ∈ trimBoth test cs ↔ c ∈ cs := by
  -- It is in no run of characters that are dropped, neither in front nor behind.
  have kept : ∀ ds : List Char, c ∈ ds.dropWhile test ↔ c ∈ ds := by
    intro ds
    refine ⟨fun member => (List.dropWhile_sublist test).subset member, fun member => ?_⟩
    rw [← List.takeWhile_append_dropWhile (p := test) (l := ds), List.mem_append] at member
    refine member.resolve_left fun dropped => ?_
    have passes := List.mem_takeWhile_imp dropped
    rw [stays] at passes
    cases passes
  rw [trimBoth, List.mem_reverse, kept, List.mem_reverse, kept]

/-- What is no blank is not removed. -/
theorem mem_trimChars {cs : List Char} {c : Char} (visible : isBlank c = false) :
    c ∈ trimChars cs ↔ c ∈ cs :=
  mem_trimBoth visible

/-- Removal at both ends leaves nothing to remove. -/
theorem trimBoth_trimBoth (test : Char → Bool) (cs : List Char) :
    trimBoth test (trimBoth test cs) = trimBoth test cs := by
  -- A removal from the back leaves the front as it is, where nothing is left to remove.
  have front : ((cs.dropWhile test).rdropWhile test).dropWhile test =
      (cs.dropWhile test).rdropWhile test :=
    dropWhile_eq_self_of_prefix (List.rdropWhile_prefix test _) (List.dropWhile_idempotent _ _)
  rw [trimBoth_eq, trimBoth_eq, front, List.rdropWhile_idempotent]

/-- A text without blanks at its ends keeps all its characters. -/
theorem trim_trim (s : String) : trim (trim s) = trim s := by
  simp only [trim, trimChars, String.toList_ofList, trimBoth_trimBoth]

/-- Nothing is removed from the front beyond a part of which something stays. -/
theorem dropWhile_append_of_ne_nil {test : Char → Bool} {cs : List Char} (more : List Char)
    (stays : cs.dropWhile test ≠ []) :
    (cs ++ more).dropWhile test = cs.dropWhile test ++ more := by
  rw [List.dropWhile_append, if_neg (by simpa using stays)]

/-- Nothing is removed from the back beyond a part of which something stays. -/
theorem rdropWhile_append_of_ne_nil {test : Char → Bool} {cs : List Char} (more : List Char)
    (stays : cs.rdropWhile test ≠ []) :
    (more ++ cs).rdropWhile test = more ++ cs.rdropWhile test := by
  -- Read backwards, this is the law for the front.
  rw [List.rdropWhile, ne_eq, List.reverse_eq_nil_iff] at stays
  simp only [List.rdropWhile, List.reverse_append, dropWhile_append_of_ne_nil _ stays,
    List.reverse_reverse]

/-- Of two parts of a text of which something stays, the first one is trimmed at the front and the
last one at the back; all that is removed from them otherwise is kept in between. -/
theorem trimBoth_join {test : Char → Bool} {front back : List Char} (middle : List Char)
    (first : trimBoth test front ≠ []) (last : trimBoth test back ≠ []) :
    ∃ behind before, (∀ c ∈ behind, test c = true) ∧ (∀ c ∈ before, test c = true) ∧
      trimBoth test (front ++ (middle ++ back)) =
        trimBoth test front ++ (behind ++ (middle ++ (before ++ trimBoth test back))) := by
  rw [trimBoth_eq] at first last
  have starts : front.dropWhile test ≠ [] := fun none => first (by rw [none, List.rdropWhile_nil])
  refine ⟨(front.dropWhile test).rtakeWhile test, back.takeWhile test,
    fun c member => List.mem_rtakeWhile_imp member, fun c member =>
    List.mem_takeWhile_imp member, ?_⟩
  -- At the back, what stays of the last part stands behind all that comes before it.
  calc trimBoth test (front ++ (middle ++ back))
      = (front.dropWhile test ++ (middle ++ back)).rdropWhile test := by
        rw [trimBoth_eq, dropWhile_append_of_ne_nil _ starts]
    _ = (front.dropWhile test ++ (middle ++ back.takeWhile test) ++ back.dropWhile test).rdropWhile
          test := by simp only [List.append_assoc, List.takeWhile_append_dropWhile]
    _ = front.dropWhile test ++ (middle ++ back.takeWhile test) ++ trimBoth test back := by
        rw [rdropWhile_append_of_ne_nil _ last, trimBoth_eq]
    _ = trimBoth test front ++ (front.dropWhile test).rtakeWhile test ++
          (middle ++ back.takeWhile test) ++ trimBoth test back := by
        rw [trimBoth_eq test front, List.rdropWhile_append_rtakeWhile]
    _ = _ := by simp only [List.append_assoc]

/-- There is something in the text, and there are no blanks at its ends. -/
structure IsTrimmed (cs : List Char) : Prop where
  some : cs ≠ []
  kept : trimChars cs = cs

/-- A text without blanks has none at its ends. -/
theorem isTrimmed_of_visible {cs : List Char} (some : cs ≠ [])
    (visible : ∀ c ∈ cs, isBlank c = false) : IsTrimmed cs where
  some
  kept := Decimal.trimBoth_eq_self visible

/-- A single character that is no blank is such a text. -/
theorem isTrimmed_singleton {c : Char} (visible : isBlank c = false) : IsTrimmed [c] :=
  isTrimmed_of_visible (List.cons_ne_nil c []) (List.forall_mem_singleton.mpr visible)

/-- Whatever stands between two texts without blanks at their ends, it is kept with them. -/
theorem IsTrimmed.join {front back : List Char} (first : IsTrimmed front) (last : IsTrimmed back)
    (middle : List Char) : IsTrimmed (front ++ (middle ++ back)) where
  some := List.append_ne_nil_of_left_ne_nil first.some _
  kept := by
    have front_kept : trimBoth isBlank front = front := first.kept
    have back_kept : trimBoth isBlank back = back := last.kept
    have starts : trimBoth isBlank front ≠ [] := by rw [front_kept]; exact first.some
    have ends : trimBoth isBlank back ≠ [] := by rw [back_kept]; exact last.some
    obtain ⟨behind, before, _, _, joined⟩ := trimBoth_join middle starts ends
    rw [front_kept, back_kept] at joined
    -- What would be kept beside the parts would make the whole longer than it was.
    have shorter : (trimChars (front ++ (middle ++ back))).length ≤
        (front ++ (middle ++ back)).length :=
      (trimBoth_sublist isBlank _).length_le
    rw [trimChars, joined] at shorter
    simp only [List.length_append] at shorter
    obtain rfl : behind = [] := List.length_eq_zero_iff.mp (by omega)
    obtain rfl : before = [] := List.length_eq_zero_iff.mp (by omega)
    exact joined

end AccessControl.Text
