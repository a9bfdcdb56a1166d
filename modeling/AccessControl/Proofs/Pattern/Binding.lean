import AccessControl.Proofs.Pattern.Split
import Mathlib.Data.List.Flatten
import Mathlib.Data.List.Lex
import Mathlib.Data.List.Nodup

/-! Parameters are bound by the first split of a key that takes as much as it can from the left, and
each name has one value if the bindings agree. -/

namespace AccessControl

variable {test : Char → Bool} {α : Type} {cs : List Char}

/-! ### The longest run -/

/-- A longest run is found where there is any run. -/
theorem isSome_longestRun (following : List Char → Option α) :
    (longestRun test following cs).isSome =
      afterRun test (fun rest => (following rest).isSome) cs := by
  induction cs with
  | nil => simp [longestRun, afterRun]
  | cons c cs ih =>
    rw [afterRun, ← ih, longestRun]
    by_cases passes : test c = true
    · -- The character may be one of the run.
      cases longestRun test following cs <;> simp [passes]
    · -- The character ends the run.
      simp [passes]

/-- No run is found exactly if nothing follows any beginning that passes the test. -/
theorem longestRun_eq_none_iff {following : List Char → Option α} :
    longestRun test following cs = none ↔
      ∀ taken rest, cs = taken ++ rest → (∀ c ∈ taken, test c = true) → following rest = none := by
  rw [← Option.not_isSome_iff_eq_none, isSome_longestRun, afterRun_iff]
  constructor
  · -- A run with something behind it would have been found.
    intro never taken rest split all
    by_contra follows
    exact never ⟨taken, rest, split, all, Option.isSome_iff_ne_none.mpr follows⟩
  · -- What is found is such a run.
    rintro never ⟨taken, rest, split, all, follows⟩
    exact Option.isSome_iff_ne_none.mp follows (never taken rest split all)

/-- The run that is found passes the test, something follows it, and nothing follows a longer
one. -/
theorem of_longestRun_eq_some {following : List Char → Option α} {taken : List Char} {a : α}
    (found : longestRun test following cs = some (taken, a)) :
    (∀ c ∈ taken, test c = true) ∧ (∃ rest, cs = taken ++ rest ∧ following rest = some a) ∧
      ∀ more rest, cs = more ++ rest → (∀ c ∈ more, test c = true) → taken.length < more.length →
        following rest = none := by
  induction cs generalizing taken with
  -- Only the empty run is left.
  | nil =>
    obtain ⟨b, follows, same⟩ := Option.map_eq_some_iff.mp found
    obtain ⟨rfl, rfl⟩ := Prod.mk.inj same
    refine ⟨by simp, ⟨[], rfl, follows⟩, fun more rest split _ longer => ?_⟩
    obtain ⟨rfl, rfl⟩ := List.append_eq_nil_iff.mp split.symm
    simp at longer
  | cons c cs ih =>
    rw [longestRun] at found
    split at found
    · -- A run behind the first character makes a longer one with it.
      next behind b later =>
      obtain ⟨rfl, rfl⟩ := Prod.mk.inj (Option.some.inj found)
      by_cases passes : test c = true
      · -- The run goes on with the first character.
        rw [if_pos passes] at later
        obtain ⟨all, ⟨rest, split, follows⟩, longest⟩ := ih later
        refine ⟨List.forall_mem_cons.mpr ⟨passes, all⟩,
          ⟨rest, by rw [split, List.cons_append], follows⟩, ?_⟩
        intro more left cut each longer
        cases more with
        | nil => simp at longer
        | cons d more =>
          obtain ⟨rfl, rfl⟩ := List.cons.inj cut
          exact longest more left rfl (List.forall_mem_cons.mp each).2
            (Nat.lt_of_succ_lt_succ longer)
      · -- The first character ends the run.
        rw [if_neg passes] at later
        cases later
    · -- Otherwise nothing follows any run but the empty one.
      next shorter =>
      obtain ⟨b, follows, same⟩ := Option.map_eq_some_iff.mp found
      obtain ⟨rfl, rfl⟩ := Prod.mk.inj same
      refine ⟨by simp, ⟨c :: cs, rfl, follows⟩, fun more rest cut each longer => ?_⟩
      cases more with
      | nil => simp at longer
      | cons d more =>
        obtain ⟨rfl, rfl⟩ := List.cons.inj cut
        obtain ⟨passes, each⟩ := List.forall_mem_cons.mp each
        rw [if_pos passes] at shorter
        exact longestRun_eq_none_iff.mp shorter more rest rfl each

/-! ### Greedy splits -/

/-- The bindings with that of the piece, if it is a parameter, to its part. -/
def Piece.bind : Piece → List Char → Bindings → Bindings
  | .param name, part, bindings => (name, part) :: bindings
  | _, _, bindings => bindings

namespace Pattern

/-- Of all splits this is the one that takes as much as it can from the left: no other one has a
longer part at the first place where their lengths are different. -/
structure IsGreedy (pattern : Pattern) (key : List Char) (parts : List (List Char)) : Prop where
  splits : pattern.Splits key parts
  longest : ∀ others, pattern.Splits key others → ¬ parts.map List.length < others.map List.length

/-- The names of parameters with the parts that stand for them. -/
def bindings : Pattern → List (List Char) → Bindings
  | piece :: pattern, part :: parts => piece.bind part (bindings pattern parts)
  | _, _ => []

variable {piece : Piece} {pattern : Pattern} {key part : List Char} {parts : List (List Char)}

/-- With as much as it can stand for in front of a greedy split, the first piece makes a greedy
one. -/
theorem IsGreedy.cons {rest : List Char} {others : List (List Char)}
    (greedy : IsGreedy pattern rest others) (joined : key = part ++ rest) (fits : piece.Fits part)
    (longest : ∀ more left, key = more ++ left → piece.Fits more → part.length < more.length →
      ∀ parts, ¬ Splits pattern left parts) : IsGreedy (piece :: pattern) key (part :: others) where
  splits := splits_cons.mpr ⟨part, others, rest, rfl, joined, fits, greedy.splits⟩
  longest := by
    intro all splits longer
    obtain ⟨more, parts, left, rfl, cut, other, later⟩ := splits_cons.mp splits
    rw [List.map_cons, List.map_cons, List.cons_lt_cons_iff] at longer
    rcases longer with first | ⟨same, behind⟩
    · -- The first part is longer.
      exact longest more left cut other first parts later
    · -- Beginnings of one length are the same, and so is what is behind them.
      obtain ⟨rfl, rfl⟩ := List.append_inj (joined.symm.trans cut) same
      exact greedy.longest parts later behind

/-- The first piece takes the longest part behind which the other pieces are bound; if there is
none, nothing is bound. -/
def BindsLongest (piece : Piece) (pattern : Pattern) (key : List Char) : Prop :=
  (∃ part rest behind, key = part ++ rest ∧ piece.Fits part ∧
    bind? .longest pattern rest = some behind ∧
    bind? .longest (piece :: pattern) key = some (piece.bind part behind) ∧
    ∀ more left, key = more ++ left → piece.Fits more → part.length < more.length →
      bind? .longest pattern left = none) ∨
  bind? .longest (piece :: pattern) key = none ∧
    ∀ part rest, key = part ++ rest → piece.Fits part → bind? .longest pattern rest = none

/-- A piece for one character takes that if it passes the test. -/
theorem bindsLongest_one (test : Char → Bool)
    (fits : ∀ part, piece.Fits part ↔ ∃ c, test c = true ∧ part = [c])
    (unnamed : ∀ part behind, piece.bind part behind = behind)
    (step : bind? .longest (piece :: pattern) key = match key with
      | c :: rest => if test c then bind? .longest pattern rest else none
      | [] => none) : BindsLongest piece pattern key := by
  cases key with
  -- The key has no character to take.
  | nil =>
    refine .inr ⟨step, fun part rest joined first => ?_⟩
    obtain ⟨c, _, rfl⟩ := (fits part).mp first
    cases joined
  | cons c key =>
    dsimp only at step
    have only {part rest : List Char} (joined : c :: key = part ++ rest) (first : piece.Fits part) :
        part = [c] ∧ rest = key ∧ test c = true := by
      obtain ⟨d, passes, rfl⟩ := (fits part).mp first
      obtain ⟨rfl, rfl⟩ := List.cons.inj joined
      exact ⟨rfl, rfl, passes⟩
    -- The character is taken.
    by_cases passes : test c = true
    · rw [if_pos passes] at step
      cases bound : bind? .longest pattern key with
      -- The other pieces are not bound.
      | none =>
        refine .inr ⟨step.trans bound, fun part rest joined first => ?_⟩
        obtain ⟨_, rfl, _⟩ := only joined first
        exact bound
      -- They are bound.
      | some behind =>
        refine .inl ⟨[c], key, behind, rfl, (fits [c]).mpr ⟨c, passes, rfl⟩, bound,
          by rw [step, bound, unnamed], fun more left cut other longer => ?_⟩
        obtain ⟨rfl, _⟩ := only cut other
        exact absurd longer (Nat.lt_irrefl _)
    · -- The character is not taken.
      rw [if_neg passes] at step
      exact .inr ⟨step, fun part rest joined first => absurd (only joined first).2.2 passes⟩

/-- A run takes the longest part behind which the other pieces are bound. -/
theorem bindsLongest_run (set : CharSet) : BindsLongest (.run set) pattern key := by
  cases found : longestRun set.holds (bind? .longest pattern) key with
  -- No run has the other pieces behind it.
  | none => exact .inr ⟨by rw [bind?, found, Option.map_none], longestRun_eq_none_iff.mp found⟩
  -- The longest such run is taken.
  | some run =>
    obtain ⟨all, ⟨rest, joined, later⟩, longest⟩ := of_longestRun_eq_some found
    have bound : bind? .longest (.run set :: pattern) key = some run.2 := by
      rw [bind?, found, Option.map_some]
    exact .inl ⟨run.1, rest, run.2, joined, all, later, bound, longest⟩

/-- A parameter takes the longest part behind which the other pieces are bound. -/
theorem bindsLongest_param (name : List Char) : BindsLongest (.param name) pattern key := by
  cases key with
  | nil =>
    -- A parameter takes one character at least.
    refine .inr ⟨rfl, fun part rest joined first => ?_⟩
    exact absurd (List.append_eq_nil_iff.mp joined.symm).1 first.1
  | cons d key =>
    -- What a parameter takes is the first character and a run behind it.
    have behindFirst {part rest : List Char} (joined : d :: key = part ++ rest)
        (first : (Piece.param name).Fits part) : ∃ taken, part = d :: taken ∧ key = taken ++ rest ∧
          (d != '/') = true ∧ ∀ c ∈ taken, (c != '/') = true := by
      obtain ⟨c, taken, rfl⟩ := List.exists_cons_of_ne_nil first.1
      obtain ⟨rfl, rfl⟩ := List.cons.inj joined
      obtain ⟨passes, all⟩ := List.forall_mem_cons.mp (passes_iff.mpr first.2)
      exact ⟨taken, rfl, rfl, passes, all⟩
    by_cases passes : (d != '/') = true
    · cases found : longestRun (· != '/') (bind? .longest pattern) key with
      -- No run has the other pieces behind it.
      | none =>
        refine .inr ⟨by simp only [bind?, passes, if_true, found, Option.map_none], ?_⟩
        intro part rest joined first
        obtain ⟨taken, _, cut, _, all⟩ := behindFirst joined first
        exact longestRun_eq_none_iff.mp found taken rest cut all
      -- The longest such run is taken.
      | some run =>
        obtain ⟨all, ⟨rest, joined, later⟩, longest⟩ := of_longestRun_eq_some found
        refine .inl ⟨d :: run.1, rest, run.2, by rw [joined, List.cons_append],
          ⟨List.cons_ne_nil d run.1, passes_iff.mp (List.forall_mem_cons.mpr ⟨passes, all⟩)⟩, later,
          by simp only [bind?, passes, if_true, found, Option.map_some]; rfl, ?_⟩
        intro more left cut other longer
        obtain ⟨taken, rfl, behind, _, each⟩ := behindFirst cut other
        exact longest taken left behind each (Nat.lt_of_succ_lt_succ longer)
    · -- The first character is a slash.
      refine .inr ⟨by simp only [bind?, passes, Bool.false_eq_true, if_false], ?_⟩
      intro part rest joined first
      obtain ⟨_, _, _, slashless, _⟩ := behindFirst joined first
      exact absurd slashless passes

/-- Whatever the first piece is, it takes the longest part. -/
theorem bindsLongest (piece : Piece) (pattern : Pattern) (key : List Char) :
    BindsLongest piece pattern key := by
  cases piece with
  -- A character takes itself.
  | exact c =>
    refine bindsLongest_one (c == ·) (fun part => ?_) (fun _ _ => rfl) ?_
    · simp [Piece.Fits]
    · cases key <;> rfl
  -- A set takes one of its characters.
  | one set =>
    refine bindsLongest_one set.holds (fun part => Iff.rfl) (fun _ _ => rfl) ?_
    cases key <;> rfl
  | run set => exact bindsLongest_run set
  | param name => exact bindsLongest_param name

/-- The bindings are those of a greedy split, and without bindings there is no split at all. -/
theorem bind?_longest (pattern : Pattern) (key : List Char) :
    (∃ parts, pattern.IsGreedy key parts ∧
      pattern.bind? .longest key = some (pattern.bindings parts)) ∨
    pattern.bind? .longest key = none ∧ ∀ parts, ¬ pattern.Splits key parts := by
  induction pattern generalizing key with
  | nil =>
    cases key with
    -- Nothing is left of both.
    | nil =>
      refine .inl ⟨[], ⟨splits_nil.mpr ⟨rfl, rfl⟩, fun others splits => ?_⟩, rfl⟩
      rw [(splits_nil.mp splits).1]
      exact List.lt_irrefl _
    -- Some of the key is left.
    | cons c key => exact .inr ⟨rfl, fun parts splits => nomatch (splits_nil.mp splits).2⟩
  | cons piece pattern ih =>
    -- Where the other pieces are not bound, they do not split what is left either.
    have never {left : List Char} (none : bind? .longest pattern left = none)
        (parts : List (List Char)) : ¬ Splits pattern left parts := by
      -- They are bound.
      rcases ih left with ⟨_, _, some⟩ | ⟨_, never⟩
      · cases none.symm.trans some
      · -- They are not.
        exact never parts
    rcases bindsLongest piece pattern key with
      ⟨part, rest, behind, joined, fits, later, bound, longest⟩ | ⟨unbound, none⟩
    · rcases ih rest with ⟨others, greedy, same⟩ | ⟨none, _⟩
      · -- The other pieces are bound behind the longest part.
        obtain rfl := Option.some.inj (later.symm.trans same)
        exact .inl ⟨part :: others, greedy.cons joined fits fun more left cut other longer =>
          never (longest more left cut other longer), bound⟩
      · -- They would have been bound.
        cases later.symm.trans none
    · -- Whatever the first piece takes, the others are not bound.
      refine .inr ⟨unbound, fun parts splits => ?_⟩
      obtain ⟨part, others, rest, rfl, joined, fits, later⟩ := splits_cons.mp splits
      exact never (none part rest joined fits) others later

/-- There is one greedy split at most. -/
theorem IsGreedy.unique {others : List (List Char)} (greedy : pattern.IsGreedy key parts)
    (other : pattern.IsGreedy key others) : parts = others := by
  -- Neither is longer at the first difference, so there is none, and lengths cut the key in one
  -- way.
  have lengths : parts.map List.length = others.map List.length :=
    List.le_antisymm (List.not_lt.mp (other.longest parts greedy.splits))
      (List.not_lt.mp (greedy.longest others other.splits))
  exact List.eq_iff_flatten_eq.mpr ⟨greedy.splits.joined.trans other.splits.joined.symm, lengths⟩

/-- If a key splits at all, then one of its splits is greedy. -/
theorem Splits.exists_isGreedy (splits : pattern.Splits key parts) :
    ∃ parts, pattern.IsGreedy key parts := by
  rcases bind?_longest pattern key with ⟨parts, greedy, _⟩ | ⟨_, never⟩
  · -- A pattern that is bound has a greedy split.
    exact ⟨parts, greedy⟩
  · -- One that is not has no split.
    exact absurd splits (never parts)

/-- A split has a binding for each parameter, in the order of the pattern. -/
theorem Splits.names_bindings (splits : pattern.Splits key parts) :
    (pattern.bindings parts).map (·.1) = pattern.names := by
  have fits := splits.fits
  clear splits
  induction fits with
  | nil => rfl
  | @cons piece _ _ _ _ _ ih => cases piece <;> simpa [bindings, Piece.bind, names] using ih

/-! ### Values of names -/

end Pattern

/-- The part of a key is what the piece stands for, if each name has the given value. -/
def Piece.FilledBy (value : List Char → List Char) : Piece → List Char → Prop
  | .param name, part => part = value name ∧ part ≠ [] ∧ '/' ∉ part
  | piece, part => piece.Fits part

/-- The key is the pattern with the value of its name in the place of each parameter, which is some
text without slashes, and with any text that a run stands for in its place. -/
structure Pattern.FilledBy (pattern : Pattern) (value : List Char → List Char) (key : List Char)
    (parts : List (List Char)) : Prop where
  filled : List.Forall₂ (Piece.FilledBy value) pattern parts
  joined : parts.flatten = key

/-- The first binding of a name is one of that name. -/
theorem Bindings.of_find?_eq_some {bindings : Bindings} {name : List Char}
    {first : List Char × List Char}
    (found : (bindings.find? fun other => other.1 == name) = some first) :
    first ∈ bindings ∧ first.1 = name := by
  have named := List.find?_some found
  exact ⟨List.mem_of_find?_eq_some found, beq_iff_eq.mp named⟩

/-- Bindings agree exactly if each of them is to the value of its name. -/
theorem Bindings.agree_iff {bindings : Bindings} : bindings.agree = true ↔
    ∃ value : List Char → List Char, ∀ binding ∈ bindings, binding.2 = value binding.1 := by
  rw [Bindings.agree, List.all_eq_true]
  constructor
  · -- The value of a name is that of its first binding.
    intro all
    refine ⟨fun name => (bindings.value? name).getD [], fun binding member => ?_⟩
    have same := all binding member
    cases found : bindings.find? fun other => other.1 == binding.1 with
    | none => simpa using List.find?_eq_none.mp found binding member
    | some first =>
      rw [found] at same
      simp only [Bindings.value?, found, Option.map_some, Option.getD_some]
      exact (beq_iff_eq.mp same).symm
  · -- All bindings of a name have its value.
    rintro ⟨value, all⟩ binding member
    split
    · -- There is an earlier binding of the name.
      rename_i first found
      obtain ⟨listed, named⟩ := of_find?_eq_some found
      rw [beq_iff_eq, all first listed, all binding member, named]
    · -- There is none.
      rfl

/-- Bindings of different names agree. -/
theorem Bindings.agree_of_nodup {bindings : Bindings} (different : (bindings.map (·.1)).Nodup) :
    bindings.agree = true := by
  rw [Bindings.agree, List.all_eq_true]
  intro binding member
  split
  · -- The earlier binding of the name is the same one.
    rename_i first found
    obtain ⟨listed, named⟩ := of_find?_eq_some found
    rw [List.inj_on_of_nodup_map different listed member named, beq_self_eq_true]
  · -- There is none.
    rfl

namespace Pattern

variable {pattern : Pattern} {key : List Char} {parts : List (List Char)}
    {value : List Char → List Char}

/-- A key is filled exactly if it splits and each parameter is bound to the value of its name. -/
theorem filledBy_iff : pattern.FilledBy value key parts ↔
    pattern.Splits key parts ∧ ∀ binding ∈ pattern.bindings parts, binding.2 = value binding.1 := by
  -- A parameter is the only piece for which the value matters, and it is the only one that is
  -- bound.
  have each : List.Forall₂ (Piece.FilledBy value) pattern parts ↔
      List.Forall₂ Piece.Fits pattern parts ∧
      ∀ binding ∈ pattern.bindings parts, binding.2 = value binding.1 := by
    induction pattern generalizing parts with
    | nil => cases parts <;> simp [bindings]
    | cons piece pattern ih =>
      cases parts with
      | nil => simp
      | cons part parts =>
        rw [List.forall₂_cons, List.forall₂_cons, ih, bindings]
        cases piece with
        -- A parameter is bound to its part.
        | param name =>
          simp only [Piece.FilledBy, Piece.Fits, Piece.bind, List.forall_mem_cons]
          tauto
        | exact c => exact and_assoc.symm
        | one set => exact and_assoc.symm
        | run set => exact and_assoc.symm
  constructor
  · -- The parts have the values that they are bound to.
    rintro ⟨filled, joined⟩
    obtain ⟨fits, bound⟩ := each.mp filled
    exact ⟨⟨fits, joined⟩, bound⟩
  · -- Bound to these values, the parameters are filled by them.
    rintro ⟨⟨fits, joined⟩, bound⟩
    exact ⟨each.mpr ⟨fits, bound⟩, joined⟩

end Pattern

/-- The bindings of parts agree exactly if there are values with which the parts fill the
pattern. -/
theorem Pattern.Splits.agree_iff {pattern : Pattern} {key : List Char} {parts : List (List Char)}
    (splits : pattern.Splits key parts) :
    (pattern.bindings parts).agree = true ↔ ∃ value, pattern.FilledBy value key parts := by
  simp only [Bindings.agree_iff, filledBy_iff, splits, true_and]

end AccessControl
