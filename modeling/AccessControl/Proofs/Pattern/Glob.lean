import AccessControl.Callable.Builtin
import AccessControl.Proofs.Pattern.Split

/-! Globs are written in single characters and bracketed classes. Without two stars in a row they
cross a slash in their classes alone. -/

namespace AccessControl

/-- A part of a glob is a character or, with what stands between its brackets, a class. -/
inductive GlobPart
  | single (c : Char)
  | bracketed (body : List Char)
deriving DecidableEq

/-- The piece for a single character of a glob. -/
def GlobStyle.piece (style : GlobStyle) (c : Char) : Piece :=
  if c = '*' then .run style.set else if c = '?' then .one style.set else .exact c

namespace GlobPart

/-- The characters that a part is written with. -/
def text : GlobPart → List Char
  | .single c => [c]
  | .bracketed body => '[' :: (body ++ [']'])

/-- Where there are classes an opening bracket starts one, which ends at the next closing
bracket. -/
def IsWritten (style : GlobStyle) : GlobPart → Prop
  | .single c => c = '[' → style.classes = false
  | .bracketed body => style.classes = true ∧ ']' ∉ body

/-- The characters of a key can stand in the place of the part. -/
def Fits (style : GlobStyle) : GlobPart → List Char → Prop
  | .single c, taken => (style.piece c).Fits taken
  | .bracketed body, taken => ∃ set, classOf body = some set ∧ (Piece.one set).Fits taken

/-- The part is a class that a slash belongs to. -/
def crosses : GlobPart → Bool
  | .single _ => false
  | .bracketed body => (classOf body).any fun set => set.holds '/'

end GlobPart

/-- The glob is written in the parts, one after the other. -/
structure WritesGlob (style : GlobStyle) (parts : List GlobPart) (glob : List Char) : Prop where
  each : ∀ part ∈ parts, part.IsWritten style
  joined : parts.flatMap GlobPart.text = glob

variable {style : GlobStyle} {glob key rest body : List Char} {parts : List GlobPart} {c : Char}

/-! ### Parts and keys -/

/-- Nothing fits the empty glob but nothing. -/
theorem matchesGlob_nil : matchesGlob style key [] = true ↔ key = [] := by
  simp [matchesGlob, Pattern.ofGlob, Pattern.accepts]

/-- A glob that starts with a piece fits what starts with characters that stand for it. -/
theorem matchesGlob_cons {piece : Piece} (made : Pattern.ofGlob style none glob =
      (Pattern.ofGlob style none rest).map (piece :: ·)) : matchesGlob style key glob = true ↔
    ∃ taken left, key = taken ++ left ∧ piece.Fits taken ∧ matchesGlob style left rest = true := by
  simp only [matchesGlob, made]
  cases Pattern.ofGlob style none rest with
  -- The glob cannot be read.
  | none => simp
  -- The first piece takes some of the key.
  | some pattern => exact Pattern.accepts_cons

/-- A single character is read as its piece, unless it opens a class or is the first of two
stars. -/
theorem ofGlob_single (written : (GlobPart.single c).IsWritten style)
    (apart : ¬ ['*', '*'] <+: c :: rest) :
    Pattern.ofGlob style none (c :: rest) =
      (Pattern.ofGlob style none rest).map (style.piece c :: ·) := by
  by_cases star : c = '*'
  · subst star
    -- Only another star behind it would be read together with the first one.
    cases rest with
    | nil => simp [Pattern.ofGlob, GlobStyle.piece]
    | cons d rest =>
      have other : d ≠ '*' := by
        rintro rfl
        exact apart ⟨rest, rfl⟩
      rw [Pattern.ofGlob]
      · simp [GlobStyle.piece]
      · simpa using other
  · by_cases opening : c = '['
    · -- An opening bracket is plain only where there are no classes.
      simp [Pattern.ofGlob, GlobStyle.piece, opening, written opening]
    · by_cases mark : c = '?' <;> simp [Pattern.ofGlob, GlobStyle.piece, star, opening, mark]

/-- A class is read up to its closing bracket. -/
theorem ofGlob_body (closed : ']' ∉ body) (read : List Char) :
    Pattern.ofGlob style (some read) (body ++ ']' :: rest) =
      (classOf (read.reverse ++ body)).bind fun set =>
        (Pattern.ofGlob style none rest).map (.one set :: ·) := by
  induction body generalizing read with
  | nil =>
    rw [List.nil_append, List.append_nil, Pattern.ofGlob, if_pos (beq_self_eq_true _)]
    cases classOf read.reverse <;> rfl
  | cons c body ih =>
    rw [List.mem_cons, not_or] at closed
    simp [Pattern.ofGlob, Ne.symm closed.1, ih closed.2]

/-- A class without a closing bracket is not read. -/
theorem ofGlob_unclosed (unclosed : ']' ∉ rest) (read : List Char) :
    Pattern.ofGlob style (some read) rest = none := by
  induction rest generalizing read with
  | nil => rw [Pattern.ofGlob]
  | cons c rest ih =>
    rw [List.mem_cons, not_or] at unclosed
    simp [Pattern.ofGlob, Ne.symm unclosed.1, ih unclosed.2]

/-- A key fits a glob that starts with a part exactly if it starts with characters for the part, and
its rest fits the rest. -/
theorem matchesGlob_part {part : GlobPart} (written : part.IsWritten style)
    (apart : ¬ ['*', '*'] <+: part.text ++ rest) :
    matchesGlob style key (part.text ++ rest) = true ↔
      ∃ taken left, key = taken ++ left ∧ part.Fits style taken ∧
        matchesGlob style left rest = true := by
  cases part with
  -- A character of the glob is a piece.
  | single c => exact matchesGlob_cons (ofGlob_single written apart)
  | bracketed body =>
    -- The class is read as one piece, unless it has no meaning, and then neither side holds.
    obtain ⟨classes, closed⟩ := written
    have made : Pattern.ofGlob style none ((GlobPart.bracketed body).text ++ rest) =
        (classOf body).bind fun set => (Pattern.ofGlob style none rest).map (.one set :: ·) := by
      have opened : Pattern.ofGlob style none ((GlobPart.bracketed body).text ++ rest) =
          Pattern.ofGlob style (some []) (body ++ ']' :: rest) := by
        simp [GlobPart.text, Pattern.ofGlob, classes]
      rw [opened, ofGlob_body closed, List.reverse_nil, List.nil_append]
    cases read : classOf body with
    -- The class has no meaning.
    | none =>
      rw [read] at made
      simp [matchesGlob, made, GlobPart.Fits, read]
    -- The class takes one character.
    | some set =>
      rw [read] at made
      simp only [matchesGlob_cons made, GlobPart.Fits, read, Option.some.injEq, exists_eq_left']

/-- A key fits a glob without two stars in a row exactly if it is put together from characters for
each part. -/
theorem matchesGlob_iff (apart : ¬ ['*', '*'] <:+: glob) (written : WritesGlob style parts glob) :
    matchesGlob style key glob = true ↔
      ∃ taken, List.Forall₂ (GlobPart.Fits style) parts taken ∧ taken.flatten = key := by
  obtain ⟨each, rfl⟩ := written
  induction parts generalizing key with
  | nil =>
    rw [List.flatMap_nil, matchesGlob_nil]
    constructor
    · -- Without parts there is no text.
      rintro rfl
      exact ⟨[], .nil, rfl⟩
    · -- Nothing is taken.
      rintro ⟨_, ⟨⟩, rfl⟩
      rfl
  | cons part parts ih =>
    rw [List.flatMap_cons] at apart ⊢
    obtain ⟨first, others⟩ := List.forall_mem_cons.mp each
    have apartLater : ¬ ['*', '*'] <:+: parts.flatMap GlobPart.text := fun inside =>
      apart (inside.trans (List.suffix_append ..).isInfix)
    simp only [matchesGlob_part first fun front => apart front.isInfix, ih others apartLater]
    constructor
    · -- The first part takes a text, and the others take what is left.
      rintro ⟨text, _, rfl, fits, taken, all, rfl⟩
      exact ⟨text :: taken, .cons fits all, rfl⟩
    · -- The text for the first part is the first one.
      rintro ⟨_, all, rfl⟩
      cases all with
      | @cons _ text _ taken fits all => exact ⟨text, _, rfl, fits, taken, all, rfl⟩

-- A slash that is written in a class is no part of its own, and here it is excluded.
example : matchesGlob ⟨true, true⟩ "b".toList "[!/]".toList = true := by decide

/-- A glob that some key fits has a closing bracket for every opening one, so it is written in
parts. -/
theorem exists_writesGlob (apart : ¬ ['*', '*'] <:+: glob)
    (fits : matchesGlob style key glob = true) : ∃ parts, WritesGlob style parts glob := by
  -- A class takes several characters at once, so the induction is on the length.
  induction left : glob.length using Nat.strongRecOn generalizing glob key with
  | ind left ih =>
    subst left
    -- It is enough to find one part in front, as some key fits what is behind it.
    suffices front : glob = [] ∨ ∃ part rest, glob = GlobPart.text part ++ rest ∧
        part.IsWritten style by
      rcases front with rfl | ⟨part, rest, rfl, written⟩
      · exact ⟨[], nofun, rfl⟩
      · rw [matchesGlob_part written fun front => apart front.isInfix] at fits
        obtain ⟨_, behind, _, _, later⟩ := fits
        have shorter : rest.length < (part.text ++ rest).length := by
          have some : 0 < part.text.length := by cases part <;> simp [GlobPart.text]
          rw [List.length_append]
          omega
        obtain ⟨parts, each, rfl⟩ := ih _ shorter
          (fun inside => apart (inside.trans (List.suffix_append ..).isInfix)) later rfl
        exact ⟨part :: parts, List.forall_mem_cons.mpr ⟨written, each⟩, rfl⟩
    cases glob with
    | nil => exact .inl rfl
    | cons c rest =>
      right
      by_cases opens : c = '[' ∧ style.classes = true
      · -- A bracket opens a class.
        obtain ⟨rfl, classes⟩ := opens
        by_cases closing : ']' ∈ rest
        · obtain ⟨body, behind, rfl, closed⟩ := List.eq_append_cons_of_mem closing
          exact ⟨.bracketed body, behind, by simp [GlobPart.text], classes, closed⟩
        · have unread : Pattern.ofGlob style none ('[' :: rest) = none := by
            simp [Pattern.ofGlob, classes, ofGlob_unclosed closing]
          simp [matchesGlob, unread] at fits
      · -- The character is a part of its own.
        exact ⟨.single c, rest, rfl, fun opening => by simpa [opening] using opens⟩

/-! ### Slashes -/

/-- A piece for a single character within segments has a slash exactly if the character is one. -/
theorem count_slash_single {taken : List Char} (segments : style.segments = true)
    (fits : (style.piece c).Fits taken) : taken.count '/' = [c].count '/' := by
  have within : style.set.holds '/' = false := by simp [GlobStyle.set, segments, CharSet.holds]
  unfold GlobStyle.piece at fits
  split at fits
  · -- A star takes no slash, and is none.
    next star =>
    subst star
    have free : '/' ∉ taken := fun member => by simp [fits '/' member] at within
    simp [List.count_eq_zero.mpr free]
  · split at fits
    · -- Nor does a question mark.
      next mark =>
      subst mark
      obtain ⟨d, holds, rfl⟩ := fits
      have other : d ≠ '/' := by
        rintro rfl
        simp [holds] at within
      simp [other]
    · -- Any other character takes itself.
      rw [fits]

/-- Within segments a slash that is a part stands for a slash, and of the other parts only a class
that a slash belongs to can stand for one. -/
theorem count_slash_of_fits {part : GlobPart} {taken : List Char} (segments : style.segments = true)
    (fits : part.Fits style taken) : [part].count (.single '/') ≤ taken.count '/' ∧
      taken.count '/' ≤ [part].count (.single '/') + [part].countP GlobPart.crosses := by
  cases part with
  -- A character of the glob.
  | single c =>
    have same : [GlobPart.single c].count (.single '/') = [c].count '/' := by
      simp [List.count_singleton]
    rw [same, count_slash_single segments fits]
    exact ⟨Nat.le_refl _, Nat.le_add_right ..⟩
  | bracketed body =>
    -- A class takes one character, which is a slash only if that belongs to it.
    obtain ⟨set, read, c, holds, rfl⟩ := fits
    refine ⟨by simp, ?_⟩
    by_cases slash : c = '/'
    · -- The slash belongs to the class.
      subst slash
      simp [GlobPart.crosses, read, holds]
    · -- It is no slash.
      simp [slash]

/-- Within segments a key has the slashes that are parts of the glob, and at most one more for each
class that a slash belongs to. -/
theorem count_slash_of_parts {taken : List (List Char)} (segments : style.segments = true)
    (fits : List.Forall₂ (GlobPart.Fits style) parts taken) :
    parts.count (.single '/') ≤ taken.flatten.count '/' ∧
      taken.flatten.count '/' ≤ parts.count (.single '/') + parts.countP GlobPart.crosses := by
  induction fits with
  | nil => simp
  | @cons part text parts taken first _ ih =>
    have here := count_slash_of_fits segments first
    have slashes : (part :: parts).count (.single '/') =
        [part].count (.single '/') + parts.count (.single '/') := by
      rw [← List.count_append, List.singleton_append]
    have classes : (part :: parts).countP GlobPart.crosses =
        [part].countP GlobPart.crosses + parts.countP GlobPart.crosses := by
      rw [← List.countP_append, List.singleton_append]
    rw [List.flatten_cons, List.count_append, slashes, classes]
    omega

/-- Slashes that are written in no class are parts of the glob. -/
theorem count_slash_text (outside : ∀ body, .bracketed body ∈ parts → '/' ∉ body) :
    (parts.flatMap GlobPart.text).count '/' = parts.count (.single '/') := by
  induction parts with
  | nil => rfl
  | cons part parts ih =>
    have later := ih fun body member => outside body (List.mem_cons_of_mem _ member)
    rw [List.flatMap_cons, List.count_append, List.count_cons, later]
    cases part with
    -- A slash is counted where it is a part.
    | single c => by_cases slash : c = '/' <;> simp [GlobPart.text, slash, Nat.add_comm]
    -- A class has no slash in its text.
    | bracketed body =>
      simp [GlobPart.text, List.count_eq_zero.mpr (outside body (List.mem_cons_self ..))]

/-- A key that fits a glob within segments, without two stars in a row, has at least the slashes
that are parts of the glob, and at most one more for each class that a slash belongs to. -/
theorem count_slash_of_matchesGlob (segments : style.segments = true)
    (apart : ¬ ['*', '*'] <:+: glob)
    (written : WritesGlob style parts glob) (fits : matchesGlob style key glob = true) :
    parts.count (.single '/') ≤ key.count '/' ∧
      key.count '/' ≤ parts.count (.single '/') + parts.countP GlobPart.crosses := by
  obtain ⟨taken, all, rfl⟩ := (matchesGlob_iff apart written).mp fits
  exact count_slash_of_parts segments all

/-- If slashes neither are written in a class nor belong to one, a key that fits the glob has as
many of them. -/
theorem count_slash_eq_of_bounded (segments : style.segments = true)
    (apart : ¬ ['*', '*'] <:+: glob) (written : WritesGlob style parts glob)
    (bounded : ∀ body, .bracketed body ∈ parts → '/' ∉ body ∧
      (GlobPart.bracketed body).crosses = false)
    (fits : matchesGlob style key glob = true) : key.count '/' = glob.count '/' := by
  obtain ⟨least, most⟩ := count_slash_of_matchesGlob segments apart written fits
  have uncrossed : parts.countP GlobPart.crosses = 0 := by
    rw [List.countP_eq_zero]
    rintro (c | body) member
    · -- A character crosses nothing.
      exact Bool.false_ne_true
    · -- No class does.
      rw [(bounded body member).2]
      exact Bool.false_ne_true
  have outside : glob.count '/' = parts.count (.single '/') := by
    rw [← written.joined]
    exact count_slash_text fun body member => (bounded body member).1
  omega

/-- The two tests for globs within segments answer for any key and any glob, and what follows is
about globs without two stars in a row. Without classes a key that fits has as many slashes as the
glob. With classes the glob is written in parts: the key has at least the slashes that are parts,
and at most one more for each class that a slash belongs to. If no slash belongs to a class or is
written in one, the key has as many as the glob. -/
theorem Registry.globMatch_slashes [Runtime] (now : Time.Moment) (key glob : String)
    (apart : ¬ ['*', '*'] <:+: glob.toList) :
    ∃ plain holdsPlain classes holdsClasses,
      (Registry.builtin now).get? "globMatch2" = some plain ∧
      plain.call [.text key, .text glob] = .ok (.flag holdsPlain) ∧
      (Registry.builtin now).get? "globMatch3" = some classes ∧
      classes.call [.text key, .text glob] = .ok (.flag holdsClasses) ∧
      (holdsPlain = true → key.toList.count '/' = glob.toList.count '/') ∧
      (holdsClasses = true → ∃ parts, WritesGlob ⟨true, true⟩ parts glob.toList) ∧
      ∀ parts, WritesGlob ⟨true, true⟩ parts glob.toList → holdsClasses = true →
        parts.count (.single '/') ≤ key.toList.count '/' ∧
        key.toList.count '/' ≤ parts.count (.single '/') + parts.countP GlobPart.crosses ∧
        ((∀ body, .bracketed body ∈ parts → '/' ∉ body ∧
          (GlobPart.bracketed body).crosses = false) →
          key.toList.count '/' = glob.toList.count '/') := by
  refine ⟨_, _, _, _, rfl, rfl, rfl, rfl, fun fits => ?_, exists_writesGlob apart,
    fun parts written fits => ?_⟩
  · -- Without classes every character is a part of its own.
    have written : WritesGlob ⟨true, false⟩ (glob.toList.map .single) glob.toList :=
      ⟨by simp [GlobPart.IsWritten], by simp [List.flatMap_map, GlobPart.text]⟩
    exact count_slash_eq_of_bounded rfl apart written (by simp) fits
  · obtain ⟨least, most⟩ := count_slash_of_matchesGlob rfl apart written fits
    exact ⟨least, most, fun bounded => count_slash_eq_of_bounded rfl apart written bounded fits⟩

/-- A range of letters holds no slash, and behind it the star stays within the segment. -/
theorem Registry.globMatch_slashes_range :
    ¬ ['*', '*'] <:+: "/d/[a-z]*".toList ∧
      WritesGlob ⟨true, true⟩
        [.single '/', .single 'd', .single '/', .bracketed ['a', '-', 'z'], .single '*']
          "/d/[a-z]*".toList ∧
      (∃ classes, (Registry.builtin 0).get? "globMatch3" = some classes ∧
        classes.call [.text "/d/q1", .text "/d/[a-z]*"] = .ok (.flag true)) ∧
      "/d/q1".toList.count '/' = "/d/[a-z]*".toList.count '/' := by
  have apart : ¬ ['*', '*'] <:+: "/d/[a-z]*".toList := by simp [List.infix_cons_iff]
  have written : WritesGlob ⟨true, true⟩
      [.single '/', .single 'd', .single '/', .bracketed ['a', '-', 'z'], .single '*']
      "/d/[a-z]*".toList :=
    ⟨by simp [GlobPart.IsWritten], rfl⟩
  have bounded : ∀ body, GlobPart.bracketed body ∈
      [.single '/', .single 'd', .single '/', .bracketed ['a', '-', 'z'], .single '*'] →
        '/' ∉ body ∧ (GlobPart.bracketed body).crosses = false := by
    intro body member
    obtain rfl : body = ['a', '-', 'z'] := by simpa using member
    exact ⟨by decide, by decide⟩
  obtain ⟨_, _, classes, answer, _, _, found, called, _, _, slashes⟩ :=
    Registry.globMatch_slashes 0 "/d/q1" "/d/[a-z]*" apart
  have fits : answer = true := by
    obtain rfl : Callable.ofTest "glob_match3" "key1" "key2" (matchesGlob ⟨true, true⟩) = classes :=
      Option.some.inj found
    have given : (.ok (.flag (matchesGlob ⟨true, true⟩ "/d/q1".toList "/d/[a-z]*".toList)) :
        Except Error Value) = .ok (.flag answer) := called
    have holds : matchesGlob ⟨true, true⟩ "/d/q1".toList "/d/[a-z]*".toList = true := by decide
    exact (Value.flag.inj (Except.ok.inj given)).symm.trans holds
  subst fits
  exact ⟨apart, written, ⟨classes, found, called⟩, (slashes _ written rfl).2.2 bounded⟩

/-- A class that excludes a letter stands for a slash, so a key with a segment more than the glob
fits. -/
theorem Registry.globMatch3_crosses :
    ∃ classes, (Registry.builtin 0).get? "globMatch3" = some classes ∧
    ¬ ['*', '*'] <:+: "/data/a[!x]b".toList ∧
    classes.call [.text "/data/a/b", .text "/data/a[!x]b"] = .ok (.flag true) ∧
    "/data/a/b".toList.count '/' ≠ "/data/a[!x]b".toList.count '/' := by
  have holds : matchesGlob ⟨true, true⟩ "/data/a/b".toList "/data/a[!x]b".toList = true := by decide
  refine ⟨_, rfl, by simp [List.infix_cons_iff], ?_, by decide⟩
  exact congrArg (fun answer => Except.ok (Value.flag answer)) holds

end AccessControl
