import AccessControl.Proofs.Regex.Progress
import AccessControl.Proofs.Regex.Search
import AccessControl.Regex.Reader

/-! The faults that reading a regular expression can find besides its form, and where groups come
from. -/

namespace AccessControl.Regex

variable {pattern : List Char}

/-- Expressions have groups only if the pattern has a parenthesis. -/
def Opens (pattern : List Char) (nodes : List Node) : Prop :=
  nodes.any Node.hasGroup = true → '(' ∈ pattern

namespace Keeps

/-! ### Escapes and sets -/

theorem hexPoint (width : Nat) : Keeps pattern (hexPoint width) fun _ => True := by
  refine .bind (.takeWhile ..) fun digits _ => ?_
  extract_lets point
  split
  · -- There are enough digits.
    exact .pure trivial
  · -- There are too few.
    exact .refuse

theorem namedPoint : Keeps pattern namedPoint fun _ => True := by
  refine .bind (.demand '{') fun _ _ => .bind .get fun _ _ => .bind (.takeUntil ..) fun _ _ => ?_
  split
  · -- The braces hold a name.
    exact .pure trivial
  · -- They hold nothing.
    exact .refuse

theorem escapedPoint (c : Char) : Keeps pattern (escapedPoint c) fun _ => True := by
  unfold Regex.escapedPoint
  split
  · -- A character by its name.
    exact .namedPoint
  · -- Characters by their numbers.
    exact .hexPoint 2
  · exact .hexPoint 4
  · exact .hexPoint 8
  · split
    · -- Other letters have no meaning.
      exact .refuse
    · -- Any other character stands for itself.
      exact .pure trivial

theorem setEscape (c : Char) : Keeps pattern (setEscape c) fun _ => True := by
  unfold Regex.setEscape
  split
  · -- A control character.
    exact .pure trivial
  · -- A category of characters.
    exact .pure trivial
  · split
    · -- An octal number.
      refine .bind (.takeWhile ..) fun _ _ => ?_
      extract_lets point
      split
      · exact .pure trivial
      · exact .refuse
    · split
      · -- A digit that is none of those.
        exact .refuse
      · exact .bind (.escapedPoint c) fun _ _ => .pure trivial

theorem setMember (mark : Mark) : Keeps pattern (setMember mark) fun _ => True := by
  unfold Regex.setMember
  split
  · -- A character as it is.
    exact .pure trivial
  · -- An escape.
    exact .setEscape _
  · -- A backslash with nothing behind it.
    exact .refuse

theorem setMembers (fuel : Nat) : ∀ found, Keeps pattern (setMembers fuel found) fun _ => True := by
  induction fuel with
  | zero => exact fun _ => .refuse
  | succ fuel ih =>
    intro found
    refine .bind .next fun mark _ => ?_
    split
    · -- The set does not end.
      exact .refuse
    · split
      · -- The set ends.
        exact .pure trivial
      · refine .bind (.setMember _) fun low _ => .bind (.accept '-') fun _ _ => ?_
        split
        · refine .bind .next fun stop _ => ?_
          split
          · -- It ends behind a dash.
            exact .refuse
          · split
            · -- The dash was the last member.
              exact .pure trivial
            · refine .bind (.setMember _) fun high _ => ?_
              split
              · split
                · -- The range runs backwards.
                  exact .refuse
                · exact ih _
              · -- An end of the range is a class.
                exact .refuse
        · exact ih _

/-- A back reference is no group. -/
theorem referenceTo (options : Options) (index : Nat) :
    Keeps pattern (referenceTo options index) fun node => node.hasGroup = false := by
  refine .bind .get fun progress _ => ?_
  split
  · -- The group is closed.
    extract_lets jp
    have refers (u : Unit) : Keeps pattern (jp u) fun node => node.hasGroup = false := .pure rfl
    split
    · exact .guard (refers ())
    · exact .pure_bind (refers ())
  · -- There is no such group, or it is not closed.
    exact .refuse

/-- An escape by number is no group. -/
theorem numberEscape (options : Options) (c : Char) :
    Keeps pattern (numberEscape options c) fun node => node.hasGroup = false := by
  refine .bind (.takeWhile ..) fun digits _ => ?_
  split
  · extract_lets jp
    have ends (third : List Char) : Keeps pattern (jp third) fun node => node.hasGroup = false := by
      simp only [jp]
      -- Three digits may be an octal number, if it is small enough.
      split
      · split
        · exact .pure rfl
        · exact .refuse
      · -- Any other number is that of a group.
        exact .referenceTo ..
    split
    · exact .bind (.takeWhile ..) fun third _ => ends third
    · exact .pure_bind (ends [])
  · -- A digit alone is the number of a group.
    exact .referenceTo ..

/-- An escape is no group. -/
theorem escapeNode (options : Options) (c : Char) :
    Keeps pattern (escapeNode options c) fun node => node.hasGroup = false := by
  unfold Regex.escapeNode
  split
  · -- An edge of the text or of a word, a category or a control character.
    exact .pure rfl
  · exact .pure rfl
  · exact .pure rfl
  · split
    · -- A zero starts an octal number.
      exact .bind (.takeWhile ..) fun _ _ => .pure rfl
    · split
      · -- Another digit may be the number of a group.
        exact .numberEscape ..
      · -- Anything else stands for a character.
        exact .bind (.escapedPoint c) fun _ _ => .pure rfl

/-! ### Repetition -/

/-- A bound in the pattern is refused only if it is too large. -/
theorem repetitionBound {digits : List Char} (brace : '{' ∈ pattern) (closed : '}' ∈ pattern)
    (inside : digits <:+: pattern) (all : ∀ c ∈ digits, Text.isAsciiDigit c = true) :
    Keeps pattern (repetitionBound digits) fun _ => True := by
  unfold Regex.repetitionBound
  have excess (large : Decimal.digitLimit < digits.length ∨
      repetitionLimit ≤ Decimal.ofDigits (digits.map Text.asciiDigitValue)) : HasExcess pattern :=
    ⟨brace, closed, digits, inside, all, large⟩
  split
  · -- There are no digits, and no bound.
    exact .pure trivial
  · -- The number of digits is looked at before the number is.
    unfold Decimal.wholeOfDigits
    by_cases many : Decimal.digitLimit < (digits.map Text.asciiDigitValue).length
    · simp only [many, if_true]
      exact .throw (excess (.inl (by simpa using many)))
    · simp only [many, if_false]
      split
      · -- The number is small enough.
        exact .pure trivial
      · next large =>
        exact .throw (excess (.inr (by simpa [Double.signed] using large)))

theorem bracedBounds (fuel : Nat) (brace : '{' ∈ pattern) :
    Keeps pattern (bracedBounds fuel) fun _ => True := by
  refine .bind .get fun start within => .bind (.takeWhile ..) fun low inLow => ?_
  refine .bind (.accept ',') fun _ _ => ?_
  extract_lets jp
  have ends (high : List Char) (inHigh : high <:+: pattern ∧
      ∀ c ∈ high, Text.isAsciiDigit c = true) : Keeps pattern (jp high) fun _ => True := by
    refine .bind (.accept '}') fun accepted closes => ?_
    split
    · next isClosed =>
      have closed : '}' ∈ pattern := closes isClosed
      refine .bind (.repetitionBound brace closed inLow.1 inLow.2) fun least _ => ?_
      extract_lets least
      refine .bind (.repetitionBound brace closed inHigh.1 inHigh.2) fun most _ => ?_
      split
      · -- The most are not fewer than the least.
        split
        · exact .refuse
        · exact .pure trivial
      · -- There is no most.
        exact .pure trivial
    · -- Without the closing brace reading goes back to where it was.
      refine .bind (.modify fun _ before => ?_) fun _ _ => .pure trivial
      exact { before with rest := within.rest }
  split
  · exact .bind (.takeWhile ..) ends
  · exact .pure_bind (ends low inLow)

theorem greed : Keeps pattern greed fun _ => True := by
  refine .bind (.accept '?') fun _ _ => ?_
  split
  · -- As few as possible.
    exact .pure trivial
  · refine .bind (.accept '+') fun _ _ => ?_
    split
    · -- As many as possible, and never fewer again.
      exact .pure trivial
    · -- As many as possible.
      exact .pure trivial

/-- A repeated item has the groups that it had before. -/
theorem repeatLast (options : Options) (least : Nat) (most : Option Nat) {found : List Item}
    (opens : ∀ item ∈ found, Opens pattern item.nodes) :
    Keeps pattern (repeatLast options least most found)
      fun items => ∀ item ∈ items, Opens pattern item.nodes := by
  unfold Regex.repeatLast
  split
  · -- There is nothing to repeat.
    exact .refuse
  · next kind nodes rest =>
    extract_lets repeated checked
    have opensBody : Opens pattern nodes := opens ⟨kind, nodes⟩ (by simp)
    have repeats (u : Unit) : Keeps pattern (repeated u)
        fun items => ∀ item ∈ items, Opens pattern item.nodes := by
      refine .bind .greed fun greed _ => .pure ?_
      intro item member
      -- What is repeated opens a group if it does so itself.
      rcases List.mem_cons.mp member with rfl | member
      · simpa [Opens, Item.single, Node.hasGroup] using opensBody
      · -- The others are as before.
        exact opens item (by simp [member])
    have checks (u : Unit) : Keeps pattern (checked u)
        fun items => ∀ item ∈ items, Opens pattern item.nodes := by
      simp only [checked]
      split
      · -- With the flag for templates the pattern is doomed.
        exact .bind (.modify fun _ before => { before with }) fun _ _ => repeats ()
      · exact repeats ()
    exact .guard (checks ())

/-! ### Groups -/

theorem groupNamed (name : List Char) : Keeps pattern (groupNamed name) fun _ => True := by
  refine .bind .get fun progress _ => ?_
  split
  · -- There is a group of this name.
    exact .pure trivial
  · -- There is none.
    exact .refuse

theorem openGroup (name : Option (List Char)) : Keeps pattern (openGroup name) fun _ => True := by
  refine .bind .get fun progress within => ?_
  extract_lets index named
  have opened (names : List (String × Nat)) : Keeps pattern (named names) fun _ => True :=
    .bind (.set { within with }) fun _ _ => .pure trivial
  split
  · -- The group has no name.
    exact .pure_bind (opened _)
  · extract_lets word
    -- The name is no word.
    split
    · -- The name is known, or it is new.
      exact .refuse_bind
    · exact .pure_bind (opened _)

theorem closeGroup (index : Nat) (body : Node) :
    Keeps pattern (closeGroup index body) fun _ => True :=
  .modify fun _ before => { before with }

end Keeps

/-- The option of a letter comes from the letter. -/
theorem Options.from_ofLetter {c : Char} {option : Options} (asks : AsksOptions pattern)
    (inside : c ∈ pattern) (read : Options.ofLetter? c = some option) : option.From pattern := by
  unfold ofLetter? at read
  split at read
  all_goals cases read
  all_goals constructor <;> intro chosen
  all_goals first | exact ⟨asks, inside⟩ | cases chosen

/-- Options of either come from where they do. -/
theorem Options.From.union {a b : Options} (first : a.From pattern) (second : b.From pattern) :
    (a.union b).From pattern where
  ascii chosen := (Bool.or_eq_true _ _ ▸ chosen).elim first.ascii second.ascii
  unicode chosen := (Bool.or_eq_true _ _ ▸ chosen).elim first.unicode second.unicode

/-- No options come from any pattern. -/
theorem Options.From.none : Options.none.From pattern := ⟨nofun, nofun⟩

namespace Keeps

/-- Options that are read come from the pattern. -/
theorem optionLetters (isSet : Bool) (asks : AsksOptions pattern) (fuel : Nat) :
    ∀ {c : Char} {found : Options}, c ∈ pattern → found.From pattern →
      Keeps pattern (optionLetters isSet fuel c found) fun letters => letters.1.From pattern := by
  induction fuel with
  | zero => exact fun _ _ => .refuse
  | succ fuel ih =>
    intro c found inside given
    unfold Regex.optionLetters
    split
    · -- The letter is none of an option.
      exact .refuse
    · next option read =>
      extract_lets found goesOn
      have union : found.From pattern := given.union (Options.from_ofLetter asks inside read)
      have more (u : Unit) : Keeps pattern (goesOn u) fun letters => letters.1.From pattern := by
        refine .bind .next fun mark plain => ?_
        split
        · -- Letters go on until a mark ends them.
          split
          · exact .pure union
          · exact ih (plain _ rfl) union
        · -- The pattern ends in them.
          exact .refuse
      exact .guard (more ())

theorem groupOptions (fuel : Nat) {c : Char} (asks : AsksOptions pattern) (inside : c ∈ pattern) :
    Keeps pattern (groupOptions fuel c) fun _ => True := by
  unfold Regex.groupOptions
  extract_lets parsed
  have ends (added : Options) (stop : Char) (given : added.From pattern) :
      Keeps pattern (parsed (added, stop)) fun _ => True := by
    simp -zeta only [parsed]
    split
    · -- The options of the whole pattern change here alone.
      refine .bind (.modify fun _ before => ?_) fun _ _ => .pure trivial
      exact { before with options := before.options.union given }
    · extract_lets setOnly checked
      have unsets (removed : Options) : Keeps pattern (setOnly removed) fun _ => True :=
        .guard (.guard (.pure trivial))
      refine .guard ?_
      simp -zeta only [checked]
      -- A dash takes options away.
      split
      · refine .bind .next fun mark plain => ?_
        split
        · refine .bind (.optionLetters false asks fuel (plain _ rfl) .none) fun _ _ => ?_
          exact .pure_bind (unsets _)
        · exact .refuse_bind
      · -- Nothing is taken away.
        exact .pure_bind (unsets _)
  split
  · -- The options start with a dash.
    exact .pure_bind (ends _ _ .none)
  · -- Letters come first.
    exact .bind (.optionLetters true asks fuel inside .none) fun (added, stop) => ends added stop

theorem choiceGroup (fuel : Nat) : Keeps pattern (choiceGroup fuel) fun _ => True := by
  refine .bind (.takeUntil ..) fun name _ => ?_
  extract_lets numbered
  have ends (index : Nat) : Keeps pattern (numbered index) fun _ => True := by
    refine .bind .get fun progress _ => ?_
    extract_lets given allowed
    have asks (u : Unit) : Keeps pattern (allowed u) fun _ => True := by
      simp only [allowed]
      split
      · -- A group that is given by its number has to be opened somewhere.
        exact .bind (.modify fun _ before => { before with }) fun _ _ => .pure trivial
      · -- One that is given by its name is open already.
        exact .pure trivial
    split
    · -- Outside of a look behind nothing more is asked of the group.
      exact asks ()
    · split
      · -- Inside of one it has to be closed before.
        exact .guard (asks ())
      · -- There is no such group, or it is not closed.
        exact .refuse_bind
  split
  · -- A name.
    exact .bind (.groupNamed name) fun index _ => ends index
  · split
    · -- A number of digits, which are not too many.
      split
      · exact .pure_bind (ends _)
      · exact .refuse_bind
    · -- Neither.
      exact .refuse_bind

theorem isNegatedLook : Keeps pattern isNegatedLook fun _ => True := by
  refine .bind (.accept '=') fun _ _ => ?_
  split
  · -- The text has to go on so.
    exact .pure trivial
  · refine .bind (.accept '!') fun _ _ => ?_
    split
    · -- It must not go on so.
      exact .pure trivial
    · -- It is no look.
      exact .refuse

/-! ### Alternatives -/

/-- The readers of alternatives and of their parts keep what they must, with a certain fuel. -/
structure Readers (pattern : List Char) (fuel : Nat) : Prop where
  alternatives (options : Options) (top : Bool) :
    Keeps pattern (alternatives fuel options top) (Opens pattern)
  moreAlternatives (options : Options) :
    Keeps pattern (moreAlternatives fuel options) fun others => Opens pattern others.flatten
  items (options : Options) (top : Bool) {found : List Item}
    (opens : ∀ item ∈ found, Opens pattern item.nodes) :
    Keeps pattern (items fuel options top found) fun found => ∀ item ∈ found,
      Opens pattern item.nodes
  parenthesis (options : Options) (top isFirst : Bool) (paren : '(' ∈ pattern) :
    Keeps pattern (parenthesis fuel options top isFirst) fun _ => True
  enclosed (options : Options) : Keeps pattern (enclosed fuel options) fun _ => True
  capture (options : Options) (name : Option (List Char)) :
    Keeps pattern (capture fuel options name) fun _ => True

end Keeps

/-- A sequence has the groups of its items. -/
theorem opens_sequenceOf {items : List Item} (opens : ∀ item ∈ items, Opens pattern item.nodes) :
    Opens pattern (sequenceOf items) := by
  intro grouped
  obtain ⟨node, member, own⟩ := List.any_eq_true.mp grouped
  obtain ⟨item, listed, inside⟩ := List.mem_flatMap.mp member
  exact opens item (List.mem_reverse.mp listed) (List.any_eq_true.mpr ⟨node, inside, own⟩)

/-- An item that is one expression has its groups. -/
theorem opens_single {node : Node} (opens : node.hasGroup = true → '(' ∈ pattern) :
    Opens pattern (Item.single node).nodes := by
  have only : (Item.single node).nodes = [node] := by cases node <;> rfl
  simpa [Opens, only] using opens

/-- Groups of two rows of expressions are groups of one of them. -/
theorem Opens.append {first second : List Node} (opensFirst : Opens pattern first)
    (opensSecond : Opens pattern second) : Opens pattern (first ++ second) := by
  intro grouped
  rw [List.any_append, Bool.or_eq_true] at grouped
  exact grouped.elim opensFirst opensSecond

namespace Keeps

variable {fuel : Nat}

theorem enclosed_succ (readers : Readers pattern fuel) (options : Options) :
    Keeps pattern (enclosed (fuel + 1) options) fun _ => True := by
  unfold Regex.enclosed
  exact .bind (readers.alternatives options false) fun _ _ => .bind (.demand ')') fun _ _ =>
    .pure trivial

theorem capture_succ (readers : Readers pattern fuel) (options : Options)
    (name : Option (List Char)) :
    Keeps pattern (capture (fuel + 1) options name) fun _ => True := by
  unfold Regex.capture
  refine .bind (.openGroup name) fun index _ => .bind (readers.enclosed options) fun _ _ => ?_
  exact .bind (.closeGroup ..) fun _ _ => .pure trivial

theorem moreAlternatives_succ (readers : Readers pattern fuel) (options : Options) :
    Keeps pattern (moreAlternatives (fuel + 1) options) fun others =>
      Opens pattern others.flatten := by
  unfold Regex.moreAlternatives
  refine .bind (readers.items options false nofun) fun found opens => ?_
  extract_lets first
  have opensFirst : Opens pattern first := opens_sequenceOf opens
  refine .bind (.accept '|') fun _ _ => ?_
  split
  · -- Another alternative follows.
    exact .bind (readers.moreAlternatives options) fun others opensOthers =>
      .pure (opensFirst.append opensOthers)
  · -- This was the last one.
    exact .pure (by simpa using opensFirst)

theorem alternatives_succ (readers : Readers pattern fuel) (options : Options) (top : Bool) :
    Keeps pattern (alternatives (fuel + 1) options top) (Opens pattern) := by
  unfold Regex.alternatives
  refine .bind (readers.items options top nofun) fun found opens => ?_
  extract_lets first
  have opensFirst : Opens pattern first := opens_sequenceOf opens
  refine .bind .get fun progress _ => ?_
  extract_lets whole chosen joined
  have joins (others : List (List Node)) (opensOthers : Opens pattern others.flatten) :
      Keeps pattern (joined others) (Opens pattern) :=
    .pure fun grouped => opensFirst.append opensOthers (hasGroup_of_joinAlternatives grouped)
  refine .bind (.accept '|') fun _ _ => ?_
  split
  · -- Another alternative follows.
    exact .bind (readers.moreAlternatives chosen) joins
  · -- This is the only one.
    exact .pure_bind (joins [] nofun)

theorem parenthesis_succ (readers : Readers pattern fuel) (options : Options) (top isFirst : Bool)
    (paren : '(' ∈ pattern) :
    Keeps pattern (parenthesis (fuel + 1) options top isFirst) fun _ => True := by
  unfold Regex.parenthesis
  refine .bind (.accept '?') fun accepted asked => ?_
  split
  · -- A group that is remembered.
    exact .bind (readers.capture options none) fun _ _ => .pure trivial
  · next isAsked =>
    have asks : AsksOptions pattern := ⟨paren, asked (by simpa using isAsked)⟩
    refine .bind .next fun mark plain => ?_
    split
    · -- The name of a group, or one that is referred to.
      refine .bind (.accept '<') fun _ _ => ?_
      split
      · -- A group with a name.
        refine .bind (.takeUntil ..) fun name _ => .guard ?_
        exact .bind (readers.capture options (some name)) fun _ _ => .pure trivial
      · -- A name that is referred to.
        refine .bind (.accept '=') fun _ _ => ?_
        split
        · refine .bind (.takeUntil ..) fun name _ => .guard ?_
          exact .bind (.groupNamed name) fun _ _ => .bind (.referenceTo ..) fun _ _ => .pure trivial
        · -- Neither follows.
          exact .refuse
    · -- A group that is not remembered.
      exact .bind (readers.enclosed options) fun _ _ => .pure trivial
    · -- A comment, which has to end.
      refine .bind (.skipPast ..) fun _ _ => ?_
      split
      · exact .pure trivial
      · exact .refuse
    · -- A look ahead.
      exact .bind (readers.enclosed options) fun _ _ => .pure trivial
    · -- A look ahead that must fail.
      exact .bind (readers.enclosed options) fun _ _ => .pure trivial
    · -- A look behind, negated or not.
      refine .bind .isNegatedLook fun _ _ => .bind .get fun _ _ => ?_
      extract_lets outer
      refine .bind (.modify fun _ before => { before with }) fun _ _ => ?_
      refine .bind (readers.alternatives options false) fun _ _ => ?_
      extract_lets body looked
      refine .bind (.modify fun _ before => { before with }) fun _ _ =>
        .bind (.demand ')') fun _ _ => ?_
      split
      · exact .bind (.modify fun _ before => { before with }) fun _ _ => .pure trivial
      · exact .pure trivial
    · -- A choice by whether a group has matched.
      refine .bind (.choiceGroup _) fun _ _ =>
        .bind (readers.items options false nofun) fun _ _ => ?_
      refine .bind (.accept '|') fun _ _ => ?_
      extract_lets closed
      have closes (absent : List Item) : Keeps pattern (closed absent) fun _ => True :=
        .bind .peek fun _ _ => .guard (.bind (.demand ')') fun _ _ => .pure trivial)
      split
      · exact .bind (readers.items options false nofun) fun absent _ => closes absent
      · exact .pure_bind (closes [])
    · -- A group that is taken as a whole.
      exact .bind (readers.enclosed options) fun _ _ => .pure trivial
    · -- Options for the rest of the pattern, or for a group.
      refine .guard (.bind (.groupOptions _ asks (plain _ rfl)) fun _ _ => ?_)
      split
      · split
        · exact .pure trivial
        · exact .refuse
      · exact .bind (readers.enclosed _) fun _ _ => .pure trivial
    · -- Neither of these.
      exact .refuse

theorem items_succ (readers : Readers pattern fuel) (options : Options) (top : Bool)
    {found : List Item} (opens : ∀ item ∈ found, Opens pattern item.nodes) :
    Keeps pattern (items (fuel + 1) options top found)
      fun found => ∀ item ∈ found, Opens pattern item.nodes := by
  unfold Regex.items
  have item {node : Node} (ungrouped : node.hasGroup = false) (member : Item)
      (inside : member ∈ Item.single node :: found) : Opens pattern member.nodes := by
    rcases List.mem_cons.mp inside with rfl | inside
    · exact opens_single fun grouped => nomatch ungrouped.symm.trans grouped
    · exact opens member inside
  have repeated (least : Nat) (most : Option Nat) := Keeps.repeatLast options least most opens
  have goOn {found : List Item} := @readers.items options top found
  refine .bind .peek fun mark plain => ?_
  split
  · exact .pure opens
  · exact .pure opens
  · exact .pure opens
  · -- The sequence goes on.
    refine .bind .next fun _ _ => ?_
    split
    · exact .refuse
    · -- An escape opens no group.
      exact .bind (.escapeNode options _) fun _ ungrouped => goOn (item ungrouped)
    · split
      · exact goOn opens
      split
      · exact .bind (.skipPast ..) fun _ _ => goOn opens
      split
      · exact .bind (.accept '^') fun _ _ => .bind (.setMembers ..) fun _ _ => goOn (item rfl)
      · exact .bind (repeated ..) fun _ opens => goOn opens
      · exact .bind (repeated ..) fun _ opens => goOn opens
      · exact .bind (repeated ..) fun _ opens => goOn opens
      · -- A brace that starts no bounds stands for itself.
        extract_lets literal
        refine .bind .peek fun _ _ => ?_
        split
        · exact goOn (item rfl)
        · refine .bind (.bracedBounds _ (plain _ rfl)) fun _ _ => ?_
          split
          · exact goOn (item rfl)
          · exact .bind (repeated ..) fun _ opens => goOn opens
      · exact goOn (item rfl)
      · exact goOn (item rfl)
      · exact goOn (item rfl)
      · -- A group has a parenthesis.
        have paren : '(' ∈ pattern := plain _ rfl
        refine .bind (readers.parenthesis options top _ paren) fun _ _ => ?_
        split
        · exact goOn (List.forall_mem_cons.mpr ⟨fun _ => paren, opens⟩)
        · refine .bind .get fun _ _ => ?_
          extract_lets whole
          exact readers.items _ top opens
      · exact goOn (item rfl)

/-- With any fuel the readers keep what they must. -/
theorem readers (fuel : Nat) : Readers pattern fuel := by
  induction fuel with
  | zero =>
    -- Without fuel each of them refuses the pattern.
    constructor <;> intros <;> exact .refuse
  | succ fuel ih =>
    exact ⟨alternatives_succ ih, moreAlternatives_succ ih, items_succ ih, parenthesis_succ ih,
      enclosed_succ ih, capture_succ ih⟩

end Keeps

end AccessControl.Regex
