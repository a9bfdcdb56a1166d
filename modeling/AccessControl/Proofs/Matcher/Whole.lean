import AccessControl.Matcher.Evaluation
import AccessControl.Proofs.Decimal.Rounding
import AccessControl.Proofs.Value.Host

/-! Clauses between whole numbers compare the doubles nearest to them, so they tell apart exactly
the numbers that have different ones. -/

namespace AccessControl

open Double (limit rounded)

/-- The inequality holds between two whole numbers. -/
def Inequality.relates : Inequality → Int → Int → Bool
  | .atLeast, i, j => j ≤ i
  | .atMost, i, j => i ≤ j
  | .above, i, j => j < i
  | .below, i, j => i < j

/-- An inequality that is asked of the order of two whole numbers is asked of the numbers. -/
theorem Inequality.holds_compare (symbol : Inequality) (i j : Int) :
    symbol.holds (some (compare i j)) = symbol.relates i j := by
  rw [Bool.eq_iff_iff]
  cases symbol with
  -- Each sign holds of the order of the numbers as it is read.
  | atLeast => simp [holds, relates, compare_ge_iff_ge]
  | atMost => simpa [holds, relates] using compare_le_iff_le
  | above => simpa [holds, relates] using compare_gt_iff_gt
  | below => simpa [holds, relates] using compare_lt_iff_lt

/-- Numbers that are not rounded to one value are related as their values are. -/
theorem Inequality.relates_rounded {i j : Int} (apart : rounded i = rounded j → i = j)
    (symbol : Inequality) : symbol.relates (rounded i) (rounded j) = symbol.relates i j := by
  have upward := Double.rounded_le_iff apart
  have downward := Double.rounded_le_iff fun same => (apart same.symm).symm
  cases symbol <;> simp only [relates, ← Int.not_le, upward, downward]

namespace Value

/-- A whole number that is not too large is read as the double nearest to it. -/
theorem toNumeric_int {i : Int} (within : i.natAbs < limit) :
    ∃ x, toNumeric (.int i) = .double x ∧ x.HasValue (rounded i) := by
  obtain ⟨x, made, value⟩ := Double.ofInt?_hasValue within
  exact ⟨x, by simp only [toNumeric, made], value⟩

variable {runtime : Runtime} {i j : Int}

/-- Two whole numbers are equal if they are rounded to one value. -/
theorem looselyEqual_int (left : i.natAbs < limit) (right : j.natAbs < limit) :
    looselyEqual (.int i) (.int j) = .ok (decide (rounded i = rounded j)) := by
  -- A number has no levels, so the stack does not end.
  have together : Runtime.comparing (.int i) (.int j) = none :=
    comparing_of_depth (.inl (Nat.zero_le _))
  by_cases same : i = j
  · -- Equal numbers are equal as they are.
    have alike : equal (.int i) (.int j) = true := by simp [equal, equalScalar, same]
    simp only [looselyEqual, together, alike, if_true]
    simp [same]
  · -- Numbers that differ are compared once more as doubles.
    obtain ⟨x, readLeft, valueLeft⟩ := toNumeric_int left
    obtain ⟨y, readRight, valueRight⟩ := toNumeric_int right
    have ordered := Double.compare?_of_hasValue valueLeft valueRight
    have differ : equal (.int i) (.int j) = false := by simpa [equal, equalScalar] using same
    simp only [looselyEqual, together, differ, isNumber, readLeft, readRight, Double.equal, ordered]
    simp [beq_eq_decide]

/-- An inequality holds between two whole numbers if it holds between their rounded values. -/
theorem related_int (symbol : Inequality) (left : i.natAbs < limit) (right : j.natAbs < limit) :
    related symbol (.int i) (.int j) = .ok (symbol.relates (rounded i) (rounded j)) := by
  obtain ⟨x, readLeft, valueLeft⟩ := toNumeric_int left
  obtain ⟨y, readRight, valueRight⟩ := toNumeric_int right
  have ordered := Double.compare?_of_hasValue valueLeft valueRight
  simp only [related, order, readLeft, readRight, ordered, Except.map, symbol.holds_compare]

end Value

/-- All clauses between two operands have the answers that two whole numbers give. -/
structure ComparesAs (environment : Environment) (lhs rhs : Operand) (i j : Int) : Prop where
  equation : Clause.holds environment (.equation lhs rhs false) = .ok (decide (i = j))
  difference : Clause.holds environment (.equation lhs rhs true) = .ok (decide (i ≠ j))
  inequality : ∀ symbol,
    Clause.holds environment (.inequality symbol lhs rhs) = .ok (symbol.relates i j)

/-- Clauses between two whole numbers that doubles reach have the answers that the nearest values of
doubles give. These are the answers of the numbers themselves exactly if different numbers have
different nearest values, and so whenever one of them is less than `2 ^ 53` in size. -/
theorem comparesAs_rounded {environment : Environment} {lhs rhs : Operand} {i j : Int}
    (left : lhs.evaluate environment = .ok (.int i))
    (right : rhs.evaluate environment = .ok (.int j))
    (withinLeft : i.natAbs < limit) (withinRight : j.natAbs < limit) :
    ComparesAs environment lhs rhs (rounded i) (rounded j) ∧
      (ComparesAs environment lhs rhs i j ↔ (rounded i = rounded j → i = j)) ∧
      (i.natAbs < 2 ^ 53 ∨ j.natAbs < 2 ^ 53 → ComparesAs environment lhs rhs i j) := by
  have rounds : ComparesAs environment lhs rhs (rounded i) (rounded j) := by
    constructor
    · -- An equation compares the rounded numbers.
      simp [Clause.holds, left, right, Value.looselyEqual_int withinLeft withinRight]
    · -- And so does a difference.
      simp [Clause.holds, left, right, Value.looselyEqual_int withinLeft withinRight]
    · -- And so does every inequality.
      intro symbol
      simp [Clause.holds, left, right, Value.related_int symbol withinLeft withinRight]
  have exactly : ComparesAs environment lhs rhs i j ↔ (rounded i = rounded j → i = j) := by
    constructor
    · -- An equation that holds of the rounded values holds of the numbers.
      intro compares same
      have answers := rounds.equation.symm.trans compares.equation
      simpa [same] using answers
    · -- Where rounding keeps the numbers apart it changes no answer.
      intro apart
      have same : rounded i = rounded j ↔ i = j := ⟨apart, congrArg rounded⟩
      exact ⟨by simpa only [same] using rounds.equation, by
        simpa only [ne_eq, same] using rounds.difference,
        fun symbol => by simpa only [symbol.relates_rounded apart] using rounds.inequality symbol⟩
  exact ⟨rounds, exactly, fun small => exactly.mpr fun same => Double.eq_of_rounded_eq same small⟩

/-- A request with one whole number and a rule with another one. -/
def numbered (requested ruled : Int) : Environment where
  function? _ := none
  scope := Scope.ofRow "r" ⟨["id"], [.int requested]⟩ "p" ⟨["id"], [.int ruled]⟩

/-- The number of the request, or of the rule. -/
def numberOf (schema : String) : Operand := .plain (.field ⟨schema, "id", []⟩)

/-- Beyond `2 ^ 53` a number that is no value of a double is told apart from the one after it, which
is. -/
theorem comparesAs_rounded_beyond :
    (numberOf "r").evaluate (numbered 9007199254740993 9007199254740994) =
      .ok (.int 9007199254740993) ∧
      (numberOf "p").evaluate (numbered 9007199254740993 9007199254740994) =
        .ok (.int 9007199254740994) ∧
      Int.natAbs 9007199254740993 < limit ∧ Int.natAbs 9007199254740994 < limit ∧
      rounded 9007199254740993 = 9007199254740992 ∧ rounded 9007199254740994 = 9007199254740994 ∧
      ComparesAs (numbered 9007199254740993 9007199254740994) (numberOf "r") (numberOf "p")
        9007199254740993 9007199254740994 := by
  have left : (numberOf "r").evaluate (numbered 9007199254740993 9007199254740994) =
      .ok (.int 9007199254740993) := rfl
  have right : (numberOf "p").evaluate (numbered 9007199254740993 9007199254740994) =
      .ok (.int 9007199254740994) := rfl
  have withinLeft : Int.natAbs 9007199254740993 < limit := by decide +kernel
  have withinRight : Int.natAbs 9007199254740994 < limit := by decide +kernel
  have odd : rounded 9007199254740993 = 9007199254740992 := by decide +kernel
  have even : rounded 9007199254740994 = 9007199254740994 := by decide +kernel
  refine ⟨left, right, withinLeft, withinRight, odd, even, ?_⟩
  obtain ⟨_, exactly, _⟩ := comparesAs_rounded left right withinLeft withinRight
  exact exactly.mpr (by rw [odd, even]; decide)

/-- A number of `54` binary digits is equal to the one before it, which is the double nearest to
it. -/
theorem equal_neighbours :
    (numberOf "r").evaluate (numbered 9007199254740993 9007199254740992) =
      .ok (.int 9007199254740993) ∧
      (numberOf "p").evaluate (numbered 9007199254740993 9007199254740992) =
        .ok (.int 9007199254740992) ∧
      Int.natAbs 9007199254740993 < limit ∧ Int.natAbs 9007199254740992 < limit ∧
      Clause.holds (numbered 9007199254740993 9007199254740992)
        (.equation (numberOf "r") (numberOf "p") false) = .ok true ∧
      ¬ ComparesAs (numbered 9007199254740993 9007199254740992) (numberOf "r") (numberOf "p")
        9007199254740993 9007199254740992 := by
  have left : (numberOf "r").evaluate (numbered 9007199254740993 9007199254740992) =
      .ok (.int 9007199254740993) := rfl
  have right : (numberOf "p").evaluate (numbered 9007199254740993 9007199254740992) =
      .ok (.int 9007199254740992) := rfl
  have withinLeft : Int.natAbs 9007199254740993 < limit := by decide +kernel
  have withinRight : Int.natAbs 9007199254740992 < limit := by decide +kernel
  have same : rounded 9007199254740993 = rounded 9007199254740992 := by decide +kernel
  have equal : Clause.holds (numbered 9007199254740993 9007199254740992)
      (.equation (numberOf "r") (numberOf "p") false) = .ok true := by
    simp [Clause.holds, left, right, Value.looselyEqual_int withinLeft withinRight, same]
  refine ⟨left, right, withinLeft, withinRight, equal, fun compares => ?_⟩
  have answers := equal.symm.trans compares.equation
  simp at answers

end AccessControl
