import AccessControl.Enforcer.Management
import AccessControl.Proofs.Decision.Stopping
import AccessControl.Proofs.Matcher.Failure

/-! What a matcher cannot be evaluated for stays with its row, unless it compares values that cannot
be compared. -/

namespace AccessControl

namespace Inquiry

variable {inquiry : Inquiry}

/-- A row is contained unless values are compared in it that cannot be. -/
theorem contains_of_fits {rule : Rule}
    (fits : ∀ error, ¬ inquiry.matcher.ComparisonFails (inquiry.environment rule) error) :
    inquiry.Contains rule := by
  intro error failed
  rcases Matcher.holds_error failed with fails | compared
  · -- The matcher fails by an error that is contained.
    exact fails.ofMatcher
  · -- No comparison fails.
    exact absurd compared (fits error)

end Inquiry

/-! ### Decisions -/

namespace Enforcer

end Enforcer

end AccessControl
