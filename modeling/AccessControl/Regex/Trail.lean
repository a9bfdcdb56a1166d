import AccessControl.Regex.Node

/-! What an attempt to match leaves behind, whether it succeeds or not. -/

namespace AccessControl.Regex

/-- Where each group began and ended last, start and end in turn up to the last one set, and the
position at which the latest part of an attempt was started, or ended if it succeeded. -/
structure Trail where
  bounds : List (Option Nat)
  latest : Nat
deriving Repr, DecidableEq

/-- The trail before anything has been tried. -/
def Trail.start (position : Nat) : Trail := ⟨[], position⟩

/-- The trail after a part is started, or has ended, at a position. -/
def Trail.moveTo (trail : Trail) (position : Nat) : Trail :=
  { trail with latest := position }

/-- The trail with one bound of a group set; bounds before it that are missing are left open. -/
def Trail.setBound (trail : Trail) (index position : Nat) : Trail :=
  let missing := index + 1 - trail.bounds.length
  { trail with bounds := (trail.bounds ++ List.replicate missing none).set index (some position) }

/-- The start and the end of a group, counted from one, if both are set. -/
def Trail.bounds? (trail : Trail) (group : Nat) : Option (Nat × Nat) :=
  match trail.bounds[2 * group - 2]?, trail.bounds[2 * group - 1]? with
  | some (some start), some (some stop) => some (start, stop)
  | _, _ => none

/-- The span of a group that took part; one that ends before it starts did not. -/
def Trail.span? (trail : Trail) (group : Nat) : Option (Nat × Nat) :=
  match trail.bounds? group with
  | some (start, stop) => if start ≤ stop then some (start, stop) else none
  | none => none

/-- Some group ends before it starts. -/
def Trail.isCrossed (trail : Trail) : Bool :=
  (List.range (trail.bounds.length / 2)).any fun group =>
    match trail.bounds? (group + 1) with
    | some (start, stop) => stop < start
    | none => false

/-- The trail after an attempt failed. Within a loop all bounds are as they were before it;
elsewhere only those that were not set before are dropped. -/
def Trail.backTo (trail : Trail) (before : List (Option Nat)) (inLoop : Bool) : Trail :=
  { trail with bounds := if inLoop then before else trail.bounds.take before.length }

/-- Goes on from a position; says whether a match is found, and what is left behind. -/
abbrev Attempt := Nat → Trail → Bool × Trail

/-- Nothing is left to match. -/
def finish : Attempt := fun position trail => (true, trail.moveTo position)

end AccessControl.Regex
