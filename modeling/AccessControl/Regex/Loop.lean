import AccessControl.Regex.Trail

/-! Repetition in the search for a match: rounds of an expression, and runs of a test. -/

namespace AccessControl.Regex

/-- One more round of a repetition is allowed after the given number of them. -/
def mayRepeat (most : Option Nat) (count : Nat) : Bool :=
  match most with
  | some most => count < most
  | none => true

/-- How an expression is attempted: before what goes on after it. -/
abbrev Body := Attempt → Attempt

/-- Rounds of an expression, as many as possible. A round that moves nothing is the last one. -/
def greedyRounds (body : Body) (least : Nat) (most : Option Nat) (after : Attempt) :
    Nat → Nat → Option Nat → Attempt
  | 0, _, _, _, trail => (false, trail)
  | fuel + 1, count, last, position, trail =>
    let trail := trail.moveTo position
    if count < least then
      let (found, left) :=
        body (greedyRounds body least most after fuel (count + 1) last) position trail
      if found then (true, left) else (false, left.moveTo position)
    else
      let onward :=
        if mayRepeat most count && last != some position then
          let (found, left) :=
            body (greedyRounds body least most after fuel (count + 1) (some position))
              position trail
          if found then (true, left) else (false, (left.backTo trail.bounds true).moveTo position)
        else (false, trail)
      if onward.1 then onward
      else
        let (found, left) := after position onward.2
        if found then (true, left) else (false, left.moveTo position)

/-- Rounds of an expression, as few as possible. A round that moves nothing is the last one. -/
def lazyRounds (body : Body) (least : Nat) (most : Option Nat) (inLoop : Bool) (after : Attempt) :
    Nat → Nat → Option Nat → Attempt
  | 0, _, _, _, trail => (false, trail)
  | fuel + 1, count, last, position, trail =>
    let trail := trail.moveTo position
    let onward (last : Option Nat) (trail : Trail) :=
      let (found, left) :=
        body (lazyRounds body least most inLoop after fuel (count + 1) last) position trail
      if found then (true, left) else (false, left.moveTo position)
    if count < least then onward last trail
    else
      let (found, left) := after position trail
      if found then (true, left)
      else
        let left := (left.backTo trail.bounds inLoop).moveTo position
        if mayRepeat most count && last != some position then onward (some position) left
        else (false, left)

/-- Rounds that must take place, each in the first way that there is; nothing if one fails. -/
def neededRounds (body : Body) : Nat → Trail → Bool × Trail
  | 0, trail => (true, trail)
  | count + 1, trail =>
    let (found, left) := body finish trail.latest trail
    if found then neededRounds body count left else (false, left)

/-- Rounds that may take place, up to a number of them, each in the first way that there is.
A round that fails is undone, but what follows goes on where its latest part was started. -/
def heldRounds (body : Body) : Nat → Option Nat → Option Nat → Trail → Trail
  | 0, _, _, trail => trail
  | fuel + 1, most, last, trail =>
    if most == some 0 || last == some trail.latest then trail
    else
      let (found, left) := body finish trail.latest trail
      if found then heldRounds body fuel (most.map (· - 1)) (some trail.latest) left
      else left.backTo trail.bounds true

/-- Rounds of an expression that give nothing back. -/
def possessiveRounds (body : Body) (fuel least : Nat) (most : Option Nat)
    (after : Attempt) : Attempt :=
  fun position trail =>
    let (found, left) := neededRounds body least (trail.moveTo position)
    if found then
      let left := heldRounds body fuel (most.map (· - least)) none left
      after left.latest left
    else (false, left.moveTo position)

/-- The text in which a match is searched has the code point at a position. -/
def isAt (text : Array Char) (point position : Nat) : Bool :=
  match text[position]? with
  | some c => c.toNat == point
  | none => false

/-- How many characters from a position on pass the test, up to a number of them. -/
def runLength (text : Array Char) (test : CharTest) : Nat → Nat → Nat
  | 0, _ => 0
  | most + 1, position =>
    match text[position]? with
    | some c => if test.holds c then runLength text test most (position + 1) + 1 else 0
    | none => 0

/-- The length of a run, and the trail after it: a set that folds case is tried at each
character. -/
def measureRun (text : Array Char) (test : CharTest) (most : Option Nat) (position : Nat)
    (trail : Trail) : Nat × Trail :=
  let left := text.size - position
  let length := runLength text test (min left (most.getD left)) position
  (length, trail.moveTo (if test.isFoldedSet then position + length else position))

/-- Goes on after a run, if what comes next can follow it there. -/
def afterRun (text : Array Char) (inLoop : Bool) (next : Option Nat) (after : Attempt)
    (before : List (Option Nat)) (position : Nat) (trail : Trail) : Bool × Trail :=
  if next.all fun point => isAt text point position then
    let (found, left) := after position (trail.moveTo position)
    if found then (true, left) else (false, left.backTo before inLoop)
  else (false, trail)

/-- Shorter and shorter runs, from the given number of characters above the least length. -/
def giveBack (goOn : Attempt) (shortest : Nat) : Nat → Trail → Bool × Trail
  | 0, trail => goOn shortest trail
  | extra + 1, trail =>
    let (found, left) := goOn (shortest + (extra + 1)) trail
    if found then (true, left) else giveBack goOn shortest extra left

/-- Longer and longer runs, up to a number of characters above the least length. -/
def takeMore (text : Array Char) (test : CharTest) (goOn : Attempt) (most : Option Nat) :
    Nat → Nat → Nat → Trail → Bool × Trail
  | 0, _, _, trail => (false, trail)
  | fuel + 1, count, position, trail =>
    if most.all (count ≤ ·) then
      let (found, left) := goOn position trail
      if found then (true, left)
      else
        let (length, left) := measureRun text test (some 1) position (left.moveTo position)
        if length == 0 then (false, left)
        else takeMore text test goOn most fuel (count + 1) (position + 1) left
    else (false, trail)

/-- A repetition of a test on single characters. -/
def runs (text : Array Char) (test : CharTest) (least : Nat) (most : Option Nat) (greed : Greed)
    (inLoop : Bool) (next : Option Nat) (after : Attempt) : Attempt :=
  fun position trail =>
    let left := text.size - position
    if left < least then (false, trail)
    else
      match greed with
      | .greedy =>
        let (length, trail) := measureRun text test most position trail
        if length < least then (false, trail)
        else
          giveBack (afterRun text inLoop next after trail.bounds) (position + least)
            (length - least) trail
      | .lazy =>
        let (length, trail) :=
          if least == 0 then (0, trail.moveTo position)
          else measureRun text test (some least) position trail
        if length < least then (false, trail)
        else
          takeMore text test (afterRun text inLoop none after trail.bounds) most (left + 1) least
            (position + least) trail
      | .possessive =>
        let (length, trail) := measureRun text test most position trail
        if length < least then (false, trail) else after (position + length) trail

end AccessControl.Regex
