import AccessControl.Time.Calendar
import AccessControl.Text.Trim

/-! Moments read from dates and times in the international format, and windows of time. -/

namespace AccessControl.Time

/-- A moment as microseconds since the start of year one in universal time. -/
abbrev Moment := Int

/-- The octets of a written moment, with a zero wherever reading goes past them. -/
structure Octets where
  octets : Array Char

/-- The octet at a position. -/
def Octets.octet (text : Octets) (position : Nat) : Char :=
  text.octets[position]?.getD '\x00'

/-- The octet at a position is a digit. -/
def Octets.digitAt (text : Octets) (position : Nat) : Bool :=
  Text.isAsciiDigit (text.octet position)

/-- The number written in exactly the given count of digits from a position on. -/
def Octets.number? (text : Octets) (position : Nat) : Nat → Option Nat
  | 0 => some 0
  | count + 1 => do
    let front ← text.number? position count
    let c := text.octet (position + count)
    if Text.isAsciiDigit c then some (10 * front + Text.asciiDigitValue c) else none

/-- The position of the first octet, from the given one on, that is not a digit. -/
def Octets.skipDigits (text : Octets) : Nat → Nat → Nat
  | 0, position => position
  | fuel + 1, position =>
    if text.digitAt position then text.skipDigits fuel (position + 1) else position

/-- The position at which the date ends, by the form of the date. -/
def Octets.dateEnd (text : Octets) : Nat :=
  let size := text.octets.size
  if size == 7 then 7
  else if text.octet 4 == '-' then
    if text.octet 5 == 'W' then
      if text.octet 8 == '-' && 9 < size then
        -- After a week comes the digit of a day, unless two digits start a time.
        if text.digitAt 10 && 10 < size then 8 else 10
      else if text.octet 8 == '-' && size == 9 then 9
      else 8
    else 10
  else if text.octet 4 == 'W' then
    let stop := min size (text.skipDigits (size - 7) 7)
    if stop < 9 then stop else if stop % 2 == 0 then 7 else 8
  else 8

/-- The number of the day that a date of the given size names. -/
def Octets.readDate? (text : Octets) (size : Nat) : Option Int := do
  let year ← text.number? 0 4
  let dashed := text.octet 4 == '-'
  let start := if dashed then 5 else 4
  if text.octet start == 'W' then
    let week ← text.number? (start + 1) 2
    let stop := start + 3
    if stop < size then
      if dashed && text.octet stop != '-' then none
      else
        let day ← text.number? (if dashed then stop + 1 else stop) 1
        dayOfWeek? year week day
    else dayOfWeek? year week 1
  else
    let month ← text.number? start 2
    if dashed && text.octet (start + 2) != '-' then none
    else
      let day ← text.number? (if dashed then start + 3 else start + 2) 2
      let date : Day := ⟨year, month, day⟩
      if date.isValid then some date.number else none

/-- The parts of a time of day or of an offset, and whether anything was left after them. -/
structure ClockTime where
  hour : Nat
  minute : Nat
  second : Nat
  microsecond : Nat
  trailing : Bool

/-- The fraction of a second from a position on; digits after the sixth are dropped. -/
def Octets.readFraction? (text : Octets) (position stop : Nat) (parts : List Nat) :
    Option ClockTime := do
  let count := min (stop - position) 6
  let digits ← text.number? position count
  let next := text.skipDigits text.octets.size (position + count)
  some
    { hour := parts.getD 0 0, minute := parts.getD 1 0, second := parts.getD 2 0
      microsecond := digits * Nat.pow 10 (6 - count)
      trailing := text.octet next != '\x00' }

/-- Two digits each for the hour, the minute and the second, as far as they go, then a fraction. -/
def Octets.readParts? (text : Octets) (stop : Nat) :
    Nat → Nat → Bool → List Nat → Option ClockTime
  | 0, position, _, parts => text.readFraction? position stop parts
  | left + 1, position, separated, parts => do
    let part ← text.number? position 2
    let parts := parts ++ [part]
    let mark := text.octet (position + 2)
    let next := position + 3
    -- The first mark decides whether colons stand between the parts.
    let separated := if parts.length == 1 then mark == ':' else separated
    if stop ≤ next then
      some
        { hour := parts.getD 0 0, minute := parts.getD 1 0, second := parts.getD 2 0
          microsecond := 0
          trailing := mark != '\x00' }
    else if separated && mark == ':' then text.readParts? stop left next separated parts
    else if mark == '.' || mark == ',' then text.readFraction? next stop parts
    else if !separated then text.readParts? stop left (next - 1) separated parts
    else none

/-- The microseconds of a time of day or of an offset. -/
def ClockTime.microseconds (t : ClockTime) : Nat :=
  ((t.hour * 60 + t.minute) * 60 + t.second) * 1000000 + t.microsecond

/-- The time names a moment of a day. -/
def ClockTime.isValid (t : ClockTime) : Bool :=
  t.hour < 24 && t.minute < 60 && t.second < 60

/-- The microseconds of a day. -/
def dayLength : Nat := 86400000000

/-- The position of the sign of an offset, or of the letter for universal time, if there is one. -/
def Octets.offsetMark (text : Octets) (start : Nat) : Nat :=
  let rest := text.octets.toList.drop start
  start + (rest.takeWhile fun c => c != '+' && c != '-' && c != 'Z').length

/-- The microseconds since the start of the day in universal time that a time with offset names. -/
def Octets.readTime? (text : Octets) (start : Nat) : Option Int := do
  let size := text.octets.size
  let mark := text.offsetMark start
  let clock ← text.readParts? mark 3 start true []
  if mark == size then
    if clock.trailing || !clock.isValid then none else some clock.microseconds
  else if !clock.isValid then none
  else if text.octet mark == 'Z' then
    if text.octet (mark + 1) == '\x00' then some clock.microseconds else none
  else
    let offset ← text.readParts? size 3 (mark + 1) true []
    if offset.trailing || dayLength ≤ offset.microseconds then none
    else if text.octet mark == '-' then some (clock.microseconds + offset.microseconds)
    else some (clock.microseconds - offset.microseconds)

/-- The number of octets of a character whose first octet is given. -/
def leadWidth (c : Char) : Nat :=
  if c.toNat < 0x80 then 1
  else if c.toNat < 0xe0 then 2
  else if c.toNat < 0xf0 then 3
  else 4

/-- A written moment; without an offset it is in universal time. -/
def Moment.read? (s : String) : Option Moment := do
  -- A letter for universal time is the same as an offset of zero wherever it stands.
  let trimmed := (Text.trimChars s.toList).flatMap fun c =>
    if c == 'Z' then "+00:00".toList else [c]
  let octets := (String.ofList trimmed).toUTF8.toList.map fun octet => Char.ofNat octet.toNat
  let text : Octets := ⟨octets.toArray⟩
  if trimmed.length < 7 then none
  else
    let stop := text.dateEnd
    let day ← text.readDate? stop
    if day < 1 || (3652059 : Int) < day then none
    else if stop < text.octets.size then
      let time ← text.readTime? (stop + leadWidth (text.octet stop))
      some ((day - 1) * dayLength + time)
    else some ((day - 1) * dayLength)

/-- The moment so many nanoseconds after the start of the year 1970. -/
def ofUnixNanoseconds (nanoseconds : Int) : Moment :=
  daysBeforeYear 1970 * dayLength + nanoseconds / 1000

/-- A bound of a window, where an underscore leaves the window open. -/
def boundHolds (test : Moment → Bool) (bound : String) : Bool :=
  bound == "_" ||
    match Moment.read? bound with
    | some moment => test moment
    | none => false

/-- The present lies in the window between two bounds, both of which belong to it. -/
def inWindow (now : Moment) (start stop : String) : Bool :=
  boundHolds (fun moment => moment ≤ now) start && boundHolds (fun moment => now ≤ moment) stop

end AccessControl.Time
