/-! Days of the calendar, counted from the first day of year one, weeks of a year, and days with a
time by the clock of some place or of none. -/

namespace AccessControl.Time

/-- A year of 366 days. -/
def isLeap (year : Nat) : Bool :=
  year % 4 == 0 && (year % 100 != 0 || year % 400 == 0)

/-- The number of days of a month. -/
def daysInMonth (year month : Nat) : Nat :=
  match month with
  | 2 => if isLeap year then 29 else 28
  | 4 | 6 | 9 | 11 => 30
  | _ => 31

/-- The number of days before a year. -/
def daysBeforeYear (year : Nat) : Nat :=
  let y := year - 1
  y * 365 + y / 4 - y / 100 + y / 400

/-- The number of days of a year before a month. -/
def daysBeforeMonth (year month : Nat) : Nat :=
  (List.range (month - 1)).foldr (fun m count => daysInMonth year (m + 1) + count) 0

/-- A day of the calendar, of a year from one to 9999. -/
structure Day where
  year : Nat
  month : Nat
  day : Nat
deriving Repr, DecidableEq

/-- The year, month and day name a day of the calendar. -/
def Day.isValid (d : Day) : Bool :=
  1 ≤ d.year && d.year ≤ 9999 && 1 ≤ d.month && d.month ≤ 12 && 1 ≤ d.day &&
    d.day ≤ daysInMonth d.year d.month

/-- The number of a day, where the first day of year one has number one. -/
def Day.number (d : Day) : Nat :=
  daysBeforeYear d.year + daysBeforeMonth d.year d.month + d.day

/-- The weekday of the first day of a year, where Monday is zero. -/
def firstWeekday (year : Nat) : Nat :=
  -- The first day of year one is a Monday.
  daysBeforeYear year % 7

/-- The number of the Monday of the week that holds the first Thursday of a year. -/
def firstMonday (year : Nat) : Int :=
  let first : Int := daysBeforeYear year + 1
  let monday := first - firstWeekday year
  if 3 < firstWeekday year then monday + 7 else monday

/-- The number of the day of a week of a year, if the year has that week. -/
def dayOfWeek? (year week day : Nat) : Option Int :=
  let hasLast := firstWeekday year == 3 || (firstWeekday year == 2 && isLeap year)
  if year < 1 || 9999 < year then none
  else if week < 1 || 53 < week || (week == 53 && !hasLast) then none
  else if day < 1 || 7 < day then none
  else some (firstMonday year + ((week - 1) * 7 + (day - 1) : Nat))

/-! ### Times of a day -/

/-- A day and a time of it. The offset of the clock from universal time is in minutes. -/
structure Stamp where
  date : Day
  hour : Nat
  minute : Nat
  second : Nat
  microsecond : Nat
  offset? : Option Int
deriving Repr, DecidableEq

/-- The microseconds that a clock has counted since the first day of year one. -/
def Stamp.microseconds (stamp : Stamp) : Nat :=
  (((stamp.date.number * 24 + stamp.hour) * 60 + stamp.minute) * 60 + stamp.second) * 1000000 +
    stamp.microsecond

/-- The stamps are of one moment; with an offset and without one they never are. -/
def Stamp.isAt (a b : Stamp) : Bool :=
  match a.offset?, b.offset? with
  | none, none => a.microseconds == b.microseconds
  | some p, some q =>
    (a.microseconds : Int) - p * 60000000 == (b.microseconds : Int) - q * 60000000
  | _, _ => false

/-- What is wrong with a day, if anything is. -/
def Day.fault? (date : Day) : Option String :=
  if date.year == 0 then some "year 0 is out of range"
  else if date.month < 1 || 12 < date.month then some "month must be in 1..12"
  else if date.day < 1 || daysInMonth date.year date.month < date.day then
    some "day is out of range for month"
  else none

/-- What is wrong with a stamp of a valid offset, if anything is. -/
def Stamp.fault? (stamp : Stamp) : Option String :=
  match stamp.date.fault? with
  | some fault => some fault
  | none =>
    if 24 ≤ stamp.hour then some "hour must be in 0..23"
    else if 60 ≤ stamp.minute then some "minute must be in 0..59"
    else if 60 ≤ stamp.second then some "second must be in 0..59"
    else none

end AccessControl.Time
