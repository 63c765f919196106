import SetuoraLite.Lib.Decimal

/-!
# Dates and instants

A `Date` is a day of the proleptic Gregorian calendar. An `Instant` is a moment in
UTC, counted in microseconds from the first instant of year 1, which makes the
arithmetic of deadlines the arithmetic of `Nat`. `isoDate` and `isoInstant` are
`isoformat()` of a `date` and of an aware UTC `datetime`.
-/

namespace Lib

/-- A calendar day. -/
structure Date where
  year : Nat
  month : Nat
  day : Nat
deriving DecidableEq

/-- `a < b` on days. -/
def Date.before (a b : Date) : Bool :=
  a.year < b.year ||
    (a.year == b.year && (a.month < b.month || (a.month == b.month && a.day < b.day)))

/-- Microseconds since 0001-01-01T00:00:00 UTC. -/
abbrev Instant := Nat

/-- A number of seconds. -/
def seconds (n : Nat) : Nat := n * 1000000

/-- `n` with zeros in front, `width` digits at least. -/
def padded (width n : Nat) : PyStr :=
  let ds := decDigits n
  List.replicate (width - ds.length) (digitChar 0) ++ ds

/-- A leap year. -/
def isLeap (y : Nat) : Bool := (y % 4 == 0 && y % 100 != 0) || y % 400 == 0

/-- The days of a month. -/
def daysInMonth (y m : Nat) : Nat :=
  if m = 2 then (if isLeap y then 29 else 28)
  else if m = 4 ∨ m = 6 ∨ m = 9 ∨ m = 11 then 30 else 31

/-- The days before the first of January of year `y`. -/
def daysBeforeYear (y : Nat) : Nat :=
  (y - 1) * 365 + (y - 1) / 4 - (y - 1) / 100 + (y - 1) / 400

/-- The days of the year before the first of month `m`. -/
def daysBeforeMonth (y m : Nat) : Nat :=
  ((List.range (m - 1)).map fun k => daysInMonth y (k + 1)).sum

/-- `date.toordinal()`. -/
def Date.toordinal (d : Date) : Nat :=
  daysBeforeYear d.year + daysBeforeMonth d.year d.month + d.day

/-- The month and day of day `d` of a year, counted from zero, starting at month `m`. -/
def monthDay (y d : Nat) : Nat → Nat → Nat × Nat
  | 0, m => (m, d + 1)
  | fuel + 1, m =>
    if d < daysInMonth y m then (m, d + 1)
    else monthDay y (d - daysInMonth y m) fuel (m + 1)

/-- The first year, from `y` on, that ends after day `n`. -/
def climbYears (n : Nat) : Nat → Nat → Nat
  | 0, y => y
  | fuel + 1, y => if daysBeforeYear (y + 1) ≤ n then climbYears n fuel (y + 1) else y

/-- The year that holds day `n`; 366-day years underestimate it by 21 at most. -/
def yearOfDay (n : Nat) : Nat := climbYears n 30 (n / 366 + 1)

/-- The day `n` days after 0001-01-01. -/
def dateOfDay (n : Nat) : Date :=
  let y := yearOfDay n
  let p := monthDay y (n - daysBeforeYear y) 11 1
  ⟨y, p.1, p.2⟩

/-- `date.isoformat()`. -/
def isoDate (d : Date) : PyStr :=
  padded 4 d.year ++ py "-" ++ padded 2 d.month ++ py "-" ++ padded 2 d.day

/-- `datetime.isoformat()` of an aware UTC `datetime`; a whole second prints no fraction. -/
def isoInstant (t : Instant) : PyStr :=
  let s := t / 1000000
  isoDate (dateOfDay (s / 86400)) ++ py "T" ++ padded 2 (s / 3600 % 24) ++ py ":" ++
    padded 2 (s / 60 % 60) ++ py ":" ++ padded 2 (s % 60) ++
    (if t % 1000000 = 0 then [] else py "." ++ padded 6 (t % 1000000)) ++ py "+00:00"

end Lib
