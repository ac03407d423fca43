/-!
The proleptic Gregorian calendar. Days are numbered from the first of January
of the year zero; years run over all integers, and year zero is a leap year.
-/

namespace QueryOptions.Calendar

def isLeapYear (year : Int) : Bool :=
  year % 4 = 0 && (year % 100 ≠ 0 || year % 400 = 0)

/-- The number of days before the first of January of a year. -/
def daysBeforeYear (year : Int) : Int :=
  365 * year + (year + 3) / 4 - (year + 99) / 100 + (year + 399) / 400

/-- The lengths of the months in order. -/
def monthLengths (leap : Bool) : List Nat :=
  [31, if leap then 29 else 28, 31, 30, 31, 30, 31, 31, 30, 31, 30, 31]

def monthLength (year : Int) (month : Nat) : Nat :=
  (monthLengths (isLeapYear year)).getD (month - 1) 0

/-- A month and a day count from one. -/
structure Date where
  year : Int
  month : Nat
  day : Nat
  deriving DecidableEq, Repr

namespace Date

def valid (d : Date) : Bool :=
  1 ≤ d.month && d.month ≤ 12 && 1 ≤ d.day && d.day ≤ monthLength d.year d.month

def dayNumber (d : Date) : Int :=
  let daysBefore : Nat := ((monthLengths (isLeapYear d.year)).take (d.month - 1)).foldl (· + ·) 0
  daysBeforeYear d.year + daysBefore + d.day - 1

/-- The year that a day falls into: an estimate from the mean length of a
year is never off by more than one. -/
def yearOfDay (day : Int) : Int :=
  let estimate := day * 400 / 146097
  if day < daysBeforeYear estimate then estimate - 1
  else if daysBeforeYear (estimate + 1) ≤ day then estimate + 1
  else estimate

/-- Walks through months of the given lengths, starting with a numbered one. -/
def monthAndDay (month : Nat) : List Nat → Nat → Nat × Nat
  | [], rest => (month, rest + 1)
  | length :: lengths, rest =>
    if rest < length then (month, rest + 1) else monthAndDay (month + 1) lengths (rest - length)

def ofDayNumber (day : Int) : Date :=
  let year := yearOfDay day
  let (month, dayOfMonth) :=
    monthAndDay 1 (monthLengths (isLeapYear year)) (day - daysBeforeYear year).toNat
  ⟨year, month, dayOfMonth⟩

end Date

/-- The number of the first of January 1970. -/
def epochDay : Int := 719528

end QueryOptions.Calendar
