import QueryOptions.Calendar.Date
import QueryOptions.Decimal.Digits

/-!
Instants and their text. An instant is a count of seconds since the first of
January 1970 and of nanoseconds on top; a leap second is the second before it
with a thousand million nanoseconds more.

The text of an instant is its date and time in UTC down to the millisecond.
-/

namespace QueryOptions.Calendar

structure Instant where
  seconds : Int
  nanos : Nat
  deriving DecidableEq, Repr, Inhabited

/-- What a clock shows that stands `offset` seconds east of UTC. -/
structure ZonedTime where
  localSeconds : Int
  nanos : Nat
  offset : Int
  deriving DecidableEq, Repr

def Instant.seenAt (i : Instant) (offset : Int) : ZonedTime :=
  ⟨i.seconds + offset, i.nanos, offset⟩

def ZonedTime.instant (z : ZonedTime) : Instant := ⟨z.localSeconds - z.offset, z.nanos⟩

@[simp] theorem instant_seenAt (i : Instant) (offset : Int) : (i.seenAt offset).instant = i := by
  simp [Instant.seenAt, ZonedTime.instant]

def secondsPerDay : Int := 86400

def nanosPerSecond : Nat := 1000000000

/-- Four digits for the years 0 to 9999; the others have a sign and at least four digits. -/
def yearText (year : Int) : String :=
  if 0 ≤ year ∧ year ≤ 9999 then Decimal.paddedText 4 year.toNat
  else (if year < 0 then "-" else "+") ++ Decimal.paddedText 4 year.natAbs

namespace Instant

def date (i : Instant) : Date := Date.ofDayNumber (i.seconds / secondsPerDay + epochDay)

def secondOfDay (i : Instant) : Nat := (i.seconds % secondsPerDay).toNat

def text (i : Instant) : String :=
  let date := i.date
  let second := i.secondOfDay
  yearText date.year ++ "-" ++ Decimal.paddedText 2 date.month ++ "-" ++
    Decimal.paddedText 2 date.day ++ "T" ++
    Decimal.paddedText 2 (second / 3600) ++ ":" ++ Decimal.paddedText 2 (second / 60 % 60) ++ ":" ++
    Decimal.paddedText 2 (second % 60 + i.nanos / nanosPerSecond) ++ "." ++
    Decimal.paddedText 3 (i.nanos % nanosPerSecond / 1000000) ++ "Z"

end Instant

end QueryOptions.Calendar
