import QueryOptions.Calendar.Instant
import QueryOptions.Decimal.Range
import QueryOptions.Text.Blank

/-!
Reading date-times as people write them: white space around the fields, one
digit for small fields, `T` or a blank between date and time, and an offset in
one of several spellings. A second field of sixty is a leap second.
-/

namespace QueryOptions.Calendar

/-- A reader takes a value off the front of a text. -/
abbrev FieldReader (α : Type) := List Char → Option (α × List Char)

def skipBlank (text : List Char) : List Char := text.dropWhile Text.isBlank

def isDigit (c : Char) : Bool := '0' ≤ c && c ≤ '9'

/-- Takes digits, as many as there are up to a limit and at least one. -/
def takeDigits (most : Nat) (text : List Char) : Option (List Char × List Char) :=
  let found := (text.take most).takeWhile isDigit
  if found.isEmpty then none else some (found, text.drop found.length)

/-- A number of one or two digits after white space. -/
def readField : FieldReader Nat := fun text =>
  (takeDigits 2 (skipBlank text)).map fun (found, rest) => (Decimal.valueOf 10 found, rest)

/-- A year of one to four digits, or of any length after a sign. -/
def readYear : FieldReader Int := fun text =>
  let signed (negative : Bool) (rest : List Char) :=
    (takeDigits rest.length rest).map fun (found, rest) =>
      let value : Int := Decimal.valueOf 10 found
      (if negative then -value else value, rest)
  match skipBlank text with
  | '-' :: rest => signed true rest
  | '+' :: rest => signed false rest
  | rest => (takeDigits 4 rest).map fun (found, rest) => ((Decimal.valueOf 10 found : Int), rest)

/-- Takes one given character after white space. -/
def readMark (mark : Char) (text : List Char) : Option (List Char) :=
  match skipBlank text with
  | c :: rest => if c = mark then some rest else none
  | [] => none

/-- The first nine digits after the point, as nanoseconds; more digits are dropped. -/
def readFraction (text : List Char) : Option (Nat × List Char) :=
  match text with
  | '.' :: rest =>
    (takeDigits rest.length rest).map fun (found, rest) =>
      let kept := found.take 9
      (Decimal.valueOf 10 kept * Decimal.tenTo (9 - kept.length), rest)
  | _ => some (0, text)

/-- Exactly two digits. -/
def readPair : FieldReader Nat
  | a :: b :: rest =>
    if isDigit a && isDigit b then some (Decimal.valueOf 10 [a, b], rest) else none
  | _ => none

/-- Hours and minutes east of UTC, in seconds. -/
def readShift (text : List Char) : Option (Nat × List Char) := do
  let (hours, rest) ← readPair text
  let (minutes, rest) ← readPair (rest.dropWhile fun c => c = ':' || Text.isBlank c)
  if minutes < 60 ∧ hours < 24 then some (hours * 3600 + minutes * 60, rest) else none

/-- The signs of an offset; the last is the typographic minus. -/
def readOffset (text : List Char) : Option (Int × List Char) :=
  match text with
  | '+' :: rest => (readShift rest).map fun (shift, rest) => ((shift : Int), rest)
  | '-' :: rest => (readShift rest).map fun (shift, rest) => (-(shift : Int), rest)
  | '\u2212' :: rest => (readShift rest).map fun (shift, rest) => (-(shift : Int), rest)
  | a :: b :: c :: rest =>
    if [a, b, c].map Char.toLower = ['u', 't', 'c'] then some (0, rest)
    else if a.toLower = 'z' then some (0, b :: c :: rest) else none
  | a :: rest => if a.toLower = 'z' then some (0, rest) else none
  | [] => none

/-- The first and the last year of the calendar. -/
def firstYear : Int := -262143

def lastYear : Int := 262142

def inCalendar (day : Int) : Bool :=
  daysBeforeYear firstYear ≤ day && day < daysBeforeYear (lastYear + 1)

def ZonedTime.read? (text : List Char) : Option ZonedTime := do
  let (year, rest) ← readYear text
  let (month, rest) ← readField (← readMark '-' rest)
  let (day, rest) ← readField (← readMark '-' rest)
  let rest ← match rest with
    | c :: rest => if c = 'T' || c = 't' || c = ' ' then some rest else none
    | [] => none
  let (hour, rest) ← readField rest
  let (minute, rest) ← readField (← readMark ':' rest)
  let (second, rest) ← readField (← readMark ':' rest)
  let (nanos, rest) ← readFraction rest
  let (offset, rest) ← readOffset (skipBlank rest)
  let date : Date := ⟨year, month, day⟩
  if !(skipBlank rest).isEmpty || !date.valid || year < firstYear || lastYear < year
      || 24 ≤ hour || 60 ≤ minute || 60 < second then none
  else
    let leap := second = 60
    let clock : Nat := hour * 3600 + minute * 60 + if leap then 59 else second
    let localSeconds := (date.dayNumber - epochDay) * secondsPerDay + clock
    let time : ZonedTime := ⟨localSeconds, if leap then nanosPerSecond + nanos else nanos, offset⟩
    if inCalendar (time.instant.seconds / secondsPerDay + epochDay) then some time else none

end QueryOptions.Calendar
