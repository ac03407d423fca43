import QueryOptions.Decimal.Binary64

/-!
Numbers in JSON texts. A number without point and exponent that fits 64 bits,
with or without sign, is a whole number; every other one is a binary floating
point number.

The latter is read from its leading digits, as many as fit 64 bits, and then
scaled by a power of ten. The digits, the power and the result are each
rounded, so the last place can differ from that of a single rounding.
-/

namespace QueryOptions.Json

inductive Number where
  | whole (n : Int)
  | float (x : Decimal.Binary64)
  deriving DecidableEq, Repr

def isDigit (c : Char) : Bool := '0' ≤ c && c ≤ '9'

/-- The number with its sign dropped, as significand and exponent of two. -/
def magnitude : Decimal.Binary64 → Nat × Int
  | .finite _ significand exponent => (significand, exponent)
  | _ => (0, 0)

/-- The greatest power of ten that a floating point number reaches. -/
def greatestPower : Nat := 308

def powerOfTen (k : Nat) : Nat × Int := magnitude (.ofDecimal false 1 k)

/-- A positive product or quotient, rounded. -/
def ratio (numerator denominator : Nat) (exponent : Int) : Decimal.Binary64 :=
  .ofRatio false (numerator * Decimal.twoTo exponent.toNat)
    (denominator * Decimal.twoTo (-exponent).toNat)

def timesPower (x : Decimal.Binary64) (k : Nat) : Decimal.Binary64 :=
  let (significand, exponent) := magnitude x
  let (power, shift) := powerOfTen k
  ratio (significand * power) 1 (exponent + shift)

def overPower (x : Decimal.Binary64) (k : Nat) : Decimal.Binary64 :=
  let (significand, exponent) := magnitude x
  let (power, shift) := powerOfTen k
  ratio significand power (exponent - shift)

/-- Division by a power of ten in steps of the greatest power; three steps
bring every number down to zero. -/
def shrink (steps : Nat) (x : Decimal.Binary64) (k : Nat) : Decimal.Binary64 :=
  if k ≤ greatestPower then overPower x k
  else match steps with
    | 0 => overPower x greatestPower
    | steps + 1 => shrink steps (overPower x greatestPower) (k - greatestPower)

/-- A significand times a power of ten; fails if that is beyond all finite numbers. -/
def scale? (significand : Nat) (exponent : Int) : Option Decimal.Binary64 :=
  let start := Decimal.Binary64.ofDecimal false significand 0
  if significand = 0 then some start
  else if exponent < 0 then some (shrink 3 start (-exponent).toNat)
  else if (greatestPower : Int) < exponent then none
  else
    let result := timesPower start exponent.toNat
    if result.isFinite then some result else none

/-- Appends digits to a number as long as it fits 64 bits, and counts them. -/
def absorb (value : Nat) : List Char → Nat × Nat
  | [] => (value, 0)
  | c :: rest =>
    let next := value * 10 + (c.toNat - '0'.toNat)
    if Decimal.greatestUnsigned < next then (value, 0)
    else
      let (total, count) := absorb next rest
      (total, count + 1)

/-- The digits at the front of a text, and the rest. -/
def spanDigits (text : List Char) : List Char × List Char :=
  (text.takeWhile isDigit, text.dropWhile isDigit)

/-- The digits before the point: a zero alone, or digits that start with another one. -/
def readWhole? (text : List Char) : Option (List Char × List Char) :=
  match spanDigits text with
  | ([], _) => none
  | ('0' :: _ :: _, _) => none
  | found => some found

/-- The digits after a point, none if there is no point. -/
def readPlaces? : List Char → Option (List Char × List Char)
  | '.' :: text =>
    match spanDigits text with
    | ([], _) => none
    | found => some found
  | text => some ([], text)

/-- The power of ten after an exponent mark; absent if there is no mark. -/
def readExponent? : List Char → Option (Option Int × List Char)
  | c :: text =>
    if c = 'e' ∨ c = 'E' then
      let (negative, unsigned) := Decimal.Binary64.takeSign text
      match spanDigits unsigned with
      | ([], _) => none
      | (found, rest) =>
        let value : Int := Decimal.valueOf 10 found
        some (some (if negative then -value else value), rest)
    else some (none, c :: text)
  | [] => some (none, [])

def signed (negative : Bool) : Decimal.Binary64 → Decimal.Binary64
  | .finite _ significand exponent => .finite negative significand exponent
  | other => other

/-- A whole number of 64 bits; negative zero and what does not fit are floating point numbers. -/
def ofWhole (negative : Bool) (n : Nat) : Number :=
  if !negative then .whole n
  else if n = 0 ∨ -(n : Int) < Decimal.leastSigned then .float (.ofDecimal true n 0)
  else .whole (-n)

/-- Takes a number off the front of a text. -/
def Number.read? (text : List Char) : Option (Number × List Char) := do
  let (negative, text) := match text with
    | '-' :: rest => (true, rest)
    | rest => (false, rest)
  let (found, text) ← readWhole? text
  let (value, count) := absorb 0 found
  let (places, afterPlaces) ← readPlaces? text
  let (exponent, rest) ← readExponent? afterPlaces
  if places.isEmpty && exponent.isNone && count = found.length then
    some (ofWhole negative value, rest)
  else
    let (value, placed) := absorb value places
    let x ← scale? value ((found.length : Int) - count - placed + exponent.getD 0)
    some (.float (signed negative x), rest)

end QueryOptions.Json
