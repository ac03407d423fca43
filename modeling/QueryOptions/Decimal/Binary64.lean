import QueryOptions.Decimal.Scaled
import QueryOptions.Decimal.Shortest
import QueryOptions.Text.Ascii

/-!
Binary floating point numbers of 64 bits, as the exact numbers they stand for.
A finite one is `significand * 2 ^ exponent` with its sign kept apart, so that
negative zero exists.

Decimal text is rounded to the nearest such number, a half to the even one;
the way back is the shortest decimal that rounds to the number again.
-/

namespace QueryOptions.Decimal

inductive Binary64 where
  | nan
  | infinity (negative : Bool)
  | finite (negative : Bool) (significand : Nat) (exponent : Int)
  deriving DecidableEq, Repr, Inhabited

namespace Binary64

/-- The exponent of the smallest positive number. -/
def leastExponent : Int := -1074

/-- The exponent of the largest finite number. -/
def greatestExponent : Int := 971

/-- Reads the sign, exponent and fraction fields of a 64-bit pattern. -/
def ofBits (bits : Nat) : Binary64 :=
  let negative := bits / twoTo 63 % 2 = 1
  let biased : Nat := bits / twoTo 52 % twoTo 11
  let fraction : Nat := bits % twoTo 52
  if biased = 2047 then (if fraction = 0 then .infinity negative else .nan)
  else if biased = 0 then .finite negative fraction leastExponent
  else .finite negative (twoTo 52 + fraction) ((biased : Int) - 1075)

/-- Division to the nearest whole number, a half to the even one. -/
def divideToEven (numerator denominator : Nat) : Nat :=
  let below := numerator / denominator
  let rest := numerator % denominator
  if 2 * rest < denominator then below
  else if denominator < 2 * rest then below + 1
  else if below % 2 = 0 then below else below + 1

/-- The number nearest to `numerator / denominator`. -/
def ofRatio (negative : Bool) (numerator denominator : Nat) : Binary64 :=
  if numerator = 0 then .finite negative 0 leastExponent
  else
    let estimate : Int := (numerator.log2 : Int) - denominator.log2 - 53
    let onGrid (e : Int) : Nat × Nat := (numerator * twoTo (-e).toNat, denominator * twoTo e.toNat)
    let (wideNumerator, wideDenominator) := onGrid estimate
    let exact := if wideNumerator / wideDenominator < twoTo 53 then estimate else estimate + 1
    let exponent := max exact leastExponent
    let (n, d) := onGrid exponent
    let significand := divideToEven n d
    let (significand, exponent) :=
      if significand = twoTo 53 then (twoTo 52, exponent + 1) else (significand, exponent)
    if greatestExponent < exponent then .infinity negative
    else .finite negative significand exponent

/-- Decimal exponents beyond this many places decide the result alone. -/
def farAway : Int := 400

/-- The number nearest to `coefficient * 10 ^ exponent`. -/
def ofDecimal (negative : Bool) (coefficient : Nat) (exponent : Int) : Binary64 :=
  let top := exponent + (digits coefficient).length
  if coefficient = 0 ∨ top < -farAway then .finite negative 0 leastExponent
  else if farAway < top then .infinity negative
  else ofRatio negative (coefficient * tenTo exponent.toNat) (tenTo (-exponent).toNat)

/-- Splits off a leading sign; true stands for minus. -/
def takeSign : List Char → Bool × List Char
  | '-' :: rest => (true, rest)
  | '+' :: rest => (false, rest)
  | text => (false, text)

/-- Reads digits with an optional point and an optional exponent; the point
may stand first or last as long as there is a digit. -/
def readMagnitude? (negative : Bool) (text : List Char) : Option Binary64 := do
  let (base, exponentText) := Scaled.splitFirst (fun c => c = 'e' || c = 'E') text
  let exponent ← match exponentText with
    | none => some 0
    | some e => readInt? e
  let (whole, fraction) := Scaled.splitFirst (· = '.') base
  let places := fraction.getD []
  let value ← readNat? 10 (whole ++ places)
  some (ofDecimal negative value (exponent - places.length))

/-- Reads a signed number, an infinity or a not-a-number. -/
def read? (text : List Char) : Option Binary64 :=
  let (negative, magnitude) := takeSign text
  let word := String.ofList (Text.lowered magnitude)
  if word = "inf" ∨ word = "infinity" then some (.infinity negative)
  else if word = "nan" then some .nan
  else readMagnitude? negative magnitude

/-- The numbers that round to `significand * 2 ^ exponent`. -/
def roundingInterval (significand : Nat) (exponent : Int) : Interval :=
  let gapBelow := if significand = twoTo 52 ∧ leastExponent < exponent then 1 else 2
  let factor := twoTo (exponent - 2).toNat
  { low := (4 * significand - gapBelow) * factor
    value := 4 * significand * factor
    high := (4 * significand + 2) * factor
    denominator := twoTo (2 - exponent).toNat
    closed := significand % 2 = 0 }

/-- The fewest digits that read back as the number, with their exponent. -/
def shortestDigits (tie : Tie) (significand : Nat) (exponent : Int) : List Char × Int :=
  if significand = 0 then (['0'], 0)
  else shortest tie (roundingInterval significand exponent)

def signText (negative : Bool) : String := if negative then "-" else ""

/-- Fewest digits and never an exponent; a whole number has no point. -/
def text : Binary64 → String
  | .nan => "NaN"
  | .infinity negative => signText negative ++ "inf"
  | .finite negative significand exponent =>
    let (shown, k) := shortestDigits .up significand exponent
    signText negative ++ String.ofList (positional shown k)

/-- The exponents of the leading digit between which no exponent is written. -/
def plainRange (e : Int) : Bool := -5 ≤ e && e < 16

/-- Fewest digits with a point; very large and very small numbers get an exponent. -/
def pointedText : Binary64 → String
  | .nan => "NaN"
  | .infinity negative => signText negative ++ "inf"
  | .finite negative significand exponent =>
    let (shown, k) := shortestDigits .even significand exponent
    let leading := k + shown.length - 1
    let body :=
      if plainRange leading then
        if 0 ≤ k then positional shown k ++ ['.', '0'] else positional shown k
      else
        let mantissa := match shown with
          | first :: second :: rest => first :: '.' :: second :: rest
          | short => short
        let sign := if leading < 0 then '-' else '+'
        mantissa ++ 'e' :: sign :: digits leading.natAbs
    signText negative ++ String.ofList body

def isFinite : Binary64 → Bool
  | .finite .. => true
  | _ => false

end Binary64

end QueryOptions.Decimal
