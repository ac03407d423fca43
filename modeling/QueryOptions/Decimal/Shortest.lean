import QueryOptions.Decimal.Digits
import QueryOptions.Decimal.Range

/-!
The shortest decimal inside an interval. A number that is known only up to an
interval is written with the fewest digits that still fall into it, and among
those with the ones nearest to the number itself.

Everything is exact arithmetic on natural numbers over one denominator. For
each count of digits there are only two grid points to try, the neighbours of
the number on that grid.
-/

namespace QueryOptions.Decimal

/-- Which neighbour stands for a number that lies halfway between the two. -/
inductive Tie where
  | up
  | even
  deriving DecidableEq, Repr

/-- The numbers `low`, `value` and `high` over one denominator. -/
structure Interval where
  low : Nat
  value : Nat
  high : Nat
  denominator : Nat
  closed : Bool
  deriving Repr

namespace Interval

/-- The exponent of the leading digit of `value / denominator`. -/
def leadingExponent (i : Interval) : Int :=
  if i.denominator ≤ i.value then
    ((digits (i.value / i.denominator)).length : Int) - 1
  else
    let places := (digits (i.denominator / i.value)).length
    if i.value * tenTo (places - 1) = i.denominator then 1 - (places : Int) else -(places : Int)

/-- The interval with numbers and denominator in units of `10 ^ k`. -/
def inUnits (i : Interval) (k : Int) : Interval :=
  let factor := tenTo (-k).toNat
  { low := i.low * factor
    value := i.value * factor
    high := i.high * factor
    denominator := i.denominator * tenTo k.toNat
    closed := i.closed }

/-- Whether the whole number `n` lies in the interval. -/
def holds (i : Interval) (n : Nat) : Bool :=
  let point := n * i.denominator
  if i.closed then i.low ≤ point && point ≤ i.high else i.low < point && point < i.high

/-- The whole number of the interval that is next to its value. -/
def nearestWhole? (tie : Tie) (i : Interval) : Option Nat :=
  let below := i.value / i.denominator
  let rest := i.value % i.denominator
  match i.holds below, i.holds (below + 1) with
  | false, false => none
  | true, false => some below
  | false, true => some (below + 1)
  | true, true =>
    if 2 * rest < i.denominator then some below
    else if i.denominator < 2 * rest then some (below + 1)
    else match tie with
      | .up => some (below + 1)
      | .even => some (if below % 2 = 0 then below else below + 1)

end Interval

/-- Moves zeros at the end of a coefficient into its exponent. -/
def stripZeros (text : List Char) (exponent : Int) : List Char × Int :=
  let kept := (text.reverse.dropWhile (· = '0')).reverse
  (kept, exponent + (text.length - kept.length))

/-- The most digits that any binary64 number needs. -/
def mostDigits : Nat := 17

/-- The digits and the exponent of the shortest decimal in an interval. -/
def shortest (tie : Tie) (i : Interval) : List Char × Int :=
  let top := i.leadingExponent + 1
  let attempt := (List.range mostDigits).findSome? fun (n : Nat) =>
    let k := top - ((n : Nat) + 1 : Int)
    ((i.inUnits k).nearestWhole? tie).map fun coefficient => (digits coefficient, k)
  match attempt with
  | some (text, k) => stripZeros text k
  | none => (digits (i.value / i.denominator), 0)

/-- Digits times a power of ten, without an exponent. -/
def positional (text : List Char) (exponent : Int) : List Char :=
  if 0 ≤ exponent then text ++ List.replicate exponent.toNat '0'
  else
    let places := (-exponent).toNat
    let wide := padLeft (places + 1) '0' text
    wide.take (wide.length - places) ++ '.' :: wide.drop (wide.length - places)

end QueryOptions.Decimal
