import QueryOptions.Decimal.Digits

/-!
Decimal numbers that remember how many places they were written with:
`unscaled / 10 ^ scale`. Zero has one form, so its places are not kept.

A number is written in plain digits with exactly its places. Two notations
with an exponent replace plain digits when those would be mostly zeros.
-/

namespace QueryOptions.Decimal

structure Scaled where
  unscaled : Int
  scale : Int
  deriving DecidableEq, Repr, Inhabited

namespace Scaled

/-- Zero loses its places. -/
def make (unscaled scale : Int) : Scaled :=
  if unscaled = 0 then ⟨0, 0⟩ else ⟨unscaled, scale⟩

def ofInt (n : Int) : Scaled := ⟨n, 0⟩

/-- More zeros than this after the point, before the first digit, call for an exponent. -/
def mostLeadingZeros : Int := 5

/-- More zeros than this after the last digit, before the point, call for an exponent. -/
def mostTrailingZeros : Int := 15

/-- Plain digits with a point before the last `places` of them. -/
def pointed (places : Nat) (text : List Char) : List Char :=
  let wide := padLeft (places + 1) '0' text
  let whole := wide.length - places
  if places = 0 then text else wide.take whole ++ '.' :: wide.drop whole

/-- One digit before the point and a negative exponent. -/
def scientific (text : List Char) (scale : Nat) : List Char :=
  let exponent := scale - text.length + 1
  let mantissa := match text with
    | first :: second :: rest => first :: '.' :: second :: rest
    | short => short
  mantissa ++ 'E' :: '-' :: digits exponent

/-- The notation for digits and a scale, without a sign. -/
def magnitudeText (text : List Char) (scale : Int) : List Char :=
  if 0 < scale ∧ mostLeadingZeros < scale - text.length then
    scientific text scale.toNat
  else if mostTrailingZeros < -scale then
    text ++ 'e' :: '+' :: digits (-scale).toNat
  else if scale ≤ 0 then
    text ++ List.replicate (-scale).toNat '0'
  else
    pointed scale.toNat text

def text (d : Scaled) : String :=
  let magnitude := String.ofList (magnitudeText (digits d.unscaled.natAbs) d.scale)
  if d.unscaled < 0 then "-" ++ magnitude else magnitude

/-- Splits at the first character of a class, which is dropped. -/
def splitFirst (p : Char → Bool) (text : List Char) : List Char × Option (List Char) :=
  match text.dropWhile (fun c => !p c) with
  | [] => (text, none)
  | _ :: rest => (text.takeWhile (fun c => !p c), some rest)

/-- Reads an optional sign, digits with an optional point, and an optional
exponent. Underscores between digits are skipped; every place is kept. -/
def read? (text : List Char) : Option Scaled := do
  let (base, exponentText) := splitFirst (fun c => c = 'e' || c = 'E') text
  let exponent ← match exponentText with
    | none => some 0
    | some e => readInt? e
  let (whole, fraction) := splitFirst (· = '.') base
  let places := (fraction.getD []).filter (· ≠ '_')
  let (negative, wholeDigits) := match whole with
    | '-' :: rest => (true, rest)
    | '+' :: rest => (false, rest)
    | rest => (false, rest)
  let value ← readNat? 10 (wholeDigits.filter (· ≠ '_') ++ places)
  some (make (if negative then -(value : Int) else value) (places.length - exponent))

end Scaled

end QueryOptions.Decimal
