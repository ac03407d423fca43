import QueryOptions.Decimal.Digits

/-!
Punycode: labels of domain names in ASCII. The ASCII characters of a label
come first; the others follow in ascending order as distances from one to the
next, in digits of base thirty-six whose thresholds adapt to the distances
seen so far.
-/

namespace QueryOptions.Url.Punycode

def base : Nat := 36

def digitChar (d : Nat) : Char :=
  if d < 26 then Char.ofNat ('a'.toNat + d) else Char.ofNat ('0'.toNat + (d - 26))

def digitValue? (c : Char) : Option Nat :=
  if 'a' ≤ c ∧ c ≤ 'z' then some (c.toNat - 'a'.toNat)
  else if 'A' ≤ c ∧ c ≤ 'Z' then some (c.toNat - 'A'.toNat)
  else if '0' ≤ c ∧ c ≤ '9' then some (c.toNat - '0'.toNat + 26)
  else none

/-- The threshold of the digit at a position, between one and twenty-six. -/
def threshold (position bias : Nat) : Nat := max 1 (min 26 (position - bias))

theorem threshold_pos (position bias : Nat) : 0 < threshold position bias := by
  unfold threshold
  omega

/-- Divides a distance until it is small, and adds the base for each division. -/
def settle (delta bias : Nat) : Nat :=
  if 455 < delta then settle (delta / 35) (bias + base) else bias + 36 * delta / (delta + 38)
termination_by delta
decreasing_by omega

/-- The bias after a distance with so many characters placed. -/
def adapt (delta placed : Nat) (first : Bool) : Nat :=
  let damped := if first then delta / 700 else delta / 2
  settle (damped + damped / placed) 0

/-- The digits of a distance. -/
def distanceDigits (bias position q : Nat) : List Char :=
  let t := threshold position bias
  if q < t then [digitChar q]
  else digitChar (t + (q - t) % (base - t)) ::
    distanceDigits bias (position + base) ((q - t) / (base - t))
termination_by q
decreasing_by
  have positive := threshold_pos position bias
  calc (q - threshold position bias) / (base - threshold position bias)
      ≤ q - threshold position bias := Nat.div_le_self _ _
    _ < q := by omega

structure Encoding where
  out : List Char
  delta : Nat
  bias : Nat
  placed : Nat

/-- Passes one character of the label while the code point `n` is being placed. -/
def pass (basic n : Nat) (e : Encoding) (c : Char) : Encoding :=
  if c.toNat < n then { e with delta := e.delta + 1 }
  else if c.toNat = n then
    { out := e.out ++ distanceDigits e.bias base e.delta
      delta := 0
      bias := adapt e.delta (e.placed + 1) (e.placed = basic)
      placed := e.placed + 1 }
  else e

def encode (label : List Char) : List Char :=
  let basic := label.filter fun c => c.toNat < 128
  let others := ((label.filter fun c => 128 ≤ c.toNat).map Char.toNat).mergeSort.eraseDups
  let start : Encoding := ⟨[], 0, 72, basic.length⟩
  let (done, _) := others.foldl (fun (e, next) n =>
    let reached := { e with delta := e.delta + (n - next) * (e.placed + 1) }
    let passed := label.foldl (pass basic.length n) reached
    ({ passed with delta := passed.delta + 1 }, n + 1)) (start, 128)
  basic ++ (if basic.isEmpty then [] else ['-']) ++ done.out

/-- Takes the digits of one distance: the distance and the rest. -/
def readDistance? (bias : Nat) : Nat → Nat → Nat → List Char → Option (Nat × List Char)
  | _, _, _, [] => none
  | position, weight, total, c :: rest => do
    let d ← digitValue? c
    let t := threshold position bias
    let total := total + d * weight
    if d < t then some (total, rest)
    else readDistance? bias (position + base) (weight * (base - t)) total rest

/-- Inserts characters by their distances; each takes at least one digit. -/
def insertAll : Nat → Nat → Nat → Nat → List Char → List Char → Option (List Char)
  | _, _, _, _, label, [] => some label
  | 0, _, _, _, _, _ :: _ => none
  | fuel + 1, n, i, bias, label, text => do
    let (distance, rest) ← readDistance? bias base 1 0 text
    let slots := label.length + 1
    let place := i + distance
    let n := n + place / slots
    if 0x10FFFF < n then none
    else
      let c := Char.ofNat n
      if c.toNat ≠ n then none
      else
        let slot := place % slots
        insertAll fuel n (slot + 1) (adapt distance slots (i = 0))
          (label.take slot ++ c :: label.drop slot) rest

/-- Splits at the last hyphen; without one nothing stands before it. -/
def splitLastHyphen (text : List Char) : List Char × List Char :=
  let after := (text.reverse.takeWhile (· ≠ '-')).reverse
  (text.take (text.length - after.length - 1), after)

def decode? (text : List Char) : Option (List Char) :=
  let (basic, rest) := splitLastHyphen text
  insertAll rest.length 128 0 72 basic rest

end QueryOptions.Url.Punycode
