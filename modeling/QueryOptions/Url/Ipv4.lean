import QueryOptions.Decimal.Digits
import QueryOptions.Decimal.Range
import QueryOptions.Text.Join

/-!
IPv4 addresses as hosts. A host whose last label is a number is an address of
up to four numbers in base eight, ten or sixteen; the last number fills all
the bytes that are left.
-/

namespace QueryOptions.Url.Ipv4

/-- A number whose base is told by its first characters. -/
def readNumber? (label : List Char) : Option Nat :=
  match label with
  | [] => none
  | '0' :: x :: rest =>
    if x = 'x' ∨ x = 'X' then (if rest.isEmpty then some 0 else Decimal.readNat? 16 rest)
    else Decimal.readNat? 8 (x :: rest)
  | _ => Decimal.readNat? 10 label

/-- Labels without an empty one at the end. -/
def dropFinalEmpty (labels : List (List Char)) : List (List Char) :=
  match labels.getLast? with
  | some [] => labels.dropLast
  | _ => labels

/-- Whether a host is to be read as an address. -/
def endsInNumber (host : List Char) : Bool :=
  match (dropFinalEmpty (Text.cut '.' host)).getLast? with
  | some label => Decimal.readNat? 10 label != none || readNumber? label != none
  | none => false

/-- How many addresses some bytes can tell apart. -/
def addressCount (bytes : Nat) : Nat := Decimal.twoTo (8 * bytes)

/-- The address of a host that ends in a number. -/
def read? (host : List Char) : Option Nat := do
  let numbers ← (dropFinalEmpty (Text.cut '.' host)).mapM readNumber?
  let last ← numbers.getLast?
  let leading := numbers.dropLast
  if 4 < numbers.length ∨ addressCount (4 - leading.length) ≤ last ∨ leading.any (255 < ·) then none
  else
    let high := leading.foldl (fun total n => total * 256 + n) 0
    some (high * addressCount (4 - leading.length) + last)

def text (address : Nat) : List Char :=
  let byte (k : Nat) := Decimal.digits (address / addressCount k % 256)
  byte 3 ++ '.' :: byte 2 ++ '.' :: byte 1 ++ '.' :: byte 0

end QueryOptions.Url.Ipv4
