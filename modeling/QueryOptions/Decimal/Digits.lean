/-!
Numerals. Numbers are written with the fewest digits, a negative one after a
minus sign; digit strings are read in any base up to sixteen.
-/

namespace QueryOptions.Decimal

/-- The decimal digits of a number, without superfluous zeros. -/
def digits (n : Nat) : List Char := Nat.toDigits 10 n

def natText (n : Nat) : String := String.ofList (digits n)

def intText : Int → String
  | .ofNat n => natText n
  | .negSucc n => "-" ++ natText (n + 1)

/-- Fills up on the left to a least width. -/
def padLeft (width : Nat) (fill : Char) (text : List Char) : List Char :=
  List.replicate (width - text.length) fill ++ text

/-- A number in decimal digits, with zeros in front up to a least width. -/
def paddedText (width n : Nat) : String := String.ofList (padLeft width '0' (digits n))

/-- The value of a digit character; letters of both cases count from ten. -/
def digitValue (c : Char) : Option Nat :=
  if '0' ≤ c ∧ c ≤ '9' then some (c.toNat - '0'.toNat)
  else if 'a' ≤ c ∧ c ≤ 'f' then some (c.toNat - 'a'.toNat + 10)
  else if 'A' ≤ c ∧ c ≤ 'F' then some (c.toNat - 'A'.toNat + 10)
  else none

def isDigitOf (base : Nat) (c : Char) : Bool :=
  match digitValue c with
  | some d => d < base
  | none => false

/-- The value of digits in a base; what is no digit counts as zero. -/
def valueOf (base : Nat) (text : List Char) : Nat :=
  text.foldl (fun total c => total * base + (digitValue c).getD 0) 0

/-- Reads a non-empty text of digits. -/
def readNat? (base : Nat) (text : List Char) : Option Nat :=
  if text ≠ [] ∧ text.all (isDigitOf base) then some (valueOf base text) else none

/-- Reads decimal digits after an optional sign. -/
def readInt? : List Char → Option Int
  | '-' :: rest => (readNat? 10 rest).map fun n => -(n : Int)
  | '+' :: rest => (readNat? 10 rest).map Int.ofNat
  | text => (readNat? 10 text).map Int.ofNat

@[simp] theorem natText_toList (n : Nat) : (natText n).toList = digits n := by
  simp [natText]

end QueryOptions.Decimal
