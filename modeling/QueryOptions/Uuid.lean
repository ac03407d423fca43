import QueryOptions.Literal
import QueryOptions.Text.Join

/-!
Universally unique identifiers. They are read in four forms, in letters of
either case, and written in small letters with hyphens.
-/

namespace QueryOptions

structure Uuid where
  value : Nat
  deriving DecidableEq, Repr

namespace Uuid

def size : Nat := 32

/-- Where hyphens stand, by the digits before them. -/
def groups : List Nat := [8, 4, 4, 4, 12]

/-- Cuts a text into groups of the given sizes. -/
def split : List Nat → List Char → List (List Char)
  | [], _ => []
  | size :: sizes, text => text.take size :: split sizes (text.drop size)

def text (u : Uuid) : String :=
  let shown := Decimal.padLeft size '0' (Nat.toDigits 16 u.value)
  Text.join "-" ((split groups shown).map String.ofList)

def hyphenated? (text : List Char) : Option Uuid :=
  let pieces := Text.cut '-' text
  if pieces.map List.length = groups then (Decimal.readNat? 16 pieces.flatten).map Uuid.mk else none

def read? (text : List Char) : Option Uuid :=
  let unmarked := if text.take 9 = "urn:uuid:".toList then text.drop 9 else text
  match unmarked with
  | '\x7b' :: rest => if rest.getLast? = some '\x7d' then hyphenated? rest.dropLast else none
  | _ =>
    if unmarked.length = size then (Decimal.readNat? 16 unmarked).map Uuid.mk
    else hyphenated? unmarked

end Uuid

def Literal.ofUuid (u : Uuid) : Literal := .other u.text

end QueryOptions
