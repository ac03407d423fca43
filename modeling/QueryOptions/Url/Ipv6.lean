import QueryOptions.Url.Ipv4

/-!
IPv6 addresses as hosts: eight pieces of sixteen bits. Two colons stand for a
run of zero pieces, and the last two pieces may be written as an IPv4 address.

An address is written with its longest run of zeros left out, the first of
them if several are equally long.
-/

namespace QueryOptions.Url.Ipv6

/-- Four numbers of one to three digits, as two pieces. -/
def readTail? (text : List Char) : Option (List Nat) := do
  let labels := Text.cut '.' text
  let numbers ← labels.mapM (Decimal.readNat? 10)
  match numbers with
  | [a, b, c, d] =>
    if numbers.any (255 < ·) || labels.any (fun label => 1 < label.length && label.head? = some '0')
    then none
    else some [a * 256 + b, c * 256 + d]
  | _ => none

def readPiece? (label : List Char) : Option Nat :=
  if 4 < label.length then none else Decimal.readNat? 16 label

/-- The pieces between single colons; the last label may be an IPv4 address. -/
def readPieces? : List (List Char) → Option (List Nat)
  | [] => some []
  | [label] => if label.contains '.' then readTail? label else (readPiece? label).map ([·])
  | label :: rest => do
    let piece ← readPiece? label
    let pieces ← readPieces? rest
    some (piece :: pieces)

/-- Splits a text at its first pair of colons. -/
def splitGap : List Char → Option (List Char × List Char)
  | ':' :: ':' :: rest => some ([], rest)
  | c :: rest => (splitGap rest).map fun (before, after) => (c :: before, after)
  | [] => none

/-- The pieces of a part of an address; an empty part has none. -/
def readPart? (allowTail : Bool) (text : List Char) : Option (List Nat) :=
  if text.isEmpty then some []
  else if !allowTail && text.contains '.' then none
  else readPieces? (Text.cut ':' text)

def read? (text : List Char) : Option (List Nat) :=
  match splitGap text with
  | none => do
    let pieces ← readPart? true text
    if pieces.length = 8 then some pieces else none
  | some (beforeText, afterText) => do
    let before ← readPart? false beforeText
    let after ← readPart? true afterText
    let given := before.length + after.length
    if 7 < given then none else some (before ++ List.replicate (8 - given) 0 ++ after)

/-- The length of the run of zeros at the front. -/
def zeroRun (pieces : List Nat) : Nat := (pieces.takeWhile (· = 0)).length

/-- Where the longest run of at least two zeros starts, and its length. -/
def longestRun (pieces : List Nat) : Option (Nat × Nat) :=
  (List.range pieces.length).foldl (fun best start =>
    let run := zeroRun (pieces.drop start)
    let longest := match best with
      | some (_, length) => length
      | none => 1
    if longest < run then some (start, run) else best) none

def piecesText (pieces : List Nat) : List Char :=
  (Text.join ":" (pieces.map fun piece => String.ofList (Nat.toDigits 16 piece))).toList

/-- The address between brackets. -/
def text (pieces : List Nat) : List Char :=
  let inner := match longestRun pieces with
    | some (start, length) =>
      piecesText (pieces.take start) ++ "::".toList ++ piecesText (pieces.drop (start + length))
    | none => piecesText pieces
  '[' :: inner ++ [']']

end QueryOptions.Url.Ipv6
