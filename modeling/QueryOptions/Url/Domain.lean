import QueryOptions.Text.Folding
import QueryOptions.Text.Invisible
import QueryOptions.Text.Join
import QueryOptions.Url.Punycode

/-!
Domain names in ASCII. Letters are made small, width variants become plain
characters, characters that only direct the display are dropped, and labels
beyond ASCII are written in Punycode. Labels that are in Punycode already have
to decode to a proper label.
-/

namespace QueryOptions.Url.Domain

/-- ASCII characters that no domain name holds. -/
def isForbidden (c : Char) : Bool :=
  c.toNat ≤ 0x20 || c.toNat = 0x7F || "%#/:<>?@[\\]^|".toList.contains c

/-- Characters that are dropped. -/
def ignoredRanges : List (Nat × Nat) :=
  [(0xAD, 0xAD), (0x34F, 0x34F), (0x180B, 0x180D), (0x180F, 0x180F), (0x200B, 0x200B),
   (0x2060, 0x2060), (0x2064, 0x2064), (0xFE00, 0xFE0F), (0xFEFF, 0xFEFF), (0xE0100, 0xE01EF)]

def isFullStop (c : Char) : Bool := c.toNat = 0x3002 || c.toNat = 0xFF61

def isWideAscii (c : Char) : Bool := 0xFF01 ≤ c.toNat && c.toNat ≤ 0xFF5E

/-- What stands for a character of a name. -/
def mapped (c : Char) : List Char :=
  if Text.inRanges ignoredRanges c then []
  else if isFullStop c then ['.']
  else if isWideAscii c then [(Char.ofNat (c.toNat - 0xFEE0)).toLower]
  else if c.toNat = 0x1E9E then ['ß']
  else [Text.fold c]

def isAscii (c : Char) : Bool := c.toNat < 128

def isPermitted (c : Char) : Bool := if isAscii c then !isForbidden c else !Text.isHidden c

/-- Whether a label may stand in a name as it is. -/
def isProper (label : List Char) : Bool :=
  label.all (fun c => isPermitted c && mapped c = [c]) &&
    !(label.head?.any fun c => !isAscii c && Text.isCombining c)

def dropMark? : List Char → Option (List Char)
  | 'x' :: 'n' :: '-' :: '-' :: rest => some rest
  | _ => none

/-- The ASCII form of a label of small letters. -/
def labelToAscii? (label : List Char) : Option (List Char) :=
  match dropMark? label with
  | some encoded => do
    let decoded ← Punycode.decode? encoded
    if decoded.all isAscii || !isProper decoded then none else some label
  | none =>
    if !isProper label then none
    else if label.all isAscii then some label
    else some ("xn--".toList ++ Punycode.encode label)

def toAscii? (name : List Char) : Option (List Char) := do
  let labels ← (Text.cut '.' (name.flatMap mapped)).mapM labelToAscii?
  some (Text.join "." (labels.map String.ofList)).toList

end QueryOptions.Url.Domain
