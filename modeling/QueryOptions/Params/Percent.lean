import QueryOptions.Decimal.Digits

/-!
Percent encoding of parameter components. Everything but the unreserved
characters is written as the hexadecimal bytes of its UTF-8 form; the
delimiters that query options are made of are then restored.
-/

namespace QueryOptions.Percent

def isUnreserved (c : Char) : Bool :=
  c.isAlphanum || c = '-' || c = '_' || c = '.' || c = '~'

/-- The upper-case hexadecimal digit of a number below sixteen. -/
def hexDigit (n : Nat) : Char := (Nat.digitChar n).toUpper

def escape (byte : UInt8) : List Char :=
  ['%', hexDigit (byte.toNat / 16), hexDigit (byte.toNat % 16)]

def encodeByte (byte : UInt8) : List Char :=
  let c := Char.ofNat byte.toNat
  if byte < 128 ∧ isUnreserved c then [c] else escape byte

/-- The bytes of a text in UTF-8. -/
def bytes (text : List Char) : List UInt8 := text.flatMap String.utf8EncodeChar

/-- Escapes every byte that is not an unreserved character. -/
def encodeAll (text : List Char) : List Char := (bytes text).flatMap encodeByte

/-- The delimiters that stay readable, in the order in which they are restored. -/
def keptCharacters : List Char := "!'()*@:$,;=?/".toList

/-- Replaces one escape, given by its digits, wherever it stands. -/
def replaceEscape (high low replacement : Char) : List Char → List Char
  | '%' :: h :: l :: rest =>
    if h = high ∧ l = low then replacement :: replaceEscape high low replacement rest
    else '%' :: replaceEscape high low replacement (h :: l :: rest)
  | c :: rest => c :: replaceEscape high low replacement rest
  | [] => []

/-- Writes a character for its escape. -/
def restore (text : List Char) (kept : Char) : List Char :=
  replaceEscape (hexDigit (kept.toNat / 16)) (hexDigit (kept.toNat % 16)) kept text

/-- Every escape in an encoded text is complete, so restoring one kind of
escape after another cannot join parts of two. -/
def encodeComponent (raw : String) : String :=
  String.ofList (keptCharacters.foldl restore (encodeAll raw.toList))

end QueryOptions.Percent
