import QueryOptions.Params.Percent

/-!
Percent escapes in addresses. Which characters are escaped depends on the part
of the address; control and non-ASCII characters always are, and escapes that
are already there stay as they are.
-/

namespace QueryOptions.Url

/-- Characters that are escaped everywhere. -/
def isControl (c : Char) : Bool := c.toNat < 0x20 || 0x7E < c.toNat

def escapedInFragment (c : Char) : Bool := isControl c || " \"<>`".toList.contains c

/-- A query of a special scheme escapes the single quote too. -/
def escapedInQuery (special : Bool) (c : Char) : Bool :=
  isControl c || " \"#<>".toList.contains c || (special && c = '\'')

def escapedInPath (c : Char) : Bool := escapedInFragment c || "#?\x7b\x7d".toList.contains c

def escapedInUserinfo (c : Char) : Bool :=
  escapedInPath c || "/:;=@[\\]^|".toList.contains c

def escapeWhere (escaped : Char → Bool) (text : List Char) : List Char :=
  text.flatMap fun c => if escaped c then (String.utf8EncodeChar c).flatMap Percent.escape else [c]

/-- The bytes of a text with its escapes undone; an incomplete escape stands for itself. -/
def unescape : List Char → List UInt8
  | '%' :: h :: l :: rest =>
    match Decimal.readNat? 16 [h, l] with
    | some byte => UInt8.ofNat byte :: unescape rest
    | none => 37 :: unescape (h :: l :: rest)
  | c :: rest => String.utf8EncodeChar c ++ unescape rest
  | [] => []

/-- Reads bytes as UTF-8. -/
def decodeUtf8? (bytes : List UInt8) : Option (List Char) :=
  (String.fromUTF8? ⟨bytes.toArray⟩).map String.toList

end QueryOptions.Url
