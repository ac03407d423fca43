import QueryOptions.Decimal.Digits
import QueryOptions.Text.Invisible

/-!
Text in double quotes, as messages show it: quotes, backslashes and characters
that would not be seen are escaped.
-/

namespace QueryOptions.Text

/-- The code point of a character in hexadecimal, between braces. -/
def escapedCodePoint (c : Char) : List Char :=
  '\\' :: 'u' :: '\x7b' :: Nat.toDigits 16 c.toNat ++ ['\x7d']

def escapeForDisplay (c : Char) : List Char :=
  if c = '"' then ['\\', '"']
  else if c = '\\' then ['\\', '\\']
  else if c = '\n' then ['\\', 'n']
  else if c = '\r' then ['\\', 'r']
  else if c = '\t' then ['\\', 't']
  else if c.toNat = 0 then ['\\', '0']
  else if isInvisible c then escapedCodePoint c
  else [c]

def displayQuoted (text : String) : String :=
  String.ofList ('"' :: text.toList.flatMap escapeForDisplay ++ ['"'])

end QueryOptions.Text
