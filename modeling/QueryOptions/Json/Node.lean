import QueryOptions.Json.Number

/-!
JSON texts, read as far as they are well formed.

Reading never fails as a whole. A node records what stands before the first
fault of the text: a container holds the entries read so far and whether its
closing bracket was reached, and a fault in the place of a value is a node of
its own. Whoever interprets the nodes in their order therefore meets faults of
form and of content in the order in which they stand in the text.
-/

namespace QueryOptions.Json

inductive Node where
  | null
  | bool (value : Bool)
  | number (value : Number)
  | string (value : String)
  | array (items : List Node) (closed : Bool)
  /-- What stands in the place of the first key without being a string is `stray`. -/
  | object (entries : List (String × Node)) (stray : Option Node) (closed : Bool)
  | malformed
  deriving Repr, Inhabited

/-- A value and the text after it; there is none after a fault. -/
abbrev Reading (α : Type) := α × Option (List Char)

def isSpace (c : Char) : Bool := c = ' ' || c = '\n' || c = '\t' || c = '\r'

def skipSpace (text : List Char) : List Char := text.dropWhile isSpace

/-- Takes a given word off the front of a text. -/
def dropWord? : List Char → List Char → Option (List Char)
  | [], text => some text
  | _ :: _, [] => none
  | w :: word, c :: text => if w = c then dropWord? word text else none

def readWord (word : String) (node : Node) (text : List Char) : Reading Node :=
  match dropWord? word.toList text with
  | some rest => (node, some rest)
  | none => (.malformed, none)

/-- The value of four hexadecimal digits. -/
def readUnit? : List Char → Option (Nat × List Char)
  | a :: b :: c :: d :: rest => (Decimal.readNat? 16 [a, b, c, d]).map (·, rest)
  | _ => none

def isHighSurrogate (unit : Nat) : Bool := 0xD800 ≤ unit && unit < 0xDC00

def isLowSurrogate (unit : Nat) : Bool := 0xDC00 ≤ unit && unit < 0xE000

/-- The character of a numeric escape; a high surrogate needs a low one after it. -/
def readCodePoint? (text : List Char) : Option (Char × List Char) :=
  match readUnit? text with
  | none => none
  | some (unit, rest) =>
    if isHighSurrogate unit then
      match rest with
      | '\\' :: 'u' :: more =>
        match readUnit? more with
        | some (low, rest) =>
          if isLowSurrogate low then
            some (Char.ofNat (0x10000 + (unit - 0xD800) * 0x400 + (low - 0xDC00)), rest)
          else none
        | none => none
      | _ => none
    else if isLowSurrogate unit then none
    else some (Char.ofNat unit, rest)

/-- The character of an escape by one letter. -/
def letterEscape? : Char → Option Char
  | '"' => some '"'
  | '\\' => some '\\'
  | '/' => some '/'
  | 'b' => some '\x08'
  | 'f' => some '\x0c'
  | 'n' => some '\n'
  | 'r' => some '\r'
  | 't' => some '\t'
  | _ => none

/-- The characters up to the closing quote and the text after it. Each step
takes at least one character, so the length of the text is fuel enough. -/
def readCharacters : Nat → List Char → Option (List Char × List Char)
  | 0, _ => none
  | _ + 1, [] => none
  | _ + 1, '"' :: rest => some ([], rest)
  | fuel + 1, '\\' :: 'u' :: rest => do
    let (c, rest) ← readCodePoint? rest
    let (text, rest) ← readCharacters fuel rest
    some (c :: text, rest)
  | fuel + 1, '\\' :: c :: rest => do
    let c ← letterEscape? c
    let (text, rest) ← readCharacters fuel rest
    some (c :: text, rest)
  | fuel + 1, c :: rest =>
    if c = '\\' ∨ c.toNat < 0x20 then none
    else do
      let (text, rest) ← readCharacters fuel rest
      some (c :: text, rest)

/-- Reads a string after its opening quote. -/
def readString? (text : List Char) : Option (String × List Char) :=
  (readCharacters (text.length + 1) text).map fun (found, rest) => (String.ofList found, rest)

/-- Containers may be nested this deep. -/
def deepestNesting : Nat := 127

mutual

/-- Reads a value, with `depth` levels of containers left. -/
def readNode (fuel depth : Nat) (text : List Char) : Reading Node :=
  match fuel with
  | 0 => (.malformed, none)
  | fuel + 1 =>
    match skipSpace text with
    | [] => (.malformed, none)
    | c :: rest =>
      if c = 'n' then readWord "ull" .null rest
      else if c = 't' then readWord "rue" (.bool true) rest
      else if c = 'f' then readWord "alse" (.bool false) rest
      else if c = '"' then
        match readString? rest with
        | some (value, rest) => (.string value, some rest)
        | none => (.malformed, none)
      else if c = '[' then
        match depth with
        | 0 => (.array [] false, none)
        | depth + 1 =>
          let ((items, closed), rest) := readItems fuel depth true rest
          (.array items closed, rest)
      else if c = '{' then
        match depth with
        | 0 => (.object [] none false, none)
        | depth + 1 =>
          let ((entries, stray, closed), rest) := readEntries fuel depth true rest
          (.object entries stray closed, rest)
      else match Number.read? (c :: rest) with
        | some (value, rest) => (.number value, some rest)
        | none => (.malformed, none)

/-- Reads the items that follow an opening bracket or an item. -/
def readItems (fuel depth : Nat) (first : Bool) (text : List Char) :
    Reading (List Node × Bool) :=
  match fuel with
  | 0 => (([], false), none)
  | fuel + 1 =>
    match skipSpace text with
    | ']' :: rest => (([], true), some rest)
    | rest =>
      let start := if first then some rest else match rest with
        | ',' :: rest =>
          match skipSpace rest with
          | ']' :: _ => none
          | rest => some rest
        | _ => none
      match start with
      | none => (([], false), none)
      | some start =>
        match readNode fuel depth start with
        | (.malformed, _) => (([.malformed], false), none)
        | (node, none) => (([node], false), none)
        | (node, some rest) =>
          let ((nodes, closed), rest) := readItems fuel depth false rest
          ((node :: nodes, closed), rest)

/-- Reads the entries that follow an opening brace or an entry. -/
def readEntries (fuel depth : Nat) (first : Bool) (text : List Char) :
    Reading (List (String × Node) × Option Node × Bool) :=
  match fuel with
  | 0 => (([], none, false), none)
  | fuel + 1 =>
    match skipSpace text with
    | '}' :: rest => (([], none, true), some rest)
    | rest =>
      let start := if first then some rest else match rest with
        | ',' :: rest => some (skipSpace rest)
        | _ => none
      match start with
      | none => (([], none, false), none)
      | some ('"' :: keyText) =>
        match readString? keyText with
        | none => (([], none, false), none)
        | some (key, rest) =>
          match skipSpace rest with
          | ':' :: rest =>
            match readNode fuel depth rest with
            | (node, none) => (([(key, node)], none, false), none)
            | (node, some rest) =>
              let ((entries, stray, closed), rest) := readEntries fuel depth false rest
              (((key, node) :: entries, stray, closed), rest)
          | _ => (([(key, .malformed)], none, false), none)
      | some other =>
        let stray := if first then some (readNode fuel depth other).1 else none
        (([], stray, false), none)

end

/-- Reads a whole text; the flag holds if nothing but white space follows the value. -/
def Node.ofText (text : String) : Node × Bool :=
  let chars := text.toList
  let (node, rest) := readNode (2 * chars.length + 2) deepestNesting chars
  (node, match rest with
    | some rest => (skipSpace rest).isEmpty
    | none => false)

end QueryOptions.Json
