import QueryOptions.Url.Host
import QueryOptions.Url.Path

/-!
Absolute addresses: reading them in the form that the URL standard gives them,
writing them, and replacing their query.

White space around an address and line breaks inside it are dropped. Special
schemes need a host and may be written with any number of slashes; a port that
is the usual one of its scheme is dropped.
-/

namespace QueryOptions

structure Url where
  scheme : String
  /-- What stands after two slashes: user, host and port. -/
  authority : Option String
  path : String
  query : Option String
  fragment : Option String
  deriving DecidableEq, Repr

namespace Url

def usualPort (scheme : String) : Option Nat :=
  if scheme = "http" ∨ scheme = "ws" then some 80
  else if scheme = "https" ∨ scheme = "wss" then some 443
  else if scheme = "ftp" then some 21
  else none

def kindOf (scheme : String) : SchemeKind :=
  if scheme = "file" then .file
  else if (usualPort scheme).isSome then .special
  else .other

def kind (u : Url) : SchemeKind := kindOf u.scheme

/-- Keeps a path that starts with two slashes apart from an authority. -/
def pathGuard (u : Url) : String :=
  match u.authority, u.path.toList with
  | none, '/' :: '/' :: _ => "/."
  | _, _ => ""

def text (u : Url) : String :=
  u.scheme ++ ":" ++ (u.authority.map ("//" ++ ·)).getD "" ++ u.pathGuard ++ u.path ++
    (u.query.map ("?" ++ ·)).getD "" ++ (u.fragment.map ("#" ++ ·)).getD ""

/-- Replaces the query; the rest of the address stays. -/
def withQuery (u : Url) (query : String) : Url :=
  let shown := escapeWhere (escapedInQuery u.kind.isSpecial) query.toList
  { u with query := some (String.ofList shown) }

def isEdge (c : Char) : Bool := c.toNat ≤ 0x20

def isBreak (c : Char) : Bool := c = '\t' || c = '\n' || c = '\r'

/-- Drops what is no part of an address. -/
def clean (text : List Char) : List Char :=
  ((text.dropWhile isEdge).reverse.dropWhile isEdge).reverse.filter fun c => !isBreak c

/-- The scheme in small letters and what follows its colon. -/
def takeScheme (text : List Char) : Option (String × List Char) :=
  let name := text.takeWhile fun c => c.isAlphanum || c = '+' || c = '-' || c = '.'
  match name.head?, text.drop name.length with
  | some first, ':' :: rest =>
    if first.isAlpha then some (String.ofList (name.map Char.toLower), rest) else none
  | _, _ => none

def endsAuthority (kind : SchemeKind) (c : Char) : Bool :=
  c = '/' || c = '?' || c = '#' || (c = '\\' && kind.isSpecial)

/-- Splits at the last occurrence of a character. -/
def splitLast (separator : Char) (text : List Char) : Option (List Char × List Char) :=
  if text.contains separator then
    let after := (text.reverse.takeWhile (· ≠ separator)).reverse
    some (text.take (text.length - after.length - 1), after)
  else none

/-- A user with an optional password and the sign after them. An empty
password loses its colon, and an empty user without password everything. -/
def userinfoText (text : List Char) : List Char :=
  let name := text.takeWhile (· ≠ ':')
  let password := text.drop (name.length + 1)
  let shown := escapeWhere escapedInUserinfo name ++
    (if password.isEmpty then [] else ':' :: escapeWhere escapedInUserinfo password)
  if shown.isEmpty then [] else shown ++ ['@']

/-- The part before the port: up to a colon that is not inside brackets. -/
def takeHost (inBrackets : Bool) : List Char → List Char × List Char
  | [] => ([], [])
  | c :: rest =>
    if c = ':' ∧ !inBrackets then ([], c :: rest)
    else
      let inside := if c = '[' then true else if c = ']' then false else inBrackets
      let (host, rest) := takeHost inside rest
      (c :: host, rest)

def greatestPort : Nat := 65535

/-- The text of a port unless it is absent or the usual one; digits may be
followed by the path or, for any scheme, by a backslash. -/
def readPort (scheme : String) (text : List Char) : Except UrlError (List Char × List Char) :=
  let found := text.takeWhile Char.isDigit
  let rest := text.drop found.length
  let port := Decimal.valueOf 10 found
  let ends := match rest with
    | [] => true
    | c :: _ => "/\\?#".toList.contains c
  if greatestPort < port ∨ !ends then .error .invalidPort
  else if found.isEmpty ∨ usualPort scheme = some port then .ok ([], rest)
  else .ok (':' :: Decimal.digits port, rest)

/-- The authority after the two slashes, and what follows it. -/
def readAuthority (scheme : String) (text : List Char) :
    Except UrlError (List Char × List Char) := do
  let kind := kindOf scheme
  let area := text.takeWhile fun c => !endsAuthority kind c
  let beyond := text.drop area.length
  let (userinfo, hostArea, nameless) := match splitLast '@' area with
    | some (user, rest) => (userinfoText user, rest, user.isEmpty)
    | none => ([], area, false)
  if nameless ∧ hostArea.isEmpty ∧ !beyond.isEmpty then .error .emptyHost
  else
    let (hostText, portText) := takeHost false hostArea
    if hostText.isEmpty ∧ (kind.isSpecial ∨ !portText.isEmpty ∨ !userinfo.isEmpty) then
      .error .emptyHost
    else do
      let host ← if kind.isSpecial then namedHost hostText else plainHost hostText
      match portText with
      | [] => .ok (userinfo ++ host, beyond)
      | _ :: portText =>
        let (port, rest) ← readPort scheme (portText ++ beyond)
        .ok (userinfo ++ host ++ port, rest)

/-- Splits a text at the start of its fragment. -/
def splitFragment (text : List Char) : List Char × Option (List Char) :=
  let before := text.takeWhile (· ≠ '#')
  match text.drop before.length with
  | [] => (before, none)
  | _ :: rest => (before, some rest)

/-- An address from its parts and the text that starts with its query or fragment. -/
def assemble (scheme : String) (authority : Option (List Char)) (path rest : List Char) : Url :=
  let (before, fragment) := splitFragment rest
  let query := match before with
    | '?' :: query => some query
    | _ => none
  { scheme := scheme
    authority := authority.map String.ofList
    path := String.ofList path
    query := query.map fun query =>
      String.ofList (escapeWhere (escapedInQuery (kindOf scheme).isSpecial) query)
    fragment := fragment.map fun fragment =>
      String.ofList (escapeWhere escapedInFragment fragment) }

def dropSlash (kind : SchemeKind) : List Char → List Char
  | c :: rest => if c = '/' ∨ (c = '\\' ∧ kind.isSpecial) then rest else c :: rest
  | [] => []

/-- The path after an authority: the address and whether a drive letter voids the host. -/
def readPath (kind : SchemeKind) (text : List Char) : PathState × List Char :=
  readSegments kind (text.length + 1) {} (dropSlash kind text)

def startsTail : List Char → Bool
  | [] => true
  | c :: _ => c = '?' || c = '#'

/-- The path of an address that is neither special nor a file. -/
def otherPath (text : List Char) : List Char × List Char :=
  if startsTail text then ([], text)
  else
    let (state, rest) := readPath .other text
    (pathText state.segments, rest)

def parseSpecial (scheme : String) (text : List Char) : Except UrlError Url := do
  let (authority, rest) ← readAuthority scheme (text.dropWhile fun c => c = '/' || c = '\\')
  let (state, tail) := readPath .special rest
  .ok (assemble scheme (some authority) (pathText state.segments) tail)

def parseOther (scheme : String) (text : List Char) : Except UrlError Url :=
  match text with
  | '/' :: '/' :: rest => do
    let (authority, rest) ← readAuthority scheme rest
    let (path, tail) := otherPath rest
    .ok (assemble scheme (some authority) path tail)
  | '/' :: rest =>
    let (state, tail) := readSegments .other (rest.length + 1) {} rest
    .ok (assemble scheme none (pathText state.segments) tail)
  | _ =>
    let path := text.takeWhile fun c => c ≠ '?' && c ≠ '#'
    .ok (assemble scheme none (escapeWhere isControl path) (text.drop path.length))

/-- The host of a file and the text of its path; a drive letter is no host. -/
def fileHost (text : List Char) : Except UrlError (List Char × List Char) :=
  let area := text.takeWhile fun c => !endsAuthority .file c
  if isDriveLetter area then .ok ([], text)
  else if area.isEmpty then .ok ([], text)
  else do
    let host ← namedHost area
    .ok (if host = "localhost".toList then [] else host, text.drop area.length)

def parseFile (text : List Char) : Except UrlError Url := do
  let (host, pathStart) ← match text with
    | a :: b :: rest =>
      if (a = '/' ∨ a = '\\') ∧ (b = '/' ∨ b = '\\') then fileHost rest else .ok ([], text)
    | _ => .ok ([], text)
  let (state, tail) := readPath .file pathStart
  let host := if state.hostVoid then [] else host
  .ok (assemble "file" (some host) (pathText (trimLeading state.segments)) tail)

/-- Reads an absolute address. -/
def parse (text : String) : Except UrlError Url :=
  match takeScheme (clean text.toList) with
  | none => .error .relative
  | some (scheme, rest) =>
    match kindOf scheme with
    | .special => parseSpecial scheme rest
    | .file => parseFile rest
    | .other => parseOther scheme rest

end Url

end QueryOptions
