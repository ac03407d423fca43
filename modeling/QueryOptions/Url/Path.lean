import QueryOptions.Url.Escape

/-!
Paths of addresses. A path is resolved segment by segment: a single dot stands
for the current level, two dots for the level above, and each dot may be
written as an escape. In the path of a file a drive letter is never left.
-/

namespace QueryOptions.Url

/-- How a scheme treats hosts, slashes and paths. -/
inductive SchemeKind where
  | special
  | file
  | other
  deriving DecidableEq, Repr

def SchemeKind.isSpecial (kind : SchemeKind) : Bool := kind ≠ .other

/-- A segment that consists of dots, plain or escaped: their number. -/
def dots : List Char → Option Nat
  | [] => some 0
  | '.' :: rest => (dots rest).map (· + 1)
  | '%' :: '2' :: e :: rest => if e = 'e' ∨ e = 'E' then (dots rest).map (· + 1) else none
  | _ => none

def isLetter (c : Char) : Bool := c.isAlpha

/-- A letter and a colon or a bar. -/
def isDriveLetter : List Char → Bool
  | [letter, mark] => isLetter letter && (mark = ':' || mark = '|')
  | _ => false

def isPlainDrive : List Char → Bool
  | [letter, mark] => isLetter letter && mark = ':'
  | _ => false

/-- Takes a segment off a path, up to a slash; the flag holds if there was one. -/
def takeSegment (kind : SchemeKind) : List Char → List Char × Bool × List Char
  | [] => ([], false, [])
  | c :: rest =>
    if c = '/' ∨ (c = '\\' ∧ kind.isSpecial) then ([], true, rest)
    else if c = '?' ∨ c = '#' then ([], false, c :: rest)
    else
      let (segment, slash, rest) := takeSegment kind rest
      (c :: segment, slash, rest)

/-- A path under construction: its segments, last first, and whether a drive
letter has made the host void. -/
structure PathState where
  segments : List (List Char) := []
  hostVoid : Bool := false

/-- Removes the last segment, except the drive letter of a file. -/
def shorten (kind : SchemeKind) : List (List Char) → List (List Char)
  | [] => []
  | segment :: rest => if kind = .file ∧ isPlainDrive segment then segment :: rest else rest

/-- Adds a segment; the flag tells whether a slash follows it. -/
def addSegment (kind : SchemeKind) (slash : Bool) (state : PathState) (segment : List Char) :
    PathState :=
  match dots segment with
  | some 2 =>
    let shortened := shorten kind state.segments
    { state with segments := if slash then shortened else [] :: shortened }
  | some 1 => if slash then state else { state with segments := [] :: state.segments }
  | _ =>
    if kind = .file ∧ isDriveLetter segment then
      { segments := (segment.take 1 ++ [':']) :: state.segments, hostVoid := true }
    else { state with segments := segment :: state.segments }

/-- Reads segments up to the query or the fragment; each takes at least one
character or is the last. -/
def readSegments (kind : SchemeKind) : Nat → PathState → List Char → PathState × List Char
  | 0, state, text => (state, text)
  | fuel + 1, state, text =>
    let (segment, slash, rest) := takeSegment kind text
    let state := addSegment kind slash state (escapeWhere escapedInPath segment)
    if slash then readSegments kind fuel state rest else (state, rest)

/-- A leading slash before every segment. -/
def pathText (segments : List (List Char)) : List Char :=
  segments.reverse.flatMap fun segment => '/' :: segment

/-- The path of a file has no empty segments at its start. -/
def trimLeading (segments : List (List Char)) : List (List Char) :=
  match (segments.reverse.dropWhile List.isEmpty).reverse with
  | [] => [[]]
  | kept => kept

end QueryOptions.Url
