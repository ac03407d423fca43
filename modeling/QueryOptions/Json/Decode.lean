import QueryOptions.Json.ReadError
import QueryOptions.Shape

/-!
Reading typed values off JSON nodes. Entries are taken in the order in which
they stand in the text, and the first fault decides.

A record is an object, or an array of its fields in their order. A choice
between variants is a string, or an object with one entry that gives the
variant its value.
-/

namespace QueryOptions.Json

abbrev Decoder (α : Type) := Node → Except ReadError α

/-- What a node is, when something else is expected. -/
def mismatch {α : Type} (expected : String) : Decoder α
  | .null => .error (.wrongType .null expected)
  | .bool value => .error (.wrongType (.bool value) expected)
  | .number (.whole n) => .error (.wrongType (.integer n) expected)
  | .number (.float x) => .error (.wrongType (.float x) expected)
  | .string value => .error (.wrongType (.string value) expected)
  | .array .. => .error (.wrongType .sequence expected)
  | .object .. => .error (.wrongType .map expected)
  | .malformed => .error .malformed

def readString : Decoder String
  | .string value => .ok value
  | node => mismatch "a string" node

def readBool : Decoder Bool
  | .bool value => .ok value
  | node => mismatch "a boolean" node

def readUnsigned : Decoder Nat
  | .number (.whole (.ofNat n)) => .ok n
  | .number (.whole n) => .error (.negative n "u64")
  | node => mismatch "u64" node

def readUnit : Decoder Unit
  | .null => .ok ()
  | node => mismatch "unit" node

/-- Null stands for an absent value. -/
def readOption {α : Type} (decode : Decoder α) : Decoder (Option α)
  | .null => .ok none
  | node => (decode node).map some

def readItemsWith {α : Type} (decode : Decoder α) : List Node → Except ReadError (List α)
  | [] => .ok []
  | node :: rest => do
    let item ← decode node
    let items ← readItemsWith decode rest
    .ok (item :: items)

def readList {α : Type} (decode : Decoder α) : Decoder (List α)
  | .array items closed => do
    let values ← readItemsWith decode items
    if closed then .ok values else .error .malformed
  | node => mismatch "a sequence" node

abbrev Field (σ : Type) := Shape.Field Node (Except ReadError) σ

/-- Reads the entries of an object; each field may occur once. -/
def readFields {σ : Type} (fields : List (Field σ)) :
    List String → σ → List (String × Node) → Except ReadError σ
  | _, draft, [] => .ok draft
  | seen, draft, (key, node) :: rest =>
    match fields.find? fun field => field.name = key with
    | none => .error (.unknownField key (fields.map Shape.Field.name))
    | some field =>
      if key ∈ seen then .error (.duplicateField key)
      else do
        let draft ← field.read draft node
        readFields fields (key :: seen) draft rest

/-- Reads fields by their position; those with defaults may be missing at the end. -/
def readPositions {σ : Type} (expected : String) (closed : Bool) :
    Nat → List (Field σ) → σ → List Node → Except ReadError σ
  | _, [], draft, [] => if closed then .ok draft else .error .malformed
  | _, [], _, _ :: _ => .error .malformed
  | position, field :: fields, draft, node :: nodes => do
    let draft ← field.read draft node
    readPositions expected closed (position + 1) fields draft nodes
  | position, field :: fields, draft, [] =>
    if !closed then .error .malformed
    else if field.required then .error (.tooShort position expected)
    else readPositions expected closed (position + 1) fields draft []

/-- A record of a named type, read into a draft. -/
def readRecord {σ : Type} (typeName : String) (fields : List (Field σ)) (draft : σ) : Decoder σ
  | .object entries _ closed => do
    let draft ← readFields fields [] draft entries
    if !closed then .error .malformed
    else match Shape.missingField? fields (entries.map Prod.fst) with
      | some name => .error (.missingField name)
      | none => .ok draft
  | .array items closed =>
    let expected :=
      "struct " ++ typeName ++ " with " ++ Decimal.natText fields.length ++ " elements"
    readPositions expected closed 0 fields draft items
  | node => mismatch ("struct " ++ typeName) node

abbrev Variant (α : Type) := Shape.Variant Node (Except ReadError) α

/-- A variant that is named alone. -/
def readBare {α : Type} : Variant α → Except ReadError α
  | .bare value => .ok value
  | .carrying _ => .error (.wrongType .bareVariant "newtype variant")

/-- A variant that is named with a value. -/
def readCarried {α : Type} (node : Node) : Variant α → Except ReadError α
  | .bare value => (readUnit node).map fun _ => value
  | .carrying read => read node

def findVariant {α : Type} (variants : List (String × Variant α)) (name : String) :
    Except ReadError (Variant α) :=
  match variants.lookup name with
  | some variant => .ok variant
  | none => .error (.unknownVariant name (variants.map Prod.fst))

/-- A choice between named variants. -/
def readVariant {α : Type} (variants : List (String × Variant α)) : Decoder α
  | .string name => do readBare (← findVariant variants name)
  | .object ((name, node) :: rest) _ closed => do
    let variant ← findVariant variants name
    let value ← readCarried node variant
    if closed && rest.isEmpty then .ok value else .error .malformed
  | .object [] (some stray) _ => mismatch "variant identifier" stray
  | _ => .error .malformed

mutual

/-- Whether a node holds no fault of form. -/
def Node.isWhole : Node → Bool
  | .array items closed => closed && areWhole items
  | .object entries _ closed => closed && entriesWhole entries
  | .malformed => false
  | _ => true

def areWhole : List Node → Bool
  | [] => true
  | node :: rest => node.isWhole && areWhole rest

def entriesWhole : List (String × Node) → Bool
  | [] => true
  | (_, node) :: rest => node.isWhole && entriesWhole rest

end

/-- The first of several readings of a node that succeeds. The node is read to
its end before, so a fault of form in it comes first. -/
def readUntagged {α : Type} (typeName : String) (readings : List (Node → Option α)) : Decoder α :=
  fun node =>
    if !node.isWhole then .error .malformed
    else match readings.findSome? fun reading => reading node with
      | some value => .ok value
      | none => .error (.noVariant typeName)

/-- Reads a whole text; a fault of content comes before what follows the value. -/
def readText {α : Type} (decode : Decoder α) (text : String) : Except ReadError α := do
  let (node, complete) := Node.ofText text
  let value ← decode node
  if complete then .ok value else .error .malformed

end QueryOptions.Json
