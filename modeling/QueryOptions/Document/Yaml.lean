import QueryOptions.Document.Format
import QueryOptions.Yaml.Schema.Wide
import QueryOptions.Yaml.Stream

/-!
Query documents in YAML. Records are mappings, and a choice is a scalar or a
mapping with one entry; nothing written stands for a missing value, an empty
list or an empty record.
-/

namespace QueryOptions.Yaml

/-- Reading a node may take further nodes from the list that it stands in. What
is kept are the nodes after it; reading fails without a message. -/
abbrev Reading := StateT (List Node) Option

abbrev Decoder (α : Type) := Node → Reading α

/-- Reads a node by itself. -/
def alone {α : Type} (read : Node → Option α) : Decoder α := fun node => StateT.lift (read node)

/-- Whether a tag names a kind of scalars other than text. -/
def isTypedTag (tag : String) : Bool :=
  tag = nullTag || tag = boolTag || tag = intTag || tag = floatTag

/-- Whether a node is a plain scalar that stands for nothing, or is said to be one
by its tag. -/
def Node.isNull : Node → Bool
  | .scalar .plain text => Wide.isNull text.toList
  | .tagged tag (.scalar style text) =>
    tag = nullTag || tag ≠ textTag && style = .plain && Wide.isNull text.toList
  | _ => false

/-- Whether a node stands for a missing value; an empty block scalar does so too. -/
def Node.isMissing : Node → Bool
  | .scalar .block "" => true
  | node => node.isNull

def Node.string? (node : Node) : Option String :=
  if node.isNull then none
  else match node with
    | .tagged tag _ => if isTypedTag tag then none else node.text?
    | _ => node.text?

def Node.bool? (node : Node) : Option Bool := node.text?.bind fun text => Wide.bool? text.toList

def Node.unsigned? (node : Node) : Option Nat :=
  node.text?.bind fun text => Wide.unsigned? text.toList

/-- The names of the numbers that have no digits. -/
def specialName? : Decimal.Binary64 → Option String
  | .nan => some ".nan"
  | .infinity true => some "-.inf"
  | .infinity false => some ".inf"
  | .finite .. => none

/-- What a scalar is where any value may stand. A tag can make a plain one text,
and a quoted one cannot be anything else. -/
def Node.anyScalar? : Node → Option (String × Wide.Scalar)
  | .scalar style text =>
    some (text, if style = .plain then Wide.Scalar.ofPlain text.toList else .text)
  | .tagged tag (.scalar style text) =>
    if tag = nullTag then some (text, .null)
    else if !isTypedTag tag then some (text, .text)
    else if style = .plain then some (text, Wide.Scalar.ofPlain text.toList)
    else none
  | _ => none

/-- A value of any kind; a number without digits stands for its name. -/
def Node.value? (node : Node) : Option DocumentValue := do
  match ← node.anyScalar? with
  | (_, .null) => none
  | (_, .bool value) => some (.bool value)
  | (_, .integer n) => some (.ofInt n)
  | (_, .float x) => some (match specialName? x with
    | some name => .ofText name
    | none => .float x)
  | (text, .text) => some (.ofText text)

/-- A scalar that can only be read as text. -/
def Node.pureText? (node : Node) : Option String := do
  match ← node.anyScalar? with
  | (text, .text) => some text
  | (_, .float x) => specialName? x
  | _ => none

def Node.select? (node : Node) : Option Select :=
  match node.content with
  | .sequence items => (items.mapM Node.pureText?).map .fields
  | _ => node.pureText?.map .raw

def readOption {α : Type} (decode : Decoder α) : Decoder (Option α) := fun node =>
  if node.isMissing then pure none else some <$> decode node

/-- Reads the items of a list. Each item takes at least its own node. -/
def readItemsOf {α : Type} (decode : Decoder α) : Nat → List Node → Option (List α)
  | _, [] => some []
  | 0, _ :: _ => none
  | fuel + 1, node :: rest => do
    let (item, left) ← (decode node).run rest
    let items ← readItemsOf decode fuel left
    some (item :: items)

def readList {α : Type} (decode : Decoder α) : Decoder (List α) := alone fun node =>
  match node.content with
  | .sequence items => readItemsOf decode items.length items
  | _ => if node.isNull then some [] else none

/-- The key under which a mapping takes over the entries of others. -/
def isMergeKey : Node → Bool
  | .scalar .plain text => text = "<<"
  | _ => false

mutual

/-- The entries that a node gives to a mapping that takes it over. Of several
nodes the last comes first, and own entries come before those taken over. -/
def Node.givenEntries? : Node → Option (List (Node × Node))
  | .mapping entries => ownThenGiven? entries [] []
  | .sequence items => givenByAll? items []
  | .scalar style text => if (Node.scalar style text).isNull then some [] else none
  | .tagged _ node => node.givenEntries?

def givenByAll? : List Node → List (Node × Node) → Option (List (Node × Node))
  | [], later => some later
  | node :: rest, later => do givenByAll? rest ((← node.givenEntries?) ++ later)

/-- The entries of a mapping, given its first own entries and those taken over. -/
def ownThenGiven? : List (Node × Node) → List (Node × Node) → List (Node × Node) →
    Option (List (Node × Node))
  | [], own, given => some (own ++ given)
  | (key, value) :: rest, own, given =>
    if isMergeKey key then do ownThenGiven? rest own ((← value.givenEntries?) ++ given)
    else ownThenGiven? rest (own ++ [(key, value)]) given

end

/-- The entries of a record by the names of their keys. -/
def namedEntries? (entries : List (Node × Node)) : Option (List (String × Node)) :=
  entries.mapM fun (key, value) => key.text?.map (·, value)

/-- Keeps the first entry of each name, except for the given names. -/
def firstOfEach : List String → List (String × Node) → List (String × Node)
  | _, [] => []
  | seen, (name, value) :: rest =>
    if name ∈ seen then firstOfEach seen rest
    else (name, value) :: firstOfEach (name :: seen) rest

/-- A record's own entries, and after them the entries taken over from others. -/
def recordEntries? (entries : List (Node × Node)) : Option (List (String × Node)) := do
  let (merges, own) := entries.partition fun (key, _) => isMergeKey key
  let own ← namedEntries? own
  let given ← (← givenByAll? (merges.map Prod.snd) []) |> namedEntries?
  some (own ++ firstOfEach (own.map Prod.fst) given)

/-- The entries of a node that is read as a record. -/
def Node.fields? (node : Node) : Option (List (String × Node)) :=
  match node.content with
  | .mapping entries => recordEntries? entries
  | _ => if node.isNull then some [] else none

abbrev Field (σ : Type) := Shape.Field Node Reading σ

/-- Reads named entries into a draft; each field may occur once. -/
def readFields {σ : Type} (fields : List (Field σ)) :
    List String → σ → List (String × Node) → Option σ
  | _, draft, [] => some draft
  | seen, draft, (name, node) :: rest => do
    let field ← fields.find? fun field => field.name = name
    if name ∈ seen then none
    else
      let (draft, _) ← (field.read draft node).run []
      readFields fields (name :: seen) draft rest

def readRecord {σ : Type} (_typeName : String) (fields : List (Field σ)) (draft : σ) : Decoder σ :=
  alone fun node => do
    let entries ← node.fields?
    let filled ← readFields fields [] draft entries
    match Shape.missingField? fields (entries.map Prod.fst) with
    | some _ => none
    | none => some filled

abbrev Variant (α : Type) := Shape.Variant Node Reading α

/-- Reads a choice. What a variant carries is its value in a mapping with one
entry, or the node after its name in the list. -/
def readVariant {α : Type} (variants : List (String × Variant α)) : Decoder α := fun node =>
  match node.content with
  | .mapping [(key, node)] => alone (fun node => do
    match ← variants.lookup (← key.text?) with
    | .bare value => if node.isNull then some value else none
    | .carrying read => ((read node).run []).map Prod.fst) node
  | _ => fun following => do
    match ← variants.lookup (← node.text?) with
    | .bare value => some (value, following)
    | .carrying read =>
      match following with
      | next :: rest => (read next).run rest
      | [] => none

def format : Format Node Reading where
  string := alone Node.string?
  bool := alone Node.bool?
  unsigned := alone Node.unsigned?
  value := alone Node.value?
  select := alone Node.select?
  option := readOption
  list := readList
  record := readRecord
  choice := readVariant
  tooDeep := fun _ => failure

/-- Reads a whole text; a text without a document counts as an empty one. -/
def readText {α : Type} (decode : Decoder α) (text : String) : Option α := do
  let node ← Node.ofText? .documents text
  ((decode (node.getD .empty)).run []).map Prod.fst

/-- Reads a text that is a single value. -/
def readValueText (text : String) : Option DocumentValue := readText (alone Node.value?) text

/-- A query document; nesting takes at least a character for each level. -/
def readDocument (text : String) : Option Document := readText (format.document text.length) text

end QueryOptions.Yaml
