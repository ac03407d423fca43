/-!
The shapes of structured data, whatever notation it is written in. A notation
has nodes `ν`, and reading one of them gives a result or a fault in `m`.
-/

namespace QueryOptions.Shape

/-- A field of a record that is read into a draft of it. -/
structure Field (ν : Type) (m : Type → Type) (σ : Type) where
  name : String
  required : Bool
  read : σ → ν → m σ

/-- A field whose value is put into the draft. -/
def field {ν : Type} {m : Type → Type} [Functor m] {σ α : Type} (name : String) (required : Bool)
    (decode : ν → m α) (put : σ → α → σ) : Field ν m σ :=
  ⟨name, required, fun draft node => put draft <$> decode node⟩

/-- The first required field that was not given. -/
def missingField? {ν : Type} {m : Type → Type} {σ : Type} (fields : List (Field ν m σ))
    (given : List String) : Option String :=
  (fields.find? fun field => field.required && !given.contains field.name).map Field.name

/-- A variant of a choice, alone or with a value. -/
inductive Variant (ν : Type) (m : Type → Type) (α : Type) where
  | bare (value : α)
  | carrying (read : ν → m α)

end QueryOptions.Shape
