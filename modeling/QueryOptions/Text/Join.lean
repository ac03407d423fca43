/-!
Joining texts with a separator, and cutting a text at a separator character.
-/

namespace QueryOptions.Text

/-- The parts with a separator between neighbours. -/
def join (separator : String) : List String → String
  | [] => ""
  | [part] => part
  | part :: next :: rest => part ++ separator ++ join separator (next :: rest)

/-- One after another. -/
def concat : List String → String
  | [] => ""
  | part :: rest => part ++ concat rest

/-- The pieces between the occurrences of a character; there is always one. -/
def cut (separator : Char) : List Char → List (List Char)
  | [] => [[]]
  | c :: rest =>
    if c = separator then [] :: cut separator rest
    else match cut separator rest with
      | [] => [[c]]
      | piece :: pieces => (c :: piece) :: pieces

@[simp] theorem join_nil (separator : String) : join separator [] = "" := rfl

@[simp] theorem join_singleton (separator part : String) : join separator [part] = part := rfl

theorem join_cons_cons (separator part next : String) (rest : List String) :
    join separator (part :: next :: rest) =
      part ++ separator ++ join separator (next :: rest) := rfl

@[simp] theorem concat_nil : concat [] = "" := rfl

@[simp] theorem concat_cons (part : String) (rest : List String) :
    concat (part :: rest) = part ++ concat rest := rfl

theorem concat_append (first second : List String) :
    concat (first ++ second) = concat first ++ concat second := by
  induction first with
  | nil => simp
  | cons part rest ih => simp [ih, String.append_assoc]

theorem cut_ne_nil (separator : Char) (text : List Char) : cut separator text ≠ [] := by
  cases text with
  | nil => simp [cut]
  | cons c rest =>
    rw [cut]
    split
    · simp
    · split <;> simp

end QueryOptions.Text
