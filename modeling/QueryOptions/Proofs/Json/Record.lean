import Mathlib.Data.List.Forall2
import QueryOptions.Json.Decode
import QueryOptions.Proofs.Query.Parts

/-!
# What a record is read from

A record that is read has each of its values from the one node that stands for
that field, under its name in an object or at its position in an array. No
other entry has a part in it.
-/

namespace QueryOptions

theorem except_map_eq_ok {ε α β : Type} {outcome : Except ε α} {f : α → β} {result : β} :
    outcome.map f = .ok result ↔ ∃ value, outcome = .ok value ∧ f value = result := by
  cases outcome <;> simp [Except.map]

namespace Json

/-- The node that stands for a field of a record. -/
def Node.member? (name : String) (position : Nat) : Node → Option Node
  | .object entries _ _ => entries.lookup name
  | .array items _ => items[position]?
  | _ => none

/-- One field decides what is read in one place of a record. -/
structure Governs {σ α : Type} (fields : List (Field σ)) (name : String) (decode : Decoder α)
    (get : σ → α) : Prop where
  own : ∀ field ∈ fields, field.name = name → ∀ draft node read,
    field.read draft node = .ok read → decode node = .ok (get read)
  others : ∀ field ∈ fields, field.name ≠ name → ∀ draft node read,
    field.read draft node = .ok read → get read = get draft

namespace Governs

variable {σ α β : Type} {fields : List (Field σ)} {name other : String} {decode : Decoder α}
  {decodeOther : Decoder β} {get : σ → α} {required : Bool}

theorem nil : Governs ([] : List (Field σ)) name decode get where
  own := by simp
  others := by simp

theorem cons_own {put : σ → α → σ} (gets : ∀ draft value, get (put draft value) = value)
    (governs : Governs fields name decode get) :
    Governs (Shape.field name required decode put :: fields) name decode get where
  own := by
    refine List.forall_mem_cons.mpr ⟨fun _ draft node read fieldRead => ?_, governs.own⟩
    obtain ⟨value, decoded, rfl⟩ := except_map_eq_ok.mp fieldRead
    rw [decoded, gets]
  others := List.forall_mem_cons.mpr ⟨fun differs => absurd rfl differs, governs.others⟩

theorem cons_other {put : σ → β → σ} (differs : other ≠ name)
    (keeps : ∀ draft value, get (put draft value) = get draft)
    (governs : Governs fields name decode get) :
    Governs (Shape.field other required decodeOther put :: fields) name decode get where
  own := List.forall_mem_cons.mpr ⟨fun same => absurd same differs, governs.own⟩
  others := by
    refine List.forall_mem_cons.mpr ⟨fun _ draft node read fieldRead => ?_, governs.others⟩
    obtain ⟨value, -, rfl⟩ := except_map_eq_ok.mp fieldRead
    exact keeps draft value

theorem tail {field : Field σ} (governs : Governs (field :: fields) name decode get) :
    Governs fields name decode get where
  own := (List.forall_mem_cons.mp governs.own).2
  others := (List.forall_mem_cons.mp governs.others).2

end Governs

section Objects

variable {σ α : Type} {fields : List (Field σ)} {name : String} {decode : Decoder α}
  {get : σ → α} {seen : List String} {draft result : σ} {entries : List (String × Node)}

theorem readFields_cons {key : String} {node : Node}
    (read : readFields fields seen draft ((key, node) :: entries) = .ok result) :
    ∃ field ∈ fields, field.name = key ∧ key ∉ seen ∧ ∃ next, field.read draft node = .ok next ∧
      readFields fields (key :: seen) next entries = .ok result := by
  unfold readFields at read
  split at read
  next => cases read
  next field found =>
    split at read
    next => cases read
    next fresh =>
      obtain ⟨next, fieldRead, rest⟩ := except_bind_eq_ok.mp read
      have named : field.name = key := by simpa using List.find?_some found
      exact ⟨field, List.mem_of_find?_eq_some found, named, fresh, next, fieldRead, rest⟩

/-- No field is given twice. -/
theorem lookup_of_seen (read : readFields fields seen draft entries = .ok result)
    (given : name ∈ seen) : entries.lookup name = none := by
  induction entries generalizing seen draft with
  | nil => rfl
  | cons entry entries inductionHypothesis =>
      obtain ⟨key, node⟩ := entry
      obtain ⟨field, _, _, fresh, next, _, rest⟩ := readFields_cons read
      have differs : name ≠ key := fun same => fresh (same ▸ given)
      rw [List.lookup_cons, beq_false_of_ne differs]
      exact inductionHypothesis rest (List.mem_cons_of_mem key given)

theorem optional_of_missingField? {field : Field σ}
    (complete : Shape.missingField? fields (entries.map Prod.fst) = none)
    (listed : field ∈ fields) (absent : entries.lookup field.name = none) :
    field.required = false := by
  have given := List.find?_eq_none.mp (Option.map_eq_none_iff.mp complete) field listed
  have missing : field.name ∉ entries.map Prod.fst := by
    intro key
    obtain ⟨entry, listed, same⟩ := List.mem_map.mp key
    have differs := List.lookup_eq_none_iff.mp absent entry listed
    simp [same] at differs
  rw [← List.contains_iff_mem, Bool.not_eq_true] at missing
  rw [missing] at given
  simpa using given

variable (governs : Governs fields name decode get)

include governs

theorem readFields_absent (read : readFields fields seen draft entries = .ok result)
    (absent : entries.lookup name = none) : get result = get draft := by
  induction entries generalizing seen draft with
  | nil =>
      cases read
      rfl
  | cons entry entries inductionHypothesis =>
      obtain ⟨key, node⟩ := entry
      obtain ⟨field, listed, named, -, next, fieldRead, rest⟩ := readFields_cons read
      by_cases same : name = key
      · simp [same] at absent
      · rw [List.lookup_cons, beq_false_of_ne same] at absent
        have differs : field.name ≠ name := fun field => same (field.symm.trans named)
        rw [inductionHypothesis rest absent, governs.others field listed differs _ _ _ fieldRead]

theorem readFields_present {node : Node}
    (read : readFields fields seen draft entries = .ok result)
    (present : entries.lookup name = some node) : decode node = .ok (get result) := by
  induction entries generalizing seen draft with
  | nil => cases present
  | cons entry entries inductionHypothesis =>
      obtain ⟨key, given⟩ := entry
      obtain ⟨field, listed, named, -, next, fieldRead, rest⟩ := readFields_cons read
      by_cases same : name = key
      · simp only [List.lookup_cons, same, beq_self_eq_true, Option.some.injEq] at present
        have absent : entries.lookup name = none := lookup_of_seen rest (by simp [same])
        rw [readFields_absent governs rest absent, ← present]
        exact governs.own field listed (named.trans same.symm) _ _ _ fieldRead
      · rw [List.lookup_cons, beq_false_of_ne same] at present
        exact inductionHypothesis rest present

end Objects

section Arrays

variable {σ α : Type} {fields : List (Field σ)} {name expected : String} {decode : Decoder α}
  {get : σ → α} {closed : Bool} {start : Nat} {draft result : σ} {items : List Node}

theorem readPositions_cons {field : Field σ} {node : Node}
    (read : readPositions expected closed start (field :: fields) draft (node :: items) =
      .ok result) :
    ∃ next, field.read draft node = .ok next ∧
      readPositions expected closed (start + 1) fields next items = .ok result :=
  except_bind_eq_ok.mp read

theorem readPositions_short {field : Field σ}
    (read : readPositions expected closed start (field :: fields) draft [] = .ok result) :
    field.required = false ∧
      readPositions expected closed (start + 1) fields draft [] = .ok result := by
  unfold readPositions at read
  split at read
  next => cases read
  next =>
    split at read
    next => cases read
    next optional => exact ⟨Bool.eq_false_iff.mpr optional, read⟩

theorem readPositions_absent (governs : Governs fields name decode get)
    (read : readPositions expected closed start fields draft items = .ok result)
    (absent : name ∉ fields.map Shape.Field.name) : get result = get draft := by
  induction fields generalizing items start draft with
  | nil =>
      cases items with
      | nil =>
          unfold readPositions at read
          split at read
          next => exact congrArg get (Except.ok.inj read).symm
          next => cases read
      | cons node items => cases read
  | cons field fields inductionHypothesis =>
      obtain ⟨differs, others⟩ := not_or.mp (mt List.mem_cons.mpr absent)
      cases items with
      | nil =>
          obtain ⟨-, rest⟩ := readPositions_short read
          exact inductionHypothesis governs.tail rest others
      | cons node items =>
          obtain ⟨next, fieldRead, rest⟩ := readPositions_cons read
          rw [inductionHypothesis governs.tail rest others,
            governs.others field List.mem_cons_self (Ne.symm differs) _ _ _ fieldRead]

/-- A position that is not reached is one of a field that may be missing. -/
theorem readPositions_listed (governs : Governs fields name decode get)
    (distinct : (fields.map Shape.Field.name).Nodup) (listed : name ∈ fields.map Shape.Field.name)
    (read : readPositions expected closed start fields draft items = .ok result) :
    (∃ member, items[(fields.map Shape.Field.name).idxOf name]? = some member ∧
      decode member = .ok (get result)) ∨
    (items[(fields.map Shape.Field.name).idxOf name]? = none ∧ get result = get draft ∧
      ∃ field ∈ fields, field.name = name ∧ field.required = false) := by
  induction fields generalizing items start draft with
  | nil => cases listed
  | cons field fields inductionHypothesis =>
      obtain ⟨once, distinct⟩ := List.nodup_cons.mp distinct
      by_cases own : field.name = name
      · rw [own] at once
        simp only [List.map_cons, own, List.idxOf_cons_self]
        cases items with
        | nil =>
            obtain ⟨optional, rest⟩ := readPositions_short read
            exact .inr ⟨rfl, readPositions_absent governs.tail rest once, field,
              List.mem_cons_self, own, optional⟩
        | cons node items =>
            obtain ⟨next, fieldRead, rest⟩ := readPositions_cons read
            refine .inl ⟨node, rfl, ?_⟩
            rw [readPositions_absent governs.tail rest once]
            exact governs.own field List.mem_cons_self own _ _ _ fieldRead
      · have later : name ∈ fields.map Shape.Field.name :=
          (List.mem_cons.mp listed).resolve_left (Ne.symm own)
        rw [List.map_cons, List.idxOf_cons_ne _ own]
        cases items with
        | nil =>
            obtain ⟨-, rest⟩ := readPositions_short read
            rcases inductionHypothesis governs.tail distinct later rest with
              ⟨member, present, -⟩ | ⟨-, kept, other, listed, optional⟩
            · cases present
            · exact .inr ⟨rfl, kept, other, List.mem_cons_of_mem _ listed, optional⟩
        | cons node items =>
            obtain ⟨next, fieldRead, rest⟩ := readPositions_cons read
            have kept := governs.others field List.mem_cons_self own _ _ _ fieldRead
            rcases inductionHypothesis governs.tail distinct later rest with
              present | ⟨absent, same, other, listed, optional⟩
            · exact .inl present
            · exact .inr ⟨absent, same.trans kept, other, List.mem_cons_of_mem _ listed, optional⟩

end Arrays

section Records

variable {σ α : Type} {fields : List (Field σ)} {name typeName : String} {decode : Decoder α}
  {get : σ → α} {draft result : σ} {node : Node} {position : Nat}

/-- What a record holds in one place is read from the member for it, or it is what the draft holds
and the field may be missing. -/
theorem readRecord_member (governs : Governs fields name decode get)
    (distinct : (fields.map Shape.Field.name).Nodup)
    (place : (fields.map Shape.Field.name)[position]? = some name)
    (read : readRecord typeName fields draft node = .ok result) :
    (∃ member, node.member? name position = some member ∧ decode member = .ok (get result)) ∨
    (node.member? name position = none ∧ get result = get draft ∧
      ∃ field ∈ fields, field.name = name ∧ field.required = false) := by
  have listed : name ∈ fields.map Shape.Field.name := List.mem_of_getElem? place
  cases node with
  | object entries stray closed =>
      obtain ⟨whole, fieldsRead, rest⟩ := except_bind_eq_ok.mp read
      split at rest
      next => cases rest
      next =>
        split at rest
        next => cases rest
        next complete =>
          cases rest
          cases present : entries.lookup name with
          | some member =>
              exact .inl ⟨member, present, readFields_present governs fieldsRead present⟩
          | none =>
              obtain ⟨field, member, rfl⟩ := List.mem_map.mp listed
              exact .inr ⟨present, readFields_absent governs fieldsRead present, field, member, rfl,
                optional_of_missingField? complete member present⟩
  | array items closed =>
      have index : (fields.map Shape.Field.name).idxOf name = position := by
        obtain ⟨within, found⟩ := List.getElem?_eq_some_iff.mp place
        rw [← found, distinct.idxOf_getElem]
      rw [← index]
      exact readPositions_listed governs distinct listed read
  | null | bool | string | malformed => cases read
  | number value => cases value <;> cases read

theorem readRecord_required (governs : Governs fields name decode get)
    (distinct : (fields.map Shape.Field.name).Nodup)
    (place : (fields.map Shape.Field.name)[position]? = some name)
    (required : ∀ field ∈ fields, field.name = name → field.required = true)
    (read : readRecord typeName fields draft node = .ok result) :
    ∃ member, node.member? name position = some member ∧ decode member = .ok (get result) := by
  rcases readRecord_member governs distinct place read with
    present | ⟨-, -, field, listed, named, optional⟩
  · exact present
  · cases (required field listed named).symm.trans optional

end Records

end Json

end QueryOptions
