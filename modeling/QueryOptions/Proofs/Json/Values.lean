import QueryOptions.Document.Json
import QueryOptions.Proofs.Document.Literals
import QueryOptions.Proofs.Json.Record

/-!
# The values of a document in JSON

The values in the steps of a filter stand in certain members of the nodes from
which the steps are read, and so do the filters of expanded relations at every
level.
-/

namespace QueryOptions

namespace Json

namespace Node

/-- The node of the value in a step, if the step has one. -/
def stepValue? : Node → Option Node
  | .object ((kind, node) :: _) _ _ =>
    if kind = "compare" then node.member? "value" 2
    else if kind = "end_count" then node.member? "value" 1
    else none
  | _ => none

def items : Option Node → List Node
  | some (.array items _) => items
  | _ => []

/-- The nodes of the steps of a filter, in a document or in an expanded relation. -/
def steps (node : Node) : List Node := items (node.member? "filter" 2)

/-- The nodes of the expanded relations, in a document or in another one. -/
def expanded (node : Node) : List Node := items (node.member? "expand" 4)

/-- The nodes of the values in a filter, from the first step to the last. -/
def values (node : Node) : List Node := node.steps.filterMap stepValue?

end Node

variable {node : Node}

theorem comparison_value {comparison : StepComparison}
    (read : format.comparison node = .ok comparison) :
    ∃ value, node.member? "value" 2 = some value ∧ readValue value = .ok comparison.value := by
  obtain ⟨draft, recordRead, rfl⟩ := except_map_eq_ok.mp read
  have governs : Governs format.comparisonFields "value" readValue ComparisonDraft.value :=
    .cons_other (by decide) (fun _ _ => rfl) <| .cons_other (by decide) (fun _ _ => rfl) <|
      .cons_own (fun _ _ => rfl) <| .cons_other (by decide) (fun _ _ => rfl) <|
      .cons_other (by decide) (fun _ _ => rfl) .nil
  have required : ∀ field ∈ format.comparisonFields, field.name = "value" →
      field.required = true := by
    simp [Format.comparisonFields, Shape.field]
  have held : ∃ value, node.member? "value" 2 = some value ∧ readValue value = .ok draft.value :=
    readRecord_required governs (by decide) rfl required recordRead
  exact held

theorem count_value {op : CompareOp} {value : DocumentValue}
    (read : format.countComparison node = .ok (op, value)) :
    ∃ member, node.member? "value" 1 = some member ∧ readValue member = .ok value := by
  have governs : Governs format.countFields "value" readValue Prod.snd :=
    .cons_other (by decide) (fun _ _ => rfl) <| .cons_own (fun _ _ => rfl) .nil
  have required : ∀ field ∈ format.countFields, field.name = "value" →
      field.required = true := by
    simp [Format.countFields, Shape.field]
  exact readRecord_required governs (by decide) rfl required read

theorem mem_of_findVariant {α : Type} {variants : List (String × Variant α)} {name : String}
    {variant : Variant α} (found : findVariant variants name = .ok variant) :
    (name, variant) ∈ variants := by
  unfold findVariant at found
  split at found
  next present =>
    cases found
    obtain ⟨before, after, split, -⟩ := List.lookup_eq_some_iff.mp present
    simp [split]
  next => cases found

theorem mismatch_ne_ok {α : Type} {expected : String} {value : α} :
    mismatch expected node ≠ .ok value := by
  intro same
  cases node with
  | number found => cases found <;> cases same
  | _ => cases same

theorem variant_of_readVariant {α : Type} {variants : List (String × Variant α)} {result : α}
    (read : readVariant variants node = .ok result) :
    (∃ name, node = .string name ∧ (name, .bare result) ∈ variants) ∨
    ∃ name member rest stray closed variant, node = .object ((name, member) :: rest) stray closed ∧
      (name, variant) ∈ variants ∧ readCarried member variant = .ok result := by
  unfold readVariant at read
  split at read
  next name =>
    obtain ⟨variant, found, alone⟩ := except_bind_eq_ok.mp read
    cases variant with
    | bare value =>
        cases alone
        exact .inl ⟨name, rfl, mem_of_findVariant found⟩
    | carrying _ => cases alone
  next name member rest stray closed =>
    obtain ⟨variant, found, more⟩ := except_bind_eq_ok.mp read
    obtain ⟨value, carried, ended⟩ := except_bind_eq_ok.mp more
    split at ended
    next =>
      cases ended
      exact .inr ⟨name, member, rest, stray, closed, variant, rfl, mem_of_findVariant found,
        carried⟩
    next => cases ended
  next => exact absurd read mismatch_ne_ok
  next => cases read

variable {name : String} {step : FilterStep}

theorem value?_of_bare (listed : (name, .bare step) ∈ format.stepVariants) :
    step.value? = none := by
  simp only [Format.stepVariants, List.mem_cons, Prod.mk.injEq, Shape.Variant.bare.injEq,
    reduceCtorEq, and_false, false_or, List.not_mem_nil, or_false] at listed
  rcases listed with ⟨-, rfl⟩ | ⟨-, rfl⟩ | ⟨-, rfl⟩ | ⟨-, rfl⟩ | ⟨-, rfl⟩ | ⟨-, rfl⟩ | ⟨-, rfl⟩ <;>
    rfl

theorem value?_of_carrying {α : Type} {decode : Decoder α} {make : α → FilterStep}
    (plain : ∀ value, (make value).value? = none)
    (carried : readCarried node (.carrying fun node => make <$> decode node) = .ok step) :
    step.value? = none := by
  obtain ⟨value, -, rfl⟩ := except_map_eq_ok.mp carried
  exact plain value

theorem carried_cases {variant : Variant FilterStep}
    (listed : (name, variant) ∈ format.stepVariants)
    (carried : readCarried node variant = .ok step) :
    (name = "compare" ∧ ∃ comparison, format.comparison node = .ok comparison ∧
      step = .compare comparison) ∨
    (name = "end_count" ∧ ∃ op value, format.countComparison node = .ok (op, value) ∧
      step = .endCount op value) ∨
    (name ≠ "compare" ∧ name ≠ "end_count" ∧ step.value? = none) := by
  cases variant with
  | bare value =>
      obtain ⟨-, -, rfl⟩ := except_map_eq_ok.mp carried
      refine .inr (.inr ⟨?_, ?_, value?_of_bare listed⟩)
      · rintro rfl
        simp [Format.stepVariants] at listed
      · rintro rfl
        simp [Format.stepVariants] at listed
  | carrying read =>
      simp only [Format.stepVariants, List.mem_cons, Prod.mk.injEq, Shape.Variant.carrying.injEq,
        reduceCtorEq, and_false, false_or, List.not_mem_nil, or_false] at listed
      rcases listed with ⟨rfl, rfl⟩ | ⟨rfl, rfl⟩ | ⟨rfl, rfl⟩ | ⟨rfl, rfl⟩ | ⟨rfl, rfl⟩
      · obtain ⟨comparison, read, rfl⟩ := except_map_eq_ok.mp carried
        exact .inl ⟨rfl, comparison, read, rfl⟩
      · exact .inr (.inr ⟨by decide, by decide, value?_of_carrying (fun _ => rfl) carried⟩)
      · exact .inr (.inr ⟨by decide, by decide, value?_of_carrying (fun _ => rfl) carried⟩)
      · exact .inr (.inr ⟨by decide, by decide, value?_of_carrying (fun _ => rfl) carried⟩)
      · obtain ⟨⟨op, value⟩, read, rfl⟩ := except_map_eq_ok.mp carried
        exact .inr (.inl ⟨rfl, op, value, read, rfl⟩)

/-- The value of a step is read from the node for it, and there is one if there is the other. -/
theorem step_value (read : format.step node = .ok step) :
    Option.Rel (fun member value => readValue member = .ok value) node.stepValue? step.value? := by
  rcases variant_of_readVariant read with
    ⟨name, rfl, listed⟩ | ⟨name, member, rest, stray, closed, variant, rfl, listed, carried⟩
  · rw [value?_of_bare listed]
    exact .none
  · rcases carried_cases listed carried with
      ⟨rfl, comparison, recordRead, rfl⟩ | ⟨rfl, op, value, recordRead, rfl⟩ |
        ⟨notCompare, notCount, plain⟩
    · obtain ⟨value, present, valueRead⟩ := comparison_value recordRead
      rw [Node.stepValue?, if_pos rfl, present]
      exact .some valueRead
    · obtain ⟨value, present, valueRead⟩ := count_value recordRead
      rw [Node.stepValue?, if_neg (by decide), if_pos rfl, present]
      exact .some valueRead
    · rw [Node.stepValue?, if_neg notCompare, if_neg notCount, plain]
      exact .none

theorem forall₂_of_readItemsWith {α : Type} {decode : Decoder α} {items : List Node}
    {values : List α} (read : readItemsWith decode items = .ok values) :
    List.Forall₂ (fun item value => decode item = .ok value) items values := by
  induction items generalizing values with
  | nil =>
      cases read
      exact .nil
  | cons item items inductionHypothesis =>
      obtain ⟨value, itemRead, more⟩ := except_bind_eq_ok.mp read
      obtain ⟨others, othersRead, made⟩ := except_bind_eq_ok.mp more
      cases made
      exact .cons itemRead (inductionHypothesis othersRead)

theorem forall₂_of_readList {α : Type} {decode : Decoder α} {values : List α}
    (read : readList decode node = .ok values) :
    List.Forall₂ (fun item value => decode item = .ok value) (Node.items (some node)) values := by
  unfold readList at read
  split at read
  next items closed =>
    obtain ⟨found, itemsRead, ended⟩ := except_bind_eq_ok.mp read
    split at ended
    next =>
      cases ended
      exact forall₂_of_readItemsWith itemsRead
    next => cases ended
  next => exact absurd read mismatch_ne_ok

/-- A list in a record is read item by item from the array for it, and is empty without one. -/
theorem forall₂_of_readRecord {σ α : Type} {fields : List (Field σ)} {field typeName : String}
    {decode : Decoder α} {get : σ → List α} {draft result : σ} {position : Nat}
    (governs : Governs fields field (readList decode) get)
    (distinct : (fields.map Shape.Field.name).Nodup)
    (place : (fields.map Shape.Field.name)[position]? = some field) (default : get draft = [])
    (read : readRecord typeName fields draft node = .ok result) :
    List.Forall₂ (fun item value => decode item = .ok value)
      (Node.items (node.member? field position)) (get result) := by
  rcases readRecord_member governs distinct place read with
    ⟨member, present, listRead⟩ | ⟨absent, kept, -⟩
  · rw [present]
    exact forall₂_of_readList listRead
  · rw [absent, kept, default]
    exact .nil

theorem forall₂_values {steps : List FilterStep}
    (read : List.Forall₂ (fun item step => format.step item = .ok step) node.steps steps) :
    List.Forall₂ (fun member value => readValue member = .ok value) node.values
      (steps.filterMap FilterStep.value?) :=
  List.rel_filterMap (fun _ _ stepRead => step_value stepRead) read

section Sections

variable {levels : Nat} {below : Decoder ExpandDocument}

theorem governs_documentFilter :
    Governs (format.documentFields levels) "filter" (readList format.step) Document.filter :=
  .cons_other (by decide) (fun _ _ => rfl) <| .cons_other (by decide) (fun _ _ => rfl) <|
    .cons_own (fun _ _ => rfl) <| .cons_other (by decide) (fun _ _ => rfl) <|
    .cons_other (by decide) (fun _ _ => rfl) <| .cons_other (by decide) (fun _ _ => rfl) <|
    .cons_other (by decide) (fun _ _ => rfl) <| .cons_other (by decide) (fun _ _ => rfl) <|
    .cons_other (by decide) (fun _ _ => rfl) .nil

theorem governs_documentExpand :
    Governs (format.documentFields levels) "expand" (readList (format.expand levels))
      Document.expand :=
  .cons_other (by decide) (fun _ _ => rfl) <| .cons_other (by decide) (fun _ _ => rfl) <|
    .cons_other (by decide) (fun _ _ => rfl) <| .cons_other (by decide) (fun _ _ => rfl) <|
    .cons_own (fun _ _ => rfl) <| .cons_other (by decide) (fun _ _ => rfl) <|
    .cons_other (by decide) (fun _ _ => rfl) <| .cons_other (by decide) (fun _ _ => rfl) <|
    .cons_other (by decide) (fun _ _ => rfl) .nil

theorem governs_expandFilter :
    Governs (format.expandFields below) "filter" (readList format.step) ExpandDocument.filter :=
  .cons_other (by decide) (fun _ _ => rfl) <| .cons_other (by decide) (fun _ _ => rfl) <|
    .cons_own (fun _ _ => rfl) <| .cons_other (by decide) (fun _ _ => rfl) <|
    .cons_other (by decide) (fun _ _ => rfl) .nil

theorem governs_expandExpand :
    Governs (format.expandFields below) "expand" (readList below) ExpandDocument.expand :=
  .cons_other (by decide) (fun _ _ => rfl) <| .cons_other (by decide) (fun _ _ => rfl) <|
    .cons_other (by decide) (fun _ _ => rfl) <| .cons_other (by decide) (fun _ _ => rfl) <|
    .cons_own (fun _ _ => rfl) .nil

/-- What the filter and the expanded relations of a document are read from. -/
theorem sections_of_document {d : Document} (read : format.document levels node = .ok d) :
    List.Forall₂ (fun item step => format.step item = .ok step) node.steps d.filter ∧
    List.Forall₂ (fun child document => format.expand levels child = .ok document) node.expanded
      d.expand := by
  have distinct : ((format.documentFields levels).map Shape.Field.name).Nodup := by
    simp [Format.documentFields, Shape.field]
  constructor
  · exact forall₂_of_readRecord governs_documentFilter distinct rfl rfl read
  · exact forall₂_of_readRecord governs_documentExpand distinct rfl rfl read

theorem sections_of_expand {document : ExpandDocument}
    (read : format.expand (levels + 1) node = .ok document) :
    List.Forall₂ (fun item step => format.step item = .ok step) node.steps document.filter ∧
    List.Forall₂ (fun child document => format.expand levels child = .ok document) node.expanded
      document.expand := by
  have distinct : ((format.expandFields (format.expand levels)).map Shape.Field.name).Nodup := by
    simp [Format.expandFields, Shape.field]
  constructor
  · exact forall₂_of_readRecord governs_expandFilter distinct rfl rfl read
  · exact forall₂_of_readRecord governs_expandExpand distinct rfl rfl read

end Sections

end Json

end QueryOptions
