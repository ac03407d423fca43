import QueryOptions.Proofs.Query.Shape

/-!
# Projections that accumulate

The projections that an expanded relation is given are joined in their order,
and an empty list among them leaves no trace. An empty text does: it counts as a
blank field, though as the projection of a query it is left out.
-/

namespace QueryOptions

namespace Text

variable {separator : String}

theorem join_append {first second : List String} (filled : first ≠ []) (more : second ≠ []) :
    join separator (first ++ second) =
      join separator first ++ separator ++ join separator second := by
  obtain ⟨next, others, rfl⟩ := List.exists_cons_of_ne_nil more
  induction first with
  | nil => exact absurd rfl filled
  | cons part rest inductionHypothesis =>
      cases rest with
      | nil => rfl
      | cons follower rest =>
          rw [List.cons_append, List.cons_append, join_cons_cons, ← List.cons_append,
            inductionHypothesis (List.cons_ne_nil _ _), join_cons_cons]
          simp [String.append_assoc]

/-- Lists of parts may be joined one by one. -/
theorem join_flatMap {α : Type} {parts : α → List String} {items : List α}
    (filled : ∀ item ∈ items, parts item ≠ []) :
    join separator (items.flatMap parts) =
      join separator (items.map fun item => join separator (parts item)) := by
  induction items with
  | nil => rfl
  | cons item rest inductionHypothesis =>
      obtain ⟨first, later⟩ := List.forall_mem_cons.mp filled
      cases rest with
      | nil => simp
      | cons next rest =>
          have more : (next :: rest).flatMap parts ≠ [] := by
            simp [List.forall_mem_cons.mp later |>.1]
          rw [List.flatMap_cons, join_append first more, inductionHypothesis later]
          rfl

/-- The lengths of all parts, each with one separator. -/
def weight (parts : List String) : Nat :=
  parts.foldr (fun part total => part.length + 1 + total) 0

@[simp] theorem weight_nil : weight [] = 0 := rfl

@[simp] theorem weight_cons (part : String) (rest : List String) :
    weight (part :: rest) = part.length + 1 + weight rest := rfl

theorem weight_append (first second : List String) :
    weight (first ++ second) = weight first + weight second := by
  induction first with
  | nil => simp
  | cons part rest inductionHypothesis =>
      rw [List.cons_append, weight_cons, weight_cons, inductionHypothesis]
      omega

theorem length_join_comma {parts : List String} (filled : parts ≠ []) :
    (join "," parts).length + 1 = weight parts := by
  induction parts with
  | nil => exact absurd rfl filled
  | cons part rest inductionHypothesis =>
      cases rest with
      | nil => rfl
      | cons next rest =>
          have later := inductionHypothesis (List.cons_ne_nil _ _)
          have comma : ",".length = 1 := rfl
          rw [join_cons_cons, String.length_append, String.length_append, comma, weight_cons,
            ← later]
          omega

end Text

namespace Select

variable {selects : List Select}

/-- The texts of those projections that count, joined in their order; absent if there are none. -/
def combined? (counts : Select → Bool) (selects : List Select) : Option String :=
  let texts := (selects.filter counts).map fun select => Text.join "," select.entries
  if texts = [] then none else some (Text.join "," texts)

/-- A text always gives an entry, even an empty text. -/
def hasEntries (select : Select) : Bool := select.entries ≠ []

def isGiven (select : Select) : Bool := !select.isEmpty

theorem hasEntries_of_isGiven {select : Select} (given : select.isGiven = true) :
    select.hasEntries = true := by
  cases select <;> simp_all [isGiven, isEmpty, hasEntries, entries]

theorem isEmpty_iff {select : Select} :
    select.isEmpty = true ↔ select = .fields [] ∨ select = .raw "" := by
  cases select <;> simp [isEmpty]

theorem foldl_extend (selects : List Select) (names : List String) :
    selects.foldl extend (.fields names) = .fields (names ++ selects.flatMap entries) := by
  induction selects generalizing names with
  | nil => simp
  | cons select rest inductionHypothesis =>
      rw [List.foldl_cons, extend, inductionHypothesis]
      simp [entries]

/-- Projections with entries are combined by putting their entries one after another. -/
theorem combined?_eq_render? {counts : Select → Bool}
    (entered : ∀ select, counts select = true → select.hasEntries = true) :
    combined? counts selects = (fields ((selects.filter counts).flatMap entries)).render? := by
  have filled : ∀ select ∈ selects.filter counts, select.entries ≠ [] := by
    intro select kept
    exact of_decide_eq_true (entered select (List.mem_filter.mp kept).2)
  have joined : Text.join "," ((selects.filter counts).flatMap entries) =
      Text.join "," ((selects.filter counts).map fun select => Text.join "," select.entries) :=
    Text.join_flatMap filled
  cases kept : selects.filter counts with
  | nil => simp [combined?, kept, render?, isEmpty]
  | cons first rest =>
      rw [kept] at filled joined
      have some : (first :: rest).flatMap entries ≠ [] := by
        simp [filled]
      have nonempty : (fields ((first :: rest).flatMap entries)).isEmpty = false :=
        List.isEmpty_eq_false_iff.mpr some
      rw [render?_eq_some.mpr ⟨nonempty, joined.symm⟩, combined?, kept]
      exact if_neg (by simp)

theorem flatMap_entries_filter (selects : List Select) :
    (selects.filter hasEntries).flatMap entries = selects.flatMap entries := by
  induction selects with
  | nil => rfl
  | cons select rest inductionHypothesis =>
      by_cases entered : select.entries = [] <;>
        simp [hasEntries, entered, inductionHypothesis]

theorem render?_foldl_extend (selects : List Select) :
    (selects.foldl extend .empty).render? = combined? hasEntries selects := by
  rw [combined?_eq_render? fun _ entered => entered, flatMap_entries_filter, empty, foldl_extend,
    List.nil_append]

/-- An empty text among projections adds a separator. -/
theorem weight_flatMap_entries (selects : List Select) :
    Text.weight (selects.flatMap entries) =
      Text.weight ((selects.filter isGiven).flatMap entries) + selects.count (.raw "") := by
  induction selects with
  | nil => rfl
  | cons select rest inductionHypothesis =>
      rw [List.flatMap_cons, Text.weight_append, inductionHypothesis, List.count_cons]
      by_cases empty : select.isEmpty = true
      · rw [List.filter_cons_of_neg (by simp [isGiven, empty])]
        rcases isEmpty_iff.mp empty with rfl | rfl
        · simp [entries]
        · simp [entries]
          omega
      · have other : select ≠ .raw "" := by
          rintro rfl
          exact empty rfl
        rw [List.filter_cons_of_pos (by simpa [isGiven] using empty), List.flatMap_cons,
          Text.weight_append]
        simp [other]
        omega

theorem weight_eq_of_render?_eq {first second : List String}
    (same : (fields first).render? = (fields second).render?) :
    Text.weight first = Text.weight second := by
  cases first with
  | nil => cases second <;> simp_all [render?, isEmpty]
  | cons name names =>
      cases second with
      | nil => simp [render?, isEmpty] at same
      | cons other others =>
          have texts : Text.join "," (name :: names) = Text.join "," (other :: others) := by
            simpa [render?, isEmpty, entries] using same
          rw [← Text.length_join_comma (List.cons_ne_nil _ _),
            ← Text.length_join_comma (List.cons_ne_nil _ _), texts]

/-- Only an empty text makes a difference between projections with entries and projections that
are not empty. -/
theorem combined?_eq_iff :
    combined? hasEntries selects = combined? isGiven selects ↔ .raw "" ∉ selects := by
  constructor
  · intro same
    rw [combined?_eq_render? fun _ entered => entered, flatMap_entries_filter,
      @combined?_eq_render? selects isGiven fun _ => hasEntries_of_isGiven] at same
    have weights := weight_eq_of_render?_eq same
    rw [weight_flatMap_entries] at weights
    exact List.count_eq_zero.mp (by omega)
  · intro absent
    have kept : selects.filter hasEntries = selects.filter isGiven := by
      apply List.filter_congr
      intro select present
      cases select with
      | raw text =>
          have other : text ≠ "" := fun same => absent (same ▸ present)
          simp [hasEntries, isGiven, isEmpty, entries, other]
      | fields names => cases names <;> rfl
    rw [combined?, combined?, kept]

end Select

theorem Compiled.get?_ofValues (value? : QueryKey → Option String) (key : QueryKey) :
    (ofValues value?).get? key = value? key := by
  have found (other : QueryKey) :
      (parameter other (value? other)).find? (fun pair => pair.1 = key) =
        if other = key then (value? other).map (Prod.mk other) else none := by
    cases value? other <;> by_cases same : other = key <;> simp [parameter, same]
  cases key <;> simp [get?, ofValues, QueryKey.inOrder, found, Function.comp_def]

theorem Parts.get?_select {parts : Parts} {compiled : Compiled}
    (compiles : parts.compile = .ok compiled) :
    compiled.get? .select = parts.select.bind Select.render? := by
  obtain ⟨items, condition, -, -, rfl⟩ := compile_eq_ok_iff.mp compiles
  rw [Compiled.assemble_eq_ofValues, Compiled.get?_ofValues]

theorem Select.combined?_singleton (select : Select) :
    combined? isGiven [select] = select.render? := by
  cases empty : select.isEmpty <;> simp [combined?, isGiven, render?, empty]

namespace Expand

theorem foldl_addSelect (selects : List Select) (node : Expand) :
    selects.foldl addSelect node =
      { node with select := selects.foldl Select.extend node.select } := by
  induction selects generalizing node with
  | nil =>
      cases node
      rfl
  | cons select rest inductionHypothesis =>
      rw [List.foldl_cons, inductionHypothesis]
      rfl

theorem get?_select_foldl_addSelect {selects : List Select} {node : Expand} {options : Compiled}
    (fresh : node.select = .empty)
    (compiles : (selects.foldl addSelect node).options.outcome = .ok options) :
    options.get? .select = Select.combined? Select.hasEntries selects := by
  rw [outcome_options] at compiles
  rw [Parts.get?_select compiles, foldl_addSelect, ← Select.render?_foldl_extend, ← fresh]
  rfl

/-- The projections that a new relation is given are joined in their order, without those that are
empty lists. Those that are empty texts are blank fields among them, so that the outcome is the
same as without empty projections exactly if there is no such text, and for a single projection
the same as on a query. -/
theorem select_accumulates (selects : List Select) (relation : String) (filter : Filter)
    (orderBy : OrderBy) (children : List Expand) :
    let fresh : Expand := { relation, filter, orderBy, children }
    (∃ options, (selects.foldl addSelect (ofRelation relation)).options.outcome = .ok options) ∧
    (∀ options, (selects.foldl addSelect fresh).options.outcome = .ok options →
      options.get? .select = Select.combined? Select.hasEntries selects ∧
        (options.get? .select = Select.combined? Select.isGiven selects ↔ .raw "" ∉ selects)) ∧
    ∀ select (q : Query) options compiled,
      (fresh.addSelect select).options.outcome = .ok options →
      { q with select := some select }.compile = .ok compiled →
        (options.get? .select = compiled.get? .select ↔ select ≠ .raw "") := by
  intro fresh
  refine ⟨?_, ?_, ?_⟩
  · rw [outcome_options, foldl_addSelect]
    exact ⟨_, rfl⟩
  · intro options compiles
    have accumulated := get?_select_foldl_addSelect rfl compiles
    refine ⟨accumulated, ?_⟩
    rw [accumulated]
    exact Select.combined?_eq_iff
  · intro select q options compiled optionsCompile compiles
    have accumulated : options.get? .select = Select.combined? Select.hasEntries [select] :=
      @get?_select_foldl_addSelect [select] fresh options rfl optionsCompile
    rw [Query.compile_eq] at compiles
    have replaced : compiled.get? .select = Select.combined? Select.isGiven [select] := by
      rw [Parts.get?_select compiles, Select.combined?_singleton]
      rfl
    rw [accumulated, replaced, Select.combined?_eq_iff, List.mem_singleton, ne_comm]

/-- An empty text is a blank field of a relation, and no projection of a query. -/
theorem select_accumulates_blank :
    let selects : List Select := [.raw "", .fields [], .fields ["Id", "Name"], .raw "Age"]
    let node := selects.foldl addSelect (ofRelation "Owner")
    let blank := (ofRelation "Owner").addSelect (.raw "")
    let q : Query := { select := some (.raw "") }
    (node.options.outcome = .ok ⟨[(.select, ",Id,Name,Age")]⟩ ∧
      Select.combined? Select.isGiven selects ≠ some ",Id,Name,Age") ∧
    blank.options.outcome = .ok ⟨[(.select, "")]⟩ ∧ q.compile = .ok ⟨[]⟩ ∧
      some "" ≠ (⟨[]⟩ : Compiled).get? .select := by
  intro selects node blank q
  obtain ⟨-, accumulates, single⟩ := select_accumulates selects "Owner" {} [] []
  have compiles : node.options.outcome = .ok ⟨[(.select, ",Id,Name,Age")]⟩ := by decide
  have blankCompiles : blank.options.outcome = .ok ⟨[(.select, "")]⟩ := by decide
  have queryCompiles : q.compile = .ok ⟨[]⟩ := by decide
  have written := (accumulates _ compiles).2
  refine ⟨⟨compiles, ?_⟩, blankCompiles, queryCompiles, ?_⟩
  · intro same
    exact written.mp same.symm (by simp [selects])
  · intro same
    exact (single (.raw "") {} _ _ blankCompiles queryCompiles).mp same rfl

end Expand

end QueryOptions
