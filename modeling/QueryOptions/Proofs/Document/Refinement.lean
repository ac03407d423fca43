import Mathlib.Data.List.Forall2
import QueryOptions.Proofs.Document.Acceptance
import QueryOptions.Proofs.Query.Parts

/-!
# What an applied document has built

A document that goes through leaves nothing behind and nothing out: relations
stand in the query as they stand in the document, at every level and in the
same order, each with its own fields, filter and sort keys. Paging that the
document does not state is that of the defaults.
-/

namespace QueryOptions

/-- Steps go through on the empty filter and build a filter, the one that their calls build
regardless of places. -/
structure Filter.IsBuiltBy (f : Filter) (steps : List FilterStep) : Prop where
  failure_eq : (applySteps {} steps).failure = none
  state_eq : (applySteps {} steps).state = f
  made : performAll {} (steps.flatMap FilterStep.freeCalls) = .ok f

theorem Filter.isBuiltBy_of_applySteps {steps : List FilterStep}
    (succeeds : (applySteps {} steps).failure = none) :
    (applySteps {} steps).state.IsBuiltBy steps where
  failure_eq := succeeds
  state_eq := rfl
  made :=
    have decided := decides_applySteps steps
    decided.made (decided.accepts_iff.mp succeeds)

/-- A relation is what a document says, and so are the relations below it, one for each child of
the document. -/
inductive ExpandDocument.Describes : ExpandDocument → Expand → Prop
  | intro {document node} :
      node.relation = document.relation →
      node.select = (document.select.elim .empty fun select => Select.empty.extend select) →
      node.filter.IsBuiltBy document.filter →
      node.orderBy = document.orderBy →
      List.Forall₂ Describes document.expand node.children →
      Describes document node

namespace Progress

variable {σ τ ε δ : Type}

@[simp] theorem state_start (state : σ) : (start state : Progress σ ε).state = state := rfl

@[simp] theorem failure_start (state : σ) : (start state : Progress σ ε).failure = none := rfl

@[simp] theorem state_map (p : Progress σ ε) (onState : σ → τ) (onFailure : ε → δ) :
    (p.map onState onFailure).state = onState p.state := rfl

@[simp] theorem failure_map (p : Progress σ ε) (onState : σ → τ) (onFailure : ε → δ) :
    (p.map onState onFailure).failure = p.failure.map onFailure := rfl

theorem failure_map_eq_none_iff {p : Progress σ ε} {onState : σ → τ} {onFailure : ε → δ} :
    (p.map onState onFailure).failure = none ↔ p.failure = none := by
  rw [failure_map, Option.map_eq_none_iff]

theorem failure_andThen (p : Progress σ ε) (next : σ → Progress σ ε) :
    (p.andThen next).failure = p.failure.or (next p.state).failure := by
  unfold andThen
  split
  next error failed => simp [failed]
  next succeeds => simp [succeeds]

theorem failure_andThen_eq_none_iff {p : Progress σ ε} {next : σ → Progress σ ε} :
    (p.andThen next).failure = none ↔ p.failure = none ∧ (next p.state).failure = none := by
  rw [failure_andThen, Option.or_eq_none_iff]

theorem state_andThen {p : Progress σ ε} (succeeds : p.failure = none)
    (next : σ → Progress σ ε) : (p.andThen next).state = (next p.state).state := by
  simp [andThen, succeeds]

end Progress

theorem Expand.foldl_addSortKey (keys : List SortKey) (node : Expand) :
    keys.foldl addSortKey node = { node with orderBy := node.orderBy ++ keys } := by
  induction keys generalizing node with
  | nil => cases node; simp
  | cons key rest inductionHypothesis => simp [inductionHypothesis, addSortKey]

theorem Query.foldl_addSortKey (keys : List SortKey) (q : Query) :
    keys.foldl addSortKey q = { q with orderBy := q.orderBy ++ keys } := by
  induction keys generalizing q with
  | nil => simp
  | cons key rest inductionHypothesis => simp [inductionHypothesis, addSortKey]

namespace ExpandDocument

/-- A document fills a node part by part; the fields are added before anything can fail. -/
theorem apply_eq (document : ExpandDocument) (node : Expand) :
    document.apply node =
      (((document.select.elim node node.addSelect).applyFilter document.filter).andThen
        fun node => .start (document.orderBy.foldl Expand.addSortKey node)).andThen
        fun node => applyChildren document.expand node := by
  obtain ⟨relation, select, filter, orderBy, expand⟩ := document
  cases select <;> rfl

theorem elim_addSelect_ofRelation (select : Option Select) (relation : String) :
    select.elim (Expand.ofRelation relation) (Expand.ofRelation relation).addSelect =
      { Expand.ofRelation relation with select := select.elim .empty Select.empty.extend } := by
  cases select <;> rfl

theorem forest_induction {motive : List ExpandDocument → Prop} (nil : motive [])
    (cons : ∀ document rest, motive document.expand → motive rest →
      motive (document :: rest)) : ∀ documents, motive documents
  | [] => nil
  | ⟨relation, select, filter, orderBy, expand⟩ :: rest =>
    cons ⟨relation, select, filter, orderBy, expand⟩ rest
      (forest_induction nil cons expand) (forest_induction nil cons rest)

/-- Documents that go through add to a node the relations that they describe. -/
def AddChildren (documents : List ExpandDocument) : Prop :=
  ∀ node : Expand, (applyChildren documents node).failure = none →
    ∃ children, (applyChildren documents node).state =
        { node with children := node.children ++ children } ∧
      List.Forall₂ Describes documents children

theorem describes_apply_of_addChildren {document : ExpandDocument}
    (below : AddChildren document.expand)
    (succeeds : (document.apply (.ofRelation document.relation)).failure = none) :
    document.Describes (document.apply (.ofRelation document.relation)).state := by
  obtain ⟨relation, select, filter, orderBy, expand⟩ := document
  let selected : Expand :=
    { Expand.ofRelation relation with select := select.elim .empty Select.empty.extend }
  rw [apply_eq, elim_addSelect_ofRelation] at succeeds ⊢
  obtain ⟨sorted, childrenAdded⟩ := Progress.failure_andThen_eq_none_iff.mp succeeds
  obtain ⟨filtered, -⟩ := Progress.failure_andThen_eq_none_iff.mp sorted
  have built : (Filter.applySteps {} filter).failure = none :=
    Progress.failure_map_eq_none_iff.mp filtered
  have state : ((selected.applyFilter filter).andThen
        fun node => .start (orderBy.foldl Expand.addSortKey node)).state =
      { selected with filter := (Filter.applySteps {} filter).state, orderBy := orderBy } := by
    rw [Progress.state_andThen filtered, Progress.state_start, Expand.foldl_addSortKey]
    rfl
  rw [Progress.state_andThen sorted]
  rw [state] at childrenAdded ⊢
  obtain ⟨children, reached, described⟩ := below _ childrenAdded
  rw [reached]
  exact .intro rfl rfl (Filter.isBuiltBy_of_applySteps built) rfl described

theorem addChildren (documents : List ExpandDocument) : AddChildren documents := by
  induction documents using forest_induction with
  | nil => exact fun node _ => ⟨[], by cases node; simp [applyChildren], .nil⟩
  | cons document rest belowHypothesis restHypothesis =>
      intro node succeeds
      rw [applyChildren] at succeeds ⊢
      obtain ⟨filled, others⟩ := Progress.failure_andThen_eq_none_iff.mp succeeds
      have described := describes_apply_of_addChildren belowHypothesis
        (Progress.failure_map_eq_none_iff.mp filled)
      obtain ⟨children, reached, describedRest⟩ := restHypothesis _ others
      rw [Progress.state_andThen filled]
      refine ⟨_ :: children, ?_, .cons described describedRest⟩
      rw [reached]
      simp [Expand.addChild]

theorem describes_apply {document : ExpandDocument}
    (succeeds : (document.apply (.ofRelation document.relation)).failure = none) :
    document.Describes (document.apply (.ofRelation document.relation)).state :=
  describes_apply_of_addChildren (addChildren document.expand) succeeds

end ExpandDocument

theorem Query.state_applyExpand {documents : List ExpandDocument} {q : Query}
    (succeeds : (q.applyExpand documents).failure = none) :
    ∃ nodes, (q.applyExpand documents).state = { q with expand := q.expand ++ nodes } ∧
      List.Forall₂ ExpandDocument.Describes documents nodes := by
  induction documents generalizing q with
  | nil => exact ⟨[], by simp [applyExpand], .nil⟩
  | cons document rest inductionHypothesis =>
      rw [applyExpand] at succeeds ⊢
      obtain ⟨filled, others⟩ := Progress.failure_andThen_eq_none_iff.mp succeeds
      have described := ExpandDocument.describes_apply
        (Progress.failure_map_eq_none_iff.mp filled)
      obtain ⟨nodes, reached, describedRest⟩ := inductionHypothesis others
      rw [Progress.state_andThen filled]
      refine ⟨_ :: nodes, ?_, .cons described describedRest⟩
      rw [reached]
      simp [addExpand]

/-- A document that is applied to a query from defaults and goes through has built exactly what it
describes: the forest of relations, the filter and the sort keys of the query, its fields and its
address; and paging, where that of the defaults stands in for what the document does not state. -/
theorem Document.apply_builds_described (d : Document) (defaults : Defaults)
    (succeeds : (d.apply (Query.ofDefaults defaults)).failure = none) :
    let q := (d.apply (Query.ofDefaults defaults)).state
    List.Forall₂ ExpandDocument.Describes d.expand q.expand ∧
    q.filter.IsBuiltBy d.filter ∧ q.orderBy = d.orderBy ∧ q.select = d.select ∧ q.url = d.url ∧
    q.top = d.top.or defaults.top ∧ q.skip = d.skip.or defaults.skip ∧
    q.showCount = d.count.getD (defaults.pagination || defaults.showCount) ∧
    q.pagination = d.pagination.getD defaults.pagination := by
  unfold apply at succeeds ⊢
  obtain ⟨expanded, -⟩ := Progress.failure_andThen_eq_none_iff.mp succeeds
  obtain ⟨sorted, nodesAdded⟩ := Progress.failure_andThen_eq_none_iff.mp expanded
  obtain ⟨filtered, -⟩ := Progress.failure_andThen_eq_none_iff.mp sorted
  have built : (Filter.applySteps {} d.filter).failure = none :=
    Progress.failure_map_eq_none_iff.mp filtered
  obtain ⟨nodes, reached, described⟩ := Query.state_applyExpand nodesAdded
  rw [Progress.state_andThen expanded, Progress.state_andThen sorted, reached,
    Progress.state_andThen filtered, Progress.state_start, Progress.state_start,
    Query.foldl_addSortKey]
  refine ⟨described, Filter.isBuiltBy_of_applySteps built, rfl, ?_, ?_, ?_, ?_, rfl, rfl⟩ <;>
    simp [applyPaging, applyFilter, applyHead, Query.ofDefaults]

/-- Relations two levels deep with a filter on each side of a nesting, and paging half stated. -/
theorem Document.apply_builds_described_nested :
    let books : ExpandDocument :=
      { relation := "Books", select := some (.fields ["Title"]),
        filter := [.not, .openGroup, .compare { field := "Year", op := .gt, value := .integer 9 },
          .closeGroup],
        expand := [{ relation := "Publisher" }] }
    let authors : ExpandDocument :=
      { relation := "Authors",
        filter := [.beginLambda .any "Awards",
          .compare { field := "Name", op := .eq, value := .text "a" }, .endLambda .any],
        orderBy := [⟨"Name", .desc⟩], expand := [books] }
    let steps : List FilterStep := [.compare { field := "Age", op := .lt, value := .integer 40 }]
    let d : Document :=
      { filter := steps, expand := [authors, { relation := "Place" }], skip := some 5 }
    let applied := d.apply (.ofDefaults { top := some 20, pagination := true })
    let shown (node : Expand) := (node.relation, node.select, node.filter.render)
    applied.failure = none ∧
    List.Forall₂ ExpandDocument.Describes [authors, { relation := "Place" }]
      applied.state.expand ∧
    (Expand.forestNodes applied.state.expand).map shown =
      [("Publisher", .empty, .ok ""), ("Books", .fields ["Title"], .ok "Not (Year gt 9)"),
        ("Authors", .empty, .ok "Awards/any(x:x/Name eq 'a')"), ("Place", .empty, .ok "")] ∧
    applied.state.filter.IsBuiltBy steps ∧ applied.state.filter.render = .ok "Age lt 40" ∧
    applied.state.top = some 20 ∧ applied.state.skip = some 5 ∧
    applied.state.showCount = true := by
  intro books authors steps d applied shown
  have succeeds : applied.failure = none := by rfl
  obtain ⟨relations, built, -, -, -, top, skip, showCount, -⟩ :=
    apply_builds_described d _ succeeds
  exact ⟨succeeds, relations, by decide +kernel, built, by decide, top, skip, showCount⟩

end QueryOptions
