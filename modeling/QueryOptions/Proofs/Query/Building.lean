import QueryOptions.Proofs.Filter.Calls
import QueryOptions.Proofs.Query.Parts

/-!
# Queries built by calls

A query starts from defaults and is built on in any order: its filter by calls
of which some may fail, its forest by adding relations that were built in the
same way. Whatever the calls, every filter in it has come about by moves.
-/

namespace QueryOptions

/-- The relations that calls can build. One that is built on after it was added
to another is reached like one that was complete before. -/
inductive Expand.Reachable : Expand → Prop
  | ofRelation (relation : String) : Reachable (ofRelation relation)
  | addSelect {node} (select : Select) : Reachable node → Reachable (node.addSelect select)
  | callFilter {node} (call : FilterCall) : Reachable node →
      Reachable { node with filter := node.filter.attempt call }
  | addSortKey {node} (key : SortKey) : Reachable node → Reachable (node.addSortKey key)
  | addChild {node child} : Reachable node → Reachable child → Reachable (node.addChild child)

/-- The queries that calls can build; plain fields take any value. -/
inductive Query.Reachable : Query → Prop
  | ofDefaults (defaults : Defaults) : Reachable (ofDefaults defaults)
  | setFields {q} (select : Option Select) (top skip : Option Nat) (showCount pagination : Bool)
      (url : Option String) : Reachable q →
      Reachable { q with
        select := select, top := top, skip := skip, showCount := showCount,
        pagination := pagination, url := url }
  | callFilter {q} (call : FilterCall) : Reachable q →
      Reachable { q with filter := q.filter.attempt call }
  | addSortKey {q} (key : SortKey) : Reachable q → Reachable (q.addSortKey key)
  | addExpand {q node} : Reachable q → node.Reachable → Reachable (q.addExpand node)

theorem Expand.forestNodes_append (first second : List Expand) :
    forestNodes (first ++ second) = forestNodes first ++ forestNodes second := by
  induction first with
  | nil => rfl
  | cons node rest inductionHypothesis => simp [inductionHypothesis]

namespace Parts

/-- The filter has been built by calls, and so have those of all relations below. -/
structure IsBuilt (parts : Parts) : Prop where
  filter : parts.filter.IsBuilt
  expand : ∀ node ∈ Expand.forestNodes parts.expand, node.filter.IsBuilt

/-- Adding a relation brings its own filter and those below it. -/
theorem IsBuilt.forestNodes_concat {parts : Parts} {child : Expand} (built : parts.IsBuilt)
    (childBuilt : child.parts.IsBuilt) :
    ∀ node ∈ Expand.forestNodes (parts.expand ++ [child]), node.filter.IsBuilt := by
  intro node present
  rw [Expand.forestNodes_append, List.mem_append] at present
  rcases present with before | added
  · exact built.expand node before
  · rw [Expand.forestNodes_cons, Expand.forestNodes_nil, List.mem_append,
      List.mem_singleton] at added
    rcases added with below | rfl
    · exact childBuilt.expand node below
    · exact childBuilt.filter

end Parts

theorem Expand.Reachable.isBuilt {node : Expand} (reached : node.Reachable) :
    node.parts.IsBuilt := by
  induction reached with
  | ofRelation relation =>
      exact ⟨Filter.isBuilt_empty, fun node present => absurd present List.not_mem_nil⟩
  | addSelect _ _ inductionHypothesis =>
      exact ⟨inductionHypothesis.filter, inductionHypothesis.expand⟩
  | callFilter call _ inductionHypothesis =>
      exact ⟨inductionHypothesis.filter.attempt call, inductionHypothesis.expand⟩
  | addSortKey _ _ inductionHypothesis =>
      exact ⟨inductionHypothesis.filter, inductionHypothesis.expand⟩
  | addChild _ _ inductionHypothesis childHypothesis =>
      exact ⟨inductionHypothesis.filter, inductionHypothesis.forestNodes_concat childHypothesis⟩

theorem Query.Reachable.isBuilt {q : Query} (reached : q.Reachable) : q.parts.IsBuilt := by
  induction reached with
  | ofDefaults defaults =>
      exact ⟨Filter.isBuilt_empty, fun node present => absurd present List.not_mem_nil⟩
  | setFields _ _ _ _ _ _ _ inductionHypothesis =>
      exact ⟨inductionHypothesis.filter, inductionHypothesis.expand⟩
  | callFilter call _ inductionHypothesis =>
      exact ⟨inductionHypothesis.filter.attempt call, inductionHypothesis.expand⟩
  | addSortKey _ _ inductionHypothesis =>
      exact ⟨inductionHypothesis.filter, inductionHypothesis.expand⟩
  | addExpand _ node inductionHypothesis =>
      exact ⟨inductionHypothesis.filter, inductionHypothesis.forestNodes_concat node.isBuilt⟩

end QueryOptions
