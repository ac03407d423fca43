import Mathlib.Data.List.Induction
import QueryOptions.Proofs.Query.Building

/-!
# Calls on queries

The calls that build a query, as data: those on its own parts, and those on a
relation that was added last, which may be a call on the relation added last to
that one, and so on. Whatever calls are made on a query that calls have built,
it stays one.
-/

namespace QueryOptions

/-- What becomes of a call, with the events that it records. -/
abbrev CallOutcome := Logged ChainError Unit

/-- A call on a filter, or through one of its cursors. -/
inductive CursorCall where
  | make (call : FilterCall)
  /-- Asks for the relation that owns the filter. -/
  | leave

def CursorCall.perform (owned : Bool) (f : Filter) : CursorCall → Filter × CallOutcome
  | .make call =>
    (f.attempt call, ⟨f.announce call, (Chain.call ⟨call.place, f⟩ call).map fun _ => ()⟩)
  | .leave => (f, ⟨[], Chain.leave ⟨.operator, f⟩ owned⟩)

mutual

/-- A call on a relation. -/
inductive Expand.Call where
  | select (select : Select)
  | filter (call : CursorCall)
  | orderBy (key : SortKey)
  | children (call : ForestCall)

/-- A call that adds a relation to others, or one on the relation that was added last. -/
inductive ForestCall where
  | add (relation : String)
  | push (node : Expand)
  | last (call : Expand.Call)

end

mutual

def Expand.perform (node : Expand) : Expand.Call → Expand × CallOutcome
  | .select select => (node.addSelect select, .pure ())
  | .filter call =>
    let (filter, outcome) := call.perform true node.filter
    ({ node with filter := filter }, outcome)
  | .orderBy key => (node.addSortKey key, .pure ())
  | .children call =>
    let (children, outcome) := ForestCall.perform node.children call
    ({ node with children := children }, outcome)

def ForestCall.perform (nodes : List Expand) : ForestCall → List Expand × CallOutcome
  | .add relation => (nodes ++ [.ofRelation relation], .pure ())
  | .push node => (nodes ++ [node], .pure ())
  | .last call =>
    match nodes.getLast? with
    -- Nothing has been added that a cursor could stand on.
    | none => (nodes, .pure ())
    | some node =>
      let (node, outcome) := node.perform call
      (nodes.dropLast ++ [node], outcome)

end

namespace Query

/-- A call on a query, or the assignment of one of its fields. -/
inductive Call where
  | select (select : Option Select)
  | filter (call : CursorCall)
  | orderBy (key : SortKey)
  | expand (call : ForestCall)
  | top (top : Option Nat)
  | skip (skip : Option Nat)
  | count (showCount : Bool)
  | paginate (top skip : Option Nat) (showCount : Bool)
  | pagination (pagination : Bool)
  | url (url : Option String)

def perform (q : Query) : Call → Query × CallOutcome
  | .select select => ({ q with select := select }, .pure ())
  | .filter call =>
    let (filter, outcome) := call.perform false q.filter
    ({ q with filter := filter }, outcome)
  | .orderBy key => (q.addSortKey key, .pure ())
  | .expand call =>
    let (expand, outcome) := ForestCall.perform q.expand call
    ({ q with expand := expand }, outcome)
  | .top top => ({ q with top := top }, .pure ())
  | .skip skip => ({ q with skip := skip }, .pure ())
  | .count showCount => ({ q with showCount := showCount }, .pure ())
  | .paginate top skip showCount => (q.paginate top skip showCount, .pure ())
  | .pagination pagination => ({ q with pagination := pagination }, .pure ())
  | .url url => ({ q with url := url }, .pure ())

end Query

theorem ForestCall.perform_last (before : List Expand) (node : Expand) (call : Expand.Call) :
    ForestCall.perform (before ++ [node]) (.last call) =
      (before ++ [(node.perform call).1], (node.perform call).2) := by
  simp [ForestCall.perform]

/-! ## Calls lead to reachable queries -/

mutual

/-- Only relations that calls can build are attached. -/
def Expand.Call.Attaches : Expand.Call → Prop
  | .children call => call.Attaches
  | _ => True

def ForestCall.Attaches : ForestCall → Prop
  | .add _ => True
  | .push node => node.Reachable
  | .last call => call.Attaches

end

def Query.Call.Attaches : Query.Call → Prop
  | .expand call => call.Attaches
  | _ => True

namespace Expand.Reachable

variable {node : Expand}

theorem children (reached : node.Reachable) : ∀ child ∈ node.children, child.Reachable := by
  induction reached with
  | ofRelation relation => exact fun child present => absurd present List.not_mem_nil
  | addSelect _ _ inductionHypothesis => exact inductionHypothesis
  | callFilter _ _ inductionHypothesis => exact inductionHypothesis
  | addSortKey _ _ inductionHypothesis => exact inductionHypothesis
  | addChild _ childReached inductionHypothesis _ =>
      intro child present
      rcases List.mem_append.mp present with before | added
      · exact inductionHypothesis child before
      · rwa [List.mem_singleton.mp added]

theorem withChildren {children : List Expand} (reached : node.Reachable)
    (below : ∀ child ∈ children, child.Reachable) :
    Reachable { node with children := children } := by
  induction reached with
  | ofRelation relation =>
      induction children using List.reverseRecOn with
      | nil => exact .ofRelation relation
      | append_singleton before child inductionHypothesis =>
          rw [List.forall_mem_append, List.forall_mem_singleton] at below
          exact .addChild (inductionHypothesis below.1) below.2
  | addSelect select _ inductionHypothesis => exact .addSelect select inductionHypothesis
  | callFilter call _ inductionHypothesis => exact .callFilter call inductionHypothesis
  | addSortKey key _ inductionHypothesis => exact .addSortKey key inductionHypothesis
  | addChild _ _ inductionHypothesis _ => exact inductionHypothesis

end Expand.Reachable

mutual

theorem Expand.Reachable.perform {node : Expand} (reached : node.Reachable) :
    ∀ call : Expand.Call, call.Attaches → (node.perform call).1.Reachable
  | .select select, _ => .addSelect select reached
  | .filter (.make call), _ => .callFilter call reached
  | .filter .leave, _ => by
    cases node
    exact reached
  | .orderBy key, _ => .addSortKey key reached
  | .children call, attached =>
    reached.withChildren (ForestCall.reachable_perform reached.children call attached)

theorem ForestCall.reachable_perform {nodes : List Expand}
    (reached : ∀ node ∈ nodes, node.Reachable) :
    ∀ call : ForestCall, call.Attaches →
      ∀ node ∈ (ForestCall.perform nodes call).1, node.Reachable
  | .add relation, _ => by
    rw [ForestCall.perform, List.forall_mem_append, List.forall_mem_singleton]
    exact ⟨reached, .ofRelation relation⟩
  | .push child, attached => by
    rw [ForestCall.perform, List.forall_mem_append, List.forall_mem_singleton]
    exact ⟨reached, attached⟩
  | .last call, attached => by
    rcases List.eq_nil_or_concat nodes with rfl | ⟨before, node, rfl⟩
    · exact reached
    · rw [List.concat_eq_append, List.forall_mem_append, List.forall_mem_singleton] at reached
      rw [List.concat_eq_append, ForestCall.perform_last, List.forall_mem_append,
        List.forall_mem_singleton]
      exact ⟨reached.1, reached.2.perform call attached⟩

end

namespace Query.Reachable

variable {q : Query}

theorem expand (reached : q.Reachable) : ∀ node ∈ q.expand, node.Reachable := by
  induction reached with
  | ofDefaults defaults => exact fun node present => absurd present List.not_mem_nil
  | setFields _ _ _ _ _ _ _ inductionHypothesis => exact inductionHypothesis
  | callFilter _ _ inductionHypothesis => exact inductionHypothesis
  | addSortKey _ _ inductionHypothesis => exact inductionHypothesis
  | addExpand _ nodeReached inductionHypothesis =>
      rw [Query.addExpand, List.forall_mem_append, List.forall_mem_singleton]
      exact ⟨inductionHypothesis, nodeReached⟩

theorem withExpand {expand : List Expand} (reached : q.Reachable)
    (below : ∀ node ∈ expand, node.Reachable) : Reachable { q with expand := expand } := by
  induction reached with
  | ofDefaults defaults =>
      induction expand using List.reverseRecOn with
      | nil => exact .ofDefaults defaults
      | append_singleton before node inductionHypothesis =>
          rw [List.forall_mem_append, List.forall_mem_singleton] at below
          exact .addExpand (inductionHypothesis below.1) below.2
  | setFields select top skip showCount pagination url _ inductionHypothesis =>
      exact .setFields select top skip showCount pagination url inductionHypothesis
  | callFilter call _ inductionHypothesis => exact .callFilter call inductionHypothesis
  | addSortKey key _ inductionHypothesis => exact .addSortKey key inductionHypothesis
  | addExpand _ _ inductionHypothesis => exact inductionHypothesis

/-- A query that calls have built stays one, also after a call that fails or that is made on a
relation deep inside. -/
theorem perform (reached : q.Reachable) {call : Query.Call} (attached : call.Attaches) :
    (q.perform call).1.Reachable := by
  cases call with
  | filter call =>
      cases call with
      | make call => exact .callFilter call reached
      | leave => exact reached
  | orderBy key => exact .addSortKey key reached
  | expand call =>
      exact reached.withExpand (ForestCall.reachable_perform reached.expand call attached)
  | select select =>
      exact .setFields select q.top q.skip q.showCount q.pagination q.url reached
  | top top => exact .setFields q.select top q.skip q.showCount q.pagination q.url reached
  | skip skip => exact .setFields q.select q.top skip q.showCount q.pagination q.url reached
  | count showCount => exact .setFields q.select q.top q.skip showCount q.pagination q.url reached
  | paginate top skip showCount =>
      exact .setFields q.select top skip showCount true q.url reached
  | pagination pagination =>
      exact .setFields q.select q.top q.skip q.showCount pagination q.url reached
  | url url => exact .setFields q.select q.top q.skip q.showCount q.pagination url reached

end Query.Reachable

end QueryOptions
