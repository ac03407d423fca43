import QueryOptions.Proofs.Query.Calls
import QueryOptions.Query.Request

/-!
# Calls that do not depend on each other

Every call on a query or on one of its relations concerns one part of it: the
projection, the filter, the sort keys, the relations below, paging or the
address. It reads and changes no other part, even if it fails or is made through
a cursor deep inside. Hence calls of different groups can be made in any order,
as long as those of one group keep theirs.
-/

namespace QueryOptions

/-- Calls on states that have a part for each group. A call leaves the parts of other groups as
they are, and what it does to its own part and what becomes of it depend on this part alone. -/
structure GroupedCalls (State Call Group : Type) where
  perform : State → Call → State × CallOutcome
  group : Call → Group
  /-- A state of which only the part of a group is kept. -/
  only : Group → State → State
  ext : ∀ s t, (∀ g, only g s = only g t) → s = t
  only_perform_of_ne : ∀ s call g, group call ≠ g → only g (perform s call).1 = only g s
  perform_congr : ∀ s t call, only (group call) s = only (group call) t →
    only (group call) (perform s call).1 = only (group call) (perform t call).1 ∧
      (perform s call).2 = (perform t call).2

namespace GroupedCalls

variable {State Call Group : Type} (calls : GroupedCalls State Call Group)

/-- The state after calls one after another, whatever becomes of them. -/
def final (s : State) (made : List Call) : State :=
  made.foldl (fun s call => (calls.perform s call).1) s

/-- Calls one after another with what becomes of them. -/
def trace : State → List Call → List (Call × CallOutcome)
  | _, [] => []
  | s, call :: rest =>
    (call, (calls.perform s call).2) :: trace (calls.perform s call).1 rest

variable [DecidableEq Group]

/-- The calls of every group are the same and in the same order. -/
def IsReordering (first second : List Call) : Prop :=
  ∀ g, first.filter (fun call => calls.group call = g) =
    second.filter (fun call => calls.group call = g)

variable {calls} {g : Group} {s t : State}

/-- For the part of a group the other calls might as well not have been made. -/
theorem only_final (same : calls.only g s = calls.only g t) (made : List Call) :
    calls.only g (calls.final s made) =
      calls.only g (calls.final t (made.filter fun call => calls.group call = g)) := by
  induction made generalizing s t with
  | nil => exact same
  | cons call rest inductionHypothesis =>
      by_cases own : calls.group call = g
      · rw [List.filter_cons_of_pos (by simpa using own)]
        subst own
        exact inductionHypothesis (calls.perform_congr s t call same).1
      · rw [List.filter_cons_of_neg (by simpa using own)]
        exact inductionHypothesis ((calls.only_perform_of_ne s call g own).trans same)

/-- The outcomes of the calls of a group are those without the other calls. -/
theorem filter_trace (same : calls.only g s = calls.only g t) (made : List Call) :
    (calls.trace s made).filter (fun step => calls.group step.1 = g) =
      calls.trace t (made.filter fun call => calls.group call = g) := by
  induction made generalizing s t with
  | nil => rfl
  | cons call rest inductionHypothesis =>
      rw [trace]
      by_cases own : calls.group call = g
      · rw [List.filter_cons_of_pos (by simpa using own),
          List.filter_cons_of_pos (by simpa using own), trace]
        subst own
        obtain ⟨changed, outcome⟩ := calls.perform_congr s t call same
        rw [outcome, inductionHypothesis changed]
      · rw [List.filter_cons_of_neg (by simpa using own),
          List.filter_cons_of_neg (by simpa using own)]
        exact inductionHypothesis ((calls.only_perform_of_ne s call g own).trans same)

theorem IsReordering.final_eq {first second : List Call}
    (reordered : calls.IsReordering first second) (s : State) :
    calls.final s first = calls.final s second := by
  refine calls.ext _ _ fun g => ?_
  have same : calls.only g s = calls.only g s := rfl
  rw [only_final same first, only_final same second, reordered g]

theorem IsReordering.trace_eq {first second : List Call}
    (reordered : calls.IsReordering first second) (s : State) (g : Group) :
    (calls.trace s first).filter (fun step => calls.group step.1 = g) =
      (calls.trace s second).filter (fun step => calls.group step.1 = g) := by
  rw [filter_trace rfl first, filter_trace rfl second, reordered g]

end GroupedCalls

/-! ## Groups of calls on relations and queries -/

namespace Expand

inductive Group where
  | select | filter | orderBy | children
  deriving DecidableEq

def Call.group : Call → Group
  | .select _ => .select
  | .filter _ => .filter
  | .orderBy _ => .orderBy
  | .children _ => .children

def only (node : Expand) : Group → Expand
  | .select => { ofRelation node.relation with select := node.select }
  | .filter => { ofRelation node.relation with filter := node.filter }
  | .orderBy => { ofRelation node.relation with orderBy := node.orderBy }
  | .children => { ofRelation node.relation with children := node.children }

def calls : GroupedCalls Expand Call Group where
  perform := perform
  group := Call.group
  only g node := node.only g
  ext first second same := by
    have select := same .select
    have filter := same .filter
    have orderBy := same .orderBy
    have children := same .children
    cases first
    cases second
    simp_all [only, ofRelation]
  only_perform_of_ne node call g other := by
    cases call <;> cases g <;> first | exact absurd rfl other | rfl
  perform_congr first second call same := by
    cases call <;>
      simp_all [only, ofRelation, Call.group, perform, addSelect, addSortKey]

end Expand

namespace Query

inductive Group where
  | select | filter | orderBy | expand | paging | url
  deriving DecidableEq

def Call.group : Call → Group
  | .select _ => .select
  | .filter _ => .filter
  | .orderBy _ => .orderBy
  | .expand _ => .expand
  | .top _ | .skip _ | .count _ | .paginate .. | .pagination _ => .paging
  | .url _ => .url

def only (q : Query) : Group → Query
  | .select => { select := q.select }
  | .filter => { filter := q.filter }
  | .orderBy => { orderBy := q.orderBy }
  | .expand => { expand := q.expand }
  | .paging =>
    { top := q.top, skip := q.skip, showCount := q.showCount, pagination := q.pagination }
  | .url => { url := q.url }

def calls : GroupedCalls Query Call Group where
  perform := perform
  group := Call.group
  only g q := q.only g
  ext first second same := by
    have select := same .select
    have filter := same .filter
    have orderBy := same .orderBy
    have expand := same .expand
    have paging := same .paging
    have url := same .url
    cases first
    cases second
    simp_all [only]
  only_perform_of_ne q call g other := by
    cases call <;> cases g <;> first | exact absurd rfl other | rfl
  perform_congr first second call same := by
    cases call <;> simp_all [only, Call.group, perform, addSortKey, paginate]

end Query

theorem Query.Reachable.final {q : Query} (reached : q.Reachable) {made : List Query.Call}
    (attached : ∀ call ∈ made, call.Attaches) : (Query.calls.final q made).Reachable := by
  induction made generalizing q with
  | nil => exact reached
  | cons call rest inductionHypothesis =>
      obtain ⟨first, others⟩ := List.forall_mem_cons.mp attached
      exact inductionHypothesis (reached.perform first) others

/-! ## Relations deep inside -/

/-- Where cursors lead to in a forest: at each level to the relation that was added last. -/
inductive Spot where
  | top (before : List Expand)
  | inside (above : Spot) (parent : Expand) (before : List Expand)

namespace Spot

/-- The forest with a relation at this place. -/
def plant : Spot → Expand → List Expand
  | .top before, node => before ++ [node]
  | .inside above parent before, node =>
    above.plant { parent with children := before ++ [node] }

/-- A call on the relation at this place. -/
def reach : Spot → Expand.Call → ForestCall
  | .top _, call => .last call
  | .inside above _ _, call => above.reach (.children (.last call))

theorem perform_reach (spot : Spot) (node : Expand) (call : Expand.Call) :
    ForestCall.perform (spot.plant node) (spot.reach call) =
      (spot.plant (node.perform call).1, (node.perform call).2) := by
  induction spot generalizing node call with
  | top before => exact ForestCall.perform_last before node call
  | inside above parent before inductionHypothesis =>
      rw [plant, reach, inductionHypothesis, Expand.perform, ForestCall.perform_last]
      rfl

/-- Calls on the relation at this place as calls on the query. -/
def calls (spot : Spot) (made : List Expand.Call) : List Query.Call :=
  made.map fun call => .expand (spot.reach call)

/-- Calls through cursors have their effects and outcomes on the relation, wherever it is. -/
theorem final_calls {q : Query} {spot : Spot} {node : Expand}
    (planted : q.expand = spot.plant node) (made : List Expand.Call) :
    Query.calls.final q (spot.calls made) =
        { q with expand := spot.plant (Expand.calls.final node made) } ∧
      (Query.calls.trace q (spot.calls made)).map Prod.snd =
        (Expand.calls.trace node made).map Prod.snd := by
  induction made generalizing q node with
  | nil =>
      refine ⟨?_, rfl⟩
      show q = { q with expand := spot.plant node }
      rw [← planted]
  | cons call rest inductionHypothesis =>
      have step : q.perform (.expand (spot.reach call)) =
          ({ q with expand := spot.plant (node.perform call).1 }, (node.perform call).2) := by
        rw [Query.perform, planted, perform_reach]
      obtain ⟨final, outcomes⟩ := @inductionHypothesis
        { q with expand := spot.plant (node.perform call).1 } (node.perform call).1 rfl
      refine ⟨?_, ?_⟩
      · show Query.calls.final (q.perform _).1 (spot.calls rest) = _
        rw [step, final]
        rfl
      · show (q.perform _).2 :: (Query.calls.trace (q.perform _).1 (spot.calls rest)).map _ = _
        rw [step, outcomes]
        rfl

end Spot

/-- Calls on a query that keep their order within each group give the same query in any order,
with the same outcome of each call, and so the same parameters and address. Likewise for the
calls on a relation, which can be made at any depth of a query: they act on the relation alone
and have the outcomes that they have on the relation by itself. -/
theorem Query.independent_calls_commute :
    (∀ (q : Query) (first second : List Call), calls.IsReordering first second →
      calls.final q first = calls.final q second ∧
        (∀ g, (calls.trace q first).filter (fun step => step.1.group = g) =
          (calls.trace q second).filter fun step => step.1.group = g) ∧
        (calls.final q first).compile = (calls.final q second).compile ∧
        (calls.final q first).requestUrl = (calls.final q second).requestUrl) ∧
      (∀ (node : Expand) (first second : List Expand.Call),
        Expand.calls.IsReordering first second →
          Expand.calls.final node first = Expand.calls.final node second ∧
            ∀ g, (Expand.calls.trace node first).filter (fun step => step.1.group = g) =
              (Expand.calls.trace node second).filter fun step => step.1.group = g) ∧
      ∀ (q : Query) (spot : Spot) (node : Expand) (made : List Expand.Call),
        q.expand = spot.plant node →
          calls.final q (spot.calls made) =
              { q with expand := spot.plant (Expand.calls.final node made) } ∧
            (calls.trace q (spot.calls made)).map Prod.snd =
              (Expand.calls.trace node made).map Prod.snd := by
  refine ⟨?_, ?_, fun _ _ _ made planted => Spot.final_calls planted made⟩
  · intro q first second reordered
    have same := reordered.final_eq q
    refine ⟨same, reordered.trace_eq q, ?_, ?_⟩ <;> rw [same]
  · intro node first second reordered
    exact ⟨reordered.final_eq node, reordered.trace_eq node⟩

/-- A close that fails on the filter of a query fails alike after a relation has been added and
given a filter, and calls on a relation below another one can be exchanged. -/
theorem Query.independent_calls_commute_failing :
    let close : Call := .filter (.make (.endLambda .any))
    let add : Call := .expand (.add "Users")
    let group : Call := .expand (.last (.filter (.make .openGroup)))
    let spot : Spot := .inside (.top []) (.ofRelation "Users") []
    let q : Query := { expand := spot.plant (.ofRelation "Tags") }
    calls.final {} [add, close, group] = calls.final {} [close, add, group] ∧
      (calls.trace {} [add, close, group]).filter (fun step => step.1.group = .filter) =
        [(close, ⟨[], .error (.close (.underflow (.lambda .any)))⟩)] ∧
      calls.final q (spot.calls [.select (.raw "Id"), .filter (.make .openGroup)]) =
        calls.final q (spot.calls [.filter (.make .openGroup), .select (.raw "Id")]) := by
  intro close add group spot q
  obtain ⟨queries, nodes, deep⟩ := independent_calls_commute
  have reordered : calls.IsReordering [add, close, group] [close, add, group] := by
    intro g
    cases g <;> rfl
  have exchanged : Expand.calls.IsReordering [.select (.raw "Id"), .filter (.make .openGroup)]
      [.filter (.make .openGroup), .select (.raw "Id")] := by
    intro g
    cases g <;> rfl
  obtain ⟨same, outcomes, -⟩ := queries {} _ _ reordered
  refine ⟨same, outcomes .filter, ?_⟩
  rw [(deep q spot (.ofRelation "Tags") _ rfl).1, (deep q spot (.ofRelation "Tags") _ rfl).1,
    (nodes _ _ _ exchanged).1]

end QueryOptions
