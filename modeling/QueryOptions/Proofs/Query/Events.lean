import Mathlib.Data.List.TakeWhile
import QueryOptions.Proofs.Query.Failure

/-!
# Events of a compilation

A compilation warns of each filter with open groups that it renders, in the
order in which it renders them, and does so no more after a filter with an open
scope has stopped it. Only the compilation of the whole query records that it
has succeeded.
-/

namespace QueryOptions

namespace Logged

variable {ε α β : Type} {first : Logged ε α} {next : α → Logged ε β}

@[simp] theorem events_pure (value : α) : (pure value : Logged ε α).events = [] := rfl

@[simp] theorem events_record (event : Event) :
    (record event : Logged ε Unit).events = [event] := rfl

theorem events_bind_of_ok {value : α} (succeeds : first.outcome = .ok value) :
    (first.bind next).events = first.events ++ (next value).events := by
  rw [bind, succeeds]

theorem events_bind_of_error {error : ε} (fails : first.outcome = .error error) :
    (first.bind next).events = first.events := by
  rw [bind, fails]

end Logged

namespace Filter

theorem isEmpty_scopes_iff {f : Filter} : f.scopes.isEmpty = true ↔ f.unterminated? = none := by
  rw [unterminated?_eq_none_iff, ScopeStack.isEmpty, List.isEmpty_iff]

/-- The warnings of rendering filters one after another: of those with open groups, up to the
first with an open scope. -/
def warnings (filters : List Filter) : List Event :=
  ((filters.takeWhile fun f => f.scopes.isEmpty).filter fun f => f.openGroups ≠ 0).map
    fun f => .unbalancedGroups f.openGroups

variable {first second : List Filter}

theorem warnings_append_of_closed (closed : first.findSome? unterminated? = none) :
    warnings (first ++ second) = warnings first ++ warnings second := by
  have all : ∀ f ∈ first, f.scopes.isEmpty = true := fun f present =>
    isEmpty_scopes_iff.mpr (List.findSome?_eq_none_iff.mp closed f present)
  have whole : first.takeWhile (fun f => f.scopes.isEmpty) = first :=
    List.takeWhile_eq_self_iff.mpr all
  simp only [warnings, whole, List.takeWhile_append_of_pos all, List.filter_append,
    List.map_append]

theorem warnings_append_of_open {error : UnterminatedScope}
    (stopped : first.findSome? unterminated? = some error) :
    warnings (first ++ second) = warnings first := by
  obtain ⟨f, present, opened⟩ := List.exists_of_findSome?_eq_some stopped
  have shorter : (first.takeWhile fun f => f.scopes.isEmpty).length ≠ first.length := by
    intro whole
    have same := (List.takeWhile_prefix fun f : Filter => f.scopes.isEmpty).eq_of_length whole
    have closed := isEmpty_scopes_iff.mp (List.takeWhile_eq_self_iff.mp same f present)
    rw [opened] at closed
    cases closed
  rw [warnings, warnings, List.takeWhile_append, if_neg shorter]

end Filter

/-- Renders filters one after another until one fails, and records nothing but warnings. -/
structure RendersInTurn {α : Type} (filters : List Filter)
    (logged : Logged UnterminatedScope α) : Prop where
  stops : StopsAtFirstOpen filters logged.outcome
  events : logged.events = Filter.warnings filters

namespace RendersInTurn

variable {α β : Type} {first second : List Filter} {logged : Logged UnterminatedScope α}

theorem pure (value : α) : RendersInTurn [] (.pure value) := ⟨.ok value, rfl⟩

theorem bind {next : α → Logged UnterminatedScope β} (renders : RendersInTurn first logged)
    (continues : ∀ value, RendersInTurn second (next value)) :
    RendersInTurn (first ++ second) (logged.bind next) := by
  refine ⟨?_, ?_⟩
  · rw [Logged.outcome_bind]
    exact renders.stops.bind fun value => (continues value).stops
  · have stops := renders.stops
    unfold StopsAtFirstOpen at stops
    cases found : first.findSome? Filter.unterminated? with
    | none =>
        rw [found] at stops
        obtain ⟨value, succeeds⟩ := stops
        rw [Logged.events_bind_of_ok succeeds, renders.events, (continues value).events,
          Filter.warnings_append_of_closed found]
    | some error =>
        rw [found] at stops
        rw [Logged.events_bind_of_error stops, renders.events,
          Filter.warnings_append_of_open found]

theorem map {next : α → β} (renders : RendersInTurn first logged) :
    RendersInTurn first (logged.bind fun value => .pure (next value)) := by
  simpa using renders.bind fun value => pure (next value)

end RendersInTurn

/-- A filter without tokens is not rendered, but it would not give a warning either. -/
theorem Filter.IsBuilt.openGroups_eq_zero {f : Filter} (built : f.IsBuilt) (empty : f.tokens = []) :
    f.openGroups = 0 := by
  obtain ⟨names, built⟩ := built
  simpa [empty] using built.openGroups_eq

theorem Filter.IsBuilt.rendersInTurn {f : Filter} (built : f.IsBuilt) :
    RendersInTurn [f] f.optionLogged := by
  refine ⟨built.stopsAtFirstOpen, ?_⟩
  by_cases empty : f.tokens = []
  · simp [optionLogged, isEmpty, empty, warnings, ScopeStack.isEmpty, built.frames_eq_nil empty,
      built.openGroups_eq_zero empty]
  · cases opened : f.scopes.frames with
    | nil =>
        by_cases balanced : f.openGroups = 0 <;>
          simp [optionLogged, isEmpty, empty, warnings, renderLogged, ScopeStack.innermost,
            ScopeStack.isEmpty, opened, balanced, Logged.bind]
    | cons frame frames =>
        simp [optionLogged, isEmpty, empty, warnings, renderLogged, ScopeStack.innermost,
          ScopeStack.isEmpty, opened, Logged.bind, Logged.fail]

theorem Expand.rendersInTurn_options {node : Expand} (built : node.filter.IsBuilt)
    (below : RendersInTurn ((forestNodes node.children).map Expand.filter)
      (expandItems node.children)) : RendersInTurn node.parts.filters node.options := by
  obtain ⟨relation, select, filter, orderBy, children⟩ := node
  rw [options]
  exact below.bind fun _ => built.rendersInTurn.map

theorem rendersInTurn_expandItems (nodes : List Expand)
    (built : ∀ node ∈ Expand.forestNodes nodes, node.filter.IsBuilt) :
    RendersInTurn ((Expand.forestNodes nodes).map Expand.filter) (expandItems nodes) := by
  induction nodes using Expand.forest_induction with
  | nil => exact .pure []
  | cons node rest childrenHypothesis restHypothesis =>
      simp only [Expand.forestNodes_cons, List.forall_mem_append, List.forall_mem_cons] at built
      obtain ⟨builtBelow, builtHere, builtAfter⟩ := built
      have own := Expand.rendersInTurn_options builtHere (childrenHypothesis builtBelow)
      have filters : (Expand.forestNodes (node :: rest)).map Expand.filter =
          node.parts.filters ++ (Expand.forestNodes rest).map Expand.filter := by
        simp [Parts.filters, Expand.parts]
      rw [filters, expandItems]
      exact own.bind fun _ => (restHypothesis builtAfter).map

theorem Query.rendersInTurn_assembleLogged {q : Query} (built : q.parts.IsBuilt) :
    RendersInTurn q.parts.filters q.assembleLogged :=
  (rendersInTurn_expandItems q.expand built.expand).bind fun _ => built.filter.rendersInTurn.map

/-! ## The height of a forest -/

namespace Expand

/-- A way down a forest: each relation is expanded right below the one before it. -/
inductive Descends : List Expand → List Expand → Prop
  | nil {nodes} : Descends nodes []
  | cons {nodes node path} : node ∈ nodes → Descends node.children path →
      Descends nodes (node :: path)

/-- The greatest number of relations on a way down. -/
structure IsHeight (nodes : List Expand) (height : Nat) : Prop where
  reached : ∃ path, Descends nodes path ∧ path.length = height
  greatest : ∀ path, Descends nodes path → path.length ≤ height

theorem Descends.subset {nodes others path : List Expand} (descends : Descends nodes path)
    (among : nodes ⊆ others) : Descends others path := by
  cases descends with
  | nil => exact .nil
  | cons present below => exact .cons (among present) below

theorem forestDepth_cons (node : Expand) (rest : List Expand) :
    forestDepth (node :: rest) = max (1 + forestDepth node.children) (forestDepth rest) := by
  obtain ⟨relation, select, filter, orderBy, children⟩ := node
  rw [forestDepth, depth]

theorem isHeight_forestDepth (nodes : List Expand) : IsHeight nodes (forestDepth nodes) := by
  induction nodes using forest_induction with
  | nil =>
      refine ⟨⟨[], .nil, rfl⟩, ?_⟩
      rintro _ (_ | ⟨present, _⟩)
      · exact Nat.le_refl 0
      · cases present
  | cons node rest childrenHypothesis restHypothesis =>
      rw [forestDepth_cons]
      refine ⟨?_, ?_⟩
      · rcases Nat.le_total (forestDepth rest) (1 + forestDepth node.children) with deep | flat
        · obtain ⟨path, descends, length⟩ := childrenHypothesis.reached
          refine ⟨node :: path, .cons List.mem_cons_self descends, ?_⟩
          rw [Nat.max_eq_left deep, List.length_cons, length, Nat.add_comm]
        · obtain ⟨path, descends, length⟩ := restHypothesis.reached
          exact ⟨path, descends.subset (List.subset_cons_self node rest),
            length.trans (Nat.max_eq_right flat).symm⟩
      · rintro _ (_ | ⟨present, descends⟩)
        · exact Nat.zero_le _
        · rcases List.mem_cons.mp present with rfl | after
          · have shorter := childrenHypothesis.greatest _ descends
            rw [List.length_cons]
            omega
          · have shorter := restHypothesis.greatest _ (.cons after descends)
            omega

end Expand

/-- Compiling a query that calls have built warns of each filter with open groups, those below
a relation before its own, relations from left to right and the filter of the whole query last,
up to the first filter with an open scope. If it succeeds, it records this once, with the number
of parameters and the height of the forest, and otherwise not at all. -/
theorem Query.compile_events (q : Query) (reached : q.Reachable) :
    q.compileLogged.events =
        ((q.parts.filters.takeWhile fun f => f.scopes.isEmpty).filter
            fun f => f.openGroups ≠ 0).map (fun f => .unbalancedGroups f.openGroups) ++
          (match q.compile with
          | .ok compiled => [.compiled compiled.pairs.length (Expand.forestDepth q.expand)]
          | .error _ => []) ∧
      Expand.IsHeight q.expand (Expand.forestDepth q.expand) := by
  refine ⟨?_, Expand.isHeight_forestDepth q.expand⟩
  have warned := (rendersInTurn_assembleLogged reached.isBuilt).events
  cases assembled : q.assembleLogged.outcome with
  | ok compiled =>
      have compiles : q.compile = .ok compiled := by
        rw [compile, compileLogged, Logged.outcome_bind, assembled]
        rfl
      rw [compiles, compileLogged, Logged.events_bind_of_ok assembled, warned]
      rfl
  | error error =>
      have fails : q.compile = .error error := by
        rw [compile, compileLogged, Logged.outcome_bind, assembled]
        rfl
      rw [fails, compileLogged, Logged.events_bind_of_error assembled, warned, List.append_nil]
      rfl

/-- With an open group below a relation and a closing one too many in the query, both give a
warning; a lambda that the relation leaves open lets only the first be seen. -/
theorem Query.compile_events_nested :
    let below : Expand := { Expand.ofRelation "Tags" with filter := Filter.attempt {} .openGroup }
    let node : Expand := (Expand.ofRelation "Users").addChild below
    let unclosed : Expand := { node with filter := Filter.attempt {} (.beginLambda .any "Roles") }
    let q : Query := { Query.ofDefaults {} with filter := Filter.attempt {} .closeGroup }
    (q.addExpand node).Reachable ∧ (q.addExpand unclosed).Reachable ∧
      (q.addExpand node).compileLogged.events =
        [.unbalancedGroups 1, .unbalancedGroups (-1), .compiled 2 2] ∧
      (q.addExpand unclosed).compileLogged.events = [.unbalancedGroups 1] := by
  intro below node unclosed q
  have belowReached : below.Reachable := .callFilter .openGroup (.ofRelation "Tags")
  have nodeReached : node.Reachable := .addChild (.ofRelation "Users") belowReached
  have unclosedReached : unclosed.Reachable := .callFilter (.beginLambda .any "Roles") nodeReached
  have queryReached : q.Reachable := .callFilter .closeGroup (.ofDefaults {})
  have reached := queryReached.addExpand nodeReached
  have otherReached := queryReached.addExpand unclosedReached
  exact ⟨reached, otherReached, (compile_events _ reached).1, (compile_events _ otherReached).1⟩

end QueryOptions
