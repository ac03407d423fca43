import QueryOptions.Proofs.Query.Building

/-!
# Which queries fail to compile

Compiling a query renders its filters one after another and stops at the first
one with an open scope. No filter escapes this by being empty, because a filter
that calls have built has no open scope without a token.
-/

namespace QueryOptions

namespace Filter

/-- What rendering reports about the open scopes. -/
def unterminated? (f : Filter) : Option UnterminatedScope :=
  f.scopes.frames.head?.map fun frame => ⟨frame.kind, f.scopes.depth⟩

theorem unterminated?_eq_none_iff {f : Filter} :
    f.unterminated? = none ↔ f.scopes.frames = [] := by
  simp [unterminated?]

theorem unterminated?_eq_some_iff {f : Filter} {error : UnterminatedScope} :
    f.unterminated? = some error ↔
      ∃ frame frames, f.scopes.frames = frame :: frames ∧
        error = ⟨frame.kind, frames.length + 1⟩ := by
  cases opened : f.scopes.frames with
  | nil => simp [unterminated?, opened]
  | cons frame frames =>
      constructor
      · intro found
        refine ⟨frame, frames, rfl, ?_⟩
        simpa [unterminated?, ScopeStack.depth, opened, eq_comm] using found
      · rintro ⟨_, _, ⟨⟩, rfl⟩
        simp [unterminated?, ScopeStack.depth, opened]

end Filter

/-- Rendering the filters one after another succeeds if none has an open scope, and fails
with the first one that has. -/
def StopsAtFirstOpen {α : Type} (filters : List Filter) (outcome : Except UnterminatedScope α) :
    Prop :=
  match filters.findSome? Filter.unterminated? with
  | none => ∃ value, outcome = .ok value
  | some error => outcome = .error error

namespace StopsAtFirstOpen

variable {α β : Type} {first second : List Filter} {outcome : Except UnterminatedScope α}

theorem ok (value : α) : StopsAtFirstOpen [] (.ok value) := ⟨value, rfl⟩

theorem bind {next : α → Except UnterminatedScope β} (stops : StopsAtFirstOpen first outcome)
    (continues : ∀ value, StopsAtFirstOpen second (next value)) :
    StopsAtFirstOpen (first ++ second) (outcome.bind next) := by
  unfold StopsAtFirstOpen at stops
  rw [StopsAtFirstOpen, List.findSome?_append]
  cases found : first.findSome? Filter.unterminated? with
  | none =>
      rw [found] at stops
      obtain ⟨value, rfl⟩ := stops
      exact continues value
  | some error =>
      rw [found] at stops
      rw [stops]
      rfl

theorem map {next : α → β} (stops : StopsAtFirstOpen first outcome) :
    StopsAtFirstOpen first (outcome.bind fun value => .ok (next value)) := by
  simpa using stops.bind fun value => ok (next value)

theorem eq_error_iff (stops : StopsAtFirstOpen first outcome) (error : UnterminatedScope) :
    outcome = .error error ↔ first.findSome? Filter.unterminated? = some error := by
  unfold StopsAtFirstOpen at stops
  cases found : first.findSome? Filter.unterminated? with
  | none =>
      rw [found] at stops
      obtain ⟨value, rfl⟩ := stops
      simp
  | some found =>
      simp_all

end StopsAtFirstOpen

/-- An empty filter is not rendered, but it would not fail either. -/
theorem Filter.IsBuilt.stopsAtFirstOpen {f : Filter} (built : f.IsBuilt) :
    StopsAtFirstOpen [f] f.optionLogged.outcome := by
  rw [f.outcome_optionLogged]
  split
  next empty => simp [StopsAtFirstOpen, unterminated?, built.frames_eq_nil empty]
  next filled =>
    cases opened : f.scopes.frames <;>
      simp [StopsAtFirstOpen, unterminated?, opened, render, renderLogged, ScopeStack.innermost,
        Except.bind]

/-- The filters in the order in which they are rendered. -/
def Parts.filters (parts : Parts) : List Filter :=
  (Expand.forestNodes parts.expand).map Expand.filter ++ [parts.filter]

theorem Parts.compile_stopsAtFirstOpen {parts : Parts} (built : parts.filter.IsBuilt)
    (expanded : StopsAtFirstOpen ((Expand.forestNodes parts.expand).map Expand.filter)
      (expandItems parts.expand).outcome) :
    StopsAtFirstOpen parts.filters parts.compile :=
  expanded.bind fun _ => built.stopsAtFirstOpen.map

theorem stopsAtFirstOpen_expandItems (nodes : List Expand)
    (built : ∀ node ∈ Expand.forestNodes nodes, node.filter.IsBuilt) :
    StopsAtFirstOpen ((Expand.forestNodes nodes).map Expand.filter)
      (expandItems nodes).outcome := by
  induction nodes using Expand.forest_induction with
  | nil => exact .ok []
  | cons node rest childrenHypothesis restHypothesis =>
      rw [Expand.forestNodes_cons] at built
      have below := childrenHypothesis fun child present =>
        built child (List.mem_append_left _ present)
      have own : node.filter.IsBuilt := built node (by simp)
      have after := restHypothesis fun other present =>
        built other (List.mem_append_right _ (.tail node present))
      have filters : (Expand.forestNodes (node :: rest)).map Expand.filter =
          node.parts.filters ++ (Expand.forestNodes rest).map Expand.filter := by
        simp [Parts.filters, Expand.parts]
      rw [filters, outcome_expandItems_cons]
      exact (Parts.compile_stopsAtFirstOpen own below).bind fun _ => after.map

/-- A query that calls have built fails to compile exactly if one of its filters has an open
scope. The failure is that of the first such filter, where the filters below a relation come
before its own, relations from left to right, and the filter of the whole query last. None is
passed over for being empty. -/
theorem Query.compile_fails_at_first_open (q : Query) (reached : q.Reachable) :
    ((∃ error, q.compile = .error error) ↔ ∃ f ∈ q.parts.filters, f.scopes.frames ≠ []) ∧
    (∀ error, q.compile = .error error ↔
      ∃ before f after frame frames, q.parts.filters = before ++ f :: after ∧
        (∀ earlier ∈ before, earlier.scopes.frames = []) ∧
        f.scopes.frames = frame :: frames ∧ error = ⟨frame.kind, frames.length + 1⟩) ∧
    ∀ f ∈ q.parts.filters, f.isEmpty = true → f.scopes.frames = [] := by
  have built := reached.isBuilt
  have stops : StopsAtFirstOpen q.parts.filters q.compile := by
    rw [q.compile_eq]
    exact Parts.compile_stopsAtFirstOpen built.filter (stopsAtFirstOpen_expandItems _ built.expand)
  refine ⟨?_, fun error => ?_, ?_⟩
  · simp only [stops.eq_error_iff]
    constructor
    · rintro ⟨error, found⟩
      obtain ⟨f, present, opened⟩ := List.exists_of_findSome?_eq_some found
      refine ⟨f, present, fun closed => ?_⟩
      rw [Filter.unterminated?_eq_none_iff.mpr closed] at opened
      cases opened
    · rintro ⟨f, present, opened⟩
      refine Option.ne_none_iff_exists'.mp fun none => opened ?_
      exact Filter.unterminated?_eq_none_iff.mp (List.findSome?_eq_none_iff.mp none f present)
  · rw [stops.eq_error_iff, List.findSome?_eq_some_iff]
    constructor
    · rintro ⟨before, f, after, split, found, closed⟩
      obtain ⟨frame, frames, opened, reported⟩ := Filter.unterminated?_eq_some_iff.mp found
      exact ⟨before, f, after, frame, frames, split,
        fun earlier present => Filter.unterminated?_eq_none_iff.mp (closed earlier present),
        opened, reported⟩
    · rintro ⟨before, f, after, frame, frames, split, closed, opened, reported⟩
      exact ⟨before, f, after, split,
        Filter.unterminated?_eq_some_iff.mpr ⟨frame, frames, opened, reported⟩,
        fun earlier present => Filter.unterminated?_eq_none_iff.mpr (closed earlier present)⟩
  · intro f present empty
    have tokens : f.tokens = [] := List.isEmpty_iff.mp empty
    rcases List.mem_append.mp present with below | own
    · obtain ⟨node, inside, rfl⟩ := List.mem_map.mp below
      exact (built.expand node inside).frames_eq_nil tokens
    · obtain rfl := List.mem_singleton.mp own
      exact built.filter.frames_eq_nil tokens

/-- The open count two levels down is reported before the lambda of the relation above it and
that of the query. -/
theorem Query.compile_fails_at_first_open_nested :
    let below : Expand := { Expand.ofRelation "Tags" with
      filter := (Filter.attempt {} (.beginLambda .any "Posts")).attempt (.beginCount "Likes") }
    let node : Expand := { Expand.ofRelation "Users" with
      filter := Filter.attempt {} (.beginLambda .all "Roles") }
    let q : Query := { Query.ofDefaults {} with
      filter := Filter.attempt {} (.beginLambda .any "Owners") }
    let full := q.addExpand (node.addChild below)
    full.Reachable ∧ full.compile = .error ⟨.count, 2⟩ := by
  intro below node q full
  have belowReached : below.Reachable :=
    .callFilter (.beginCount "Likes") (.callFilter (.beginLambda .any "Posts") (.ofRelation "Tags"))
  have nodeReached : node.Reachable := .callFilter (.beginLambda .all "Roles") (.ofRelation "Users")
  have reached : full.Reachable :=
    .addExpand (.callFilter (.beginLambda .any "Owners") (.ofDefaults {}))
      (.addChild nodeReached belowReached)
  refine ⟨reached, ((compile_fails_at_first_open full reached).2.1 _).mpr ?_⟩
  exact ⟨[], below.filter, [node.filter, q.filter], .count true, [.lambda .any "x"], by decide,
    by simp, by decide, rfl⟩

end QueryOptions
