import Mathlib.Data.List.Forall2
import QueryOptions.Proofs.Query.Parts

/-!
# The shape of compiled queries

At every level the parameters stand in one fixed order, each is there exactly
if its part is, and its value is what the part is rendered to. Expanded
relations have no paging, and paging has no influence on anything else.
-/

namespace QueryOptions

namespace QueryKey

/-- The place of a key among the parameters. -/
def rank : QueryKey → Nat
  | .select => 0
  | .expand => 1
  | .filter => 2
  | .orderBy => 3
  | .top => 4
  | .skip => 5
  | .count => 6

def inOrder : List QueryKey := [.select, .expand, .filter, .orderBy, .top, .skip, .count]

theorem mem_inOrder (key : QueryKey) : key ∈ inOrder := by
  cases key <;> decide

theorem inOrder_pairwise : inOrder.Pairwise fun first second => first.rank < second.rank := by
  decide

def isPaging : QueryKey → Bool
  | .top | .skip | .count => true
  | _ => false

end QueryKey

namespace Compiled

/-- The parameters that have a value, in their order. -/
def ofValues (value? : QueryKey → Option String) : Compiled :=
  ⟨QueryKey.inOrder.flatMap fun key => parameter key (value? key)⟩

variable {value? : QueryKey → Option String}

theorem mem_pairs_ofValues {key : QueryKey} {text : String} :
    (key, text) ∈ (ofValues value?).pairs ↔ value? key = some text := by
  simp [ofValues, parameter, QueryKey.mem_inOrder]

theorem mem_keys_ofValues {key : QueryKey} :
    key ∈ (ofValues value?).keys ↔ value? key ≠ none := by
  constructor
  · intro present
    obtain ⟨⟨_, text⟩, written, rfl⟩ := List.mem_map.mp present
    rw [mem_pairs_ofValues.mp written]
    exact Option.some_ne_none text
  · intro some
    obtain ⟨text, value⟩ := Option.ne_none_iff_exists'.mp some
    exact List.mem_map.mpr ⟨(key, text), mem_pairs_ofValues.mpr value, rfl⟩

theorem keys_ofValues_sublist : (ofValues value?).keys.Sublist QueryKey.inOrder := by
  have among (keys : List QueryKey) :
      ((keys.flatMap fun key => parameter key (value? key)).map Prod.fst).Sublist keys := by
    induction keys with
    | nil => exact .slnil
    | cons key rest inductionHypothesis =>
        rw [List.flatMap_cons, List.map_append]
        cases value? key with
        | none => exact inductionHypothesis.cons key
        | some text => exact inductionHypothesis.cons_cons key
  exact among QueryKey.inOrder

theorem assemble_eq_ofValues (select expand filter orderBy : Option String) (window : Window) :
    assemble select expand filter orderBy window = ofValues fun
      | .select => select
      | .expand => expand
      | .filter => filter
      | .orderBy => orderBy
      | .top => window.top.map Decimal.natText
      | .skip => window.skip.map Decimal.natText
      | .count => if window.count then some "true" else none := by
  simp [assemble, ofValues, QueryKey.inOrder, Window.parameters]

/-- The parameters other than paging. -/
def unpaged (compiled : Compiled) : List (QueryKey × String) :=
  compiled.pairs.filter fun pair => !pair.1.isPaging

theorem unpaged_assemble (select expand filter orderBy : Option String) (window : Window) :
    (assemble select expand filter orderBy window).unpaged =
      (assemble select expand filter orderBy {}).pairs := by
  have kept (key : QueryKey) (value : Option String) :
      (parameter key value).filter (fun pair => !pair.1.isPaging) =
        if key.isPaging then [] else parameter key value := by
    cases value <;> cases paging : key.isPaging <;> simp [parameter, paging]
  simp only [unpaged, assemble, Window.parameters, List.filter_append, kept]
  rfl

end Compiled

/-- What stands for an expanded relation among its neighbours. -/
def Expand.RendersAs (node : Expand) (item : String) : Prop :=
  ∃ options, node.options.outcome = .ok options ∧ item = expandItem node.relation options

namespace Parts

/-- Whether the part is there that a key stands for. -/
def Has (parts : Parts) : QueryKey → Prop
  | .select => ∃ select, parts.select = some select ∧ select.isEmpty = false
  | .expand => parts.expand ≠ []
  | .filter => parts.filter.tokens ≠ []
  | .orderBy => parts.orderBy ≠ []
  | .top => parts.window.top ≠ none
  | .skip => parts.window.skip ≠ none
  | .count => parts.window.count = true

/-- Whether a text is what the part of a key is rendered to. -/
def Renders (parts : Parts) : QueryKey → String → Prop
  | .select, text => ∃ select, parts.select = some select ∧ text = Text.join "," select.entries
  | .expand, text =>
    ∃ items, List.Forall₂ Expand.RendersAs parts.expand items ∧ text = Text.join "," items
  | .filter, text => parts.filter.render = .ok text
  | .orderBy, text => text = Text.join "," (parts.orderBy.map SortKey.text)
  | .top, text => ∃ top, parts.window.top = some top ∧ text = Decimal.natText top
  | .skip, text => ∃ skip, parts.window.skip = some skip ∧ text = Decimal.natText skip
  | .count, text => text = "true"

/-- Parameters are those of given parts: in order, exactly for the parts that are there, and
with their renderings. -/
structure Shapes (parts : Parts) (compiled : Compiled) : Prop where
  ordered : compiled.keys.Pairwise fun first second => first.rank < second.rank
  present : ∀ key, key ∈ compiled.keys ↔ parts.Has key
  rendered : ∀ key text, (key, text) ∈ compiled.pairs → parts.Renders key text

theorem compile_eq_ok_iff {parts : Parts} {compiled : Compiled} :
    parts.compile = .ok compiled ↔
      ∃ items condition, (expandItems parts.expand).outcome = .ok items ∧
        parts.filter.optionLogged.outcome = .ok condition ∧
        Compiled.assemble (parts.select.bind Select.render?) (expandOption items) condition
          parts.orderBy.option parts.window = compiled := by
  simp [compile, except_bind_eq_ok]

end Parts

/-- The items of a forest are those of its relations, and nothing below has failed. -/
theorem renders_of_expandItems {nodes : List Expand} {items : List String}
    (rendered : (expandItems nodes).outcome = .ok items) :
    List.Forall₂ Expand.RendersAs nodes items ∧
      ∀ node ∈ Expand.forestNodes nodes, ∃ options, node.options.outcome = .ok options := by
  induction nodes using Expand.forest_induction generalizing items with
  | nil =>
      obtain rfl : [] = items := by simpa [expandItems] using rendered
      exact ⟨.nil, by simp⟩
  | cons node rest childrenHypothesis restHypothesis =>
      rw [outcome_expandItems_cons, except_bind_eq_ok] at rendered
      obtain ⟨options, compiles, rendered⟩ := rendered
      obtain ⟨others, restRendered, joined⟩ := except_bind_eq_ok.mp rendered
      obtain ⟨children, _, childrenRendered, -, -⟩ := Parts.compile_eq_ok_iff.mp compiles
      obtain ⟨restItems, restNodes⟩ := restHypothesis restRendered
      obtain ⟨-, childNodes⟩ := childrenHypothesis childrenRendered
      have own : node.options.outcome = .ok options := node.outcome_options.trans compiles
      cases joined
      refine ⟨.cons ⟨options, own, rfl⟩ restItems, ?_⟩
      intro other present
      rw [Expand.forestNodes_cons, List.mem_append, List.mem_cons] at present
      rcases present with below | rfl | after
      · exact childNodes other below
      · exact ⟨options, own⟩
      · exact restNodes other after

theorem Filter.optionLogged_eq_ok {f : Filter} {condition : Option String}
    (rendered : f.optionLogged.outcome = .ok condition) :
    (condition ≠ none ↔ f.tokens ≠ []) ∧ ∀ text, condition = some text → f.render = .ok text := by
  rw [outcome_optionLogged] at rendered
  split at rendered
  next empty =>
    cases rendered
    simp [empty]
  next filled =>
    obtain ⟨text, written, shown⟩ := except_bind_eq_ok.mp rendered
    cases shown
    simp [filled, written]

theorem Select.render?_eq_some {select : Select} {text : String} :
    select.render? = some text ↔
      select.isEmpty = false ∧ text = Text.join "," select.entries := by
  cases empty : select.isEmpty <;> simp [render?, empty, eq_comm]

theorem OrderBy.option_eq_some {keys : OrderBy} {text : String} :
    keys.option = some text ↔ keys ≠ [] ∧ text = Text.join "," (keys.map SortKey.text) := by
  cases keys <;> simp [option, OrderBy.text, eq_comm]

theorem expandOption_eq_some {items : List String} {text : String} :
    expandOption items = some text ↔ items ≠ [] ∧ text = Text.join "," items := by
  cases items <;> simp [expandOption, eq_comm]

namespace Parts

theorem shapes_of_compile {parts : Parts} {compiled : Compiled}
    (compiles : parts.compile = .ok compiled) : parts.Shapes compiled := by
  obtain ⟨items, condition, rendered, filtered, rfl⟩ := compile_eq_ok_iff.mp compiles
  obtain ⟨itemsRendered, -⟩ := renders_of_expandItems rendered
  obtain ⟨filterPresent, filterRendered⟩ := Filter.optionLogged_eq_ok filtered
  rw [Compiled.assemble_eq_ofValues]
  refine ⟨QueryKey.inOrder_pairwise.sublist Compiled.keys_ofValues_sublist, ?_, ?_⟩
  · intro key
    rw [Compiled.mem_keys_ofValues]
    cases key with
    | select =>
        simp only [Option.ne_none_iff_exists', Option.bind_eq_some_iff, Select.render?_eq_some, Has]
        grind
    | expand =>
        simp only [Option.ne_none_iff_exists', expandOption_eq_some, Has]
        have sameLength := itemsRendered.length_eq
        grind
    | filter => exact filterPresent
    | orderBy => simp [Has, OrderBy.option]
    | top => simp [Has]
    | skip => simp [Has]
    | count => simp [Has]
  · intro key text written
    have value := Compiled.mem_pairs_ofValues.mp written
    cases key with
    | select =>
        obtain ⟨select, given, shown⟩ := Option.bind_eq_some_iff.mp value
        exact ⟨select, given, (Select.render?_eq_some.mp shown).2⟩
    | expand => exact ⟨items, itemsRendered, (expandOption_eq_some.mp value).2⟩
    | filter => exact filterRendered text value
    | orderBy => exact (OrderBy.option_eq_some.mp value).2
    | top =>
        obtain ⟨top, given, shown⟩ := Option.map_eq_some_iff.mp value
        exact ⟨top, given, shown.symm⟩
    | skip =>
        obtain ⟨skip, given, shown⟩ := Option.map_eq_some_iff.mp value
        exact ⟨skip, given, shown.symm⟩
    | count =>
        obtain ⟨-, shown⟩ := Option.ite_none_right_eq_some.mp value
        exact (Option.some.inj shown).symm

/-- Below a relation everything is compiled as well, and nothing of it is paged. -/
theorem nodes_shape_of_compile {parts : Parts} {compiled : Compiled}
    (compiles : parts.compile = .ok compiled) {node : Expand}
    (present : node ∈ Expand.forestNodes parts.expand) :
    ∃ options, node.options.outcome = .ok options ∧ node.parts.Shapes options ∧
      ∀ key ∈ options.keys, key.isPaging = false := by
  obtain ⟨items, -, rendered, -, -⟩ := compile_eq_ok_iff.mp compiles
  obtain ⟨options, optionsCompile⟩ := (renders_of_expandItems rendered).2 node present
  have shape := shapes_of_compile (node.outcome_options.symm.trans optionsCompile)
  refine ⟨options, optionsCompile, shape, ?_⟩
  intro key written
  have has := (shape.present key).mp written
  cases key <;> simp_all [Has, Expand.parts, QueryKey.isPaging]

theorem compile_unpaged (parts : Parts) :
    parts.compile.map Compiled.unpaged =
      { parts with window := {} }.compile.map Compiled.pairs := by
  simp only [compile]
  cases (expandItems parts.expand).outcome with
  | error error => rfl
  | ok items =>
      cases parts.filter.optionLogged.outcome with
      | error error => rfl
      | ok condition => exact congrArg Except.ok (Compiled.unpaged_assemble ..)

end Parts

/-- A query that compiles has its parameters in their order at every level, each exactly if
its part is there and rendered from it, and no relation is paged; paging adds its own
parameters and has no other influence, and the address and the flag for paging have none. -/
theorem Query.compile_shape (q : Query) :
    (∀ compiled, q.compile = .ok compiled →
      q.parts.Shapes compiled ∧
        ∀ node ∈ Expand.forestNodes q.expand, ∃ options,
          node.options.outcome = .ok options ∧ node.parts.Shapes options ∧
            ∀ key ∈ options.keys, key.isPaging = false) ∧
      (∀ top skip showCount pagination url,
        { q with top, skip, showCount, pagination, url }.compile.map Compiled.unpaged =
          q.compile.map Compiled.unpaged) ∧
      ∀ pagination url, { q with pagination, url }.compile = q.compile := by
  refine ⟨?_, ?_, ?_⟩
  · intro compiled compiles
    rw [compile_eq] at compiles
    exact ⟨Parts.shapes_of_compile compiles,
      fun _ present => Parts.nodes_shape_of_compile compiles present⟩
  · intro top skip showCount pagination url
    simp only [compile_eq, Parts.compile_unpaged]
    rfl
  · intro pagination url
    simp only [compile_eq]
    rfl

/-- The parameters of a relation come without the paging of its query. -/
theorem Query.compile_shape_expanded :
    let mention (f : Filter) (field : String) : Filter :=
      f.compare ⟨field, .contains, .text "a;b", .fieldFirst⟩ false
    let node : Expand :=
      { relation := "Owner", select := .fields ["Id", "Name"], filter := mention {} "Name",
        children := [.ofRelation "Tags"] }
    let options : Compiled :=
      ⟨[(.select, "Id,Name"), (.expand, "Tags"), (.filter, "contains(Name,'a;b')")]⟩
    let q : Query :=
      { expand := [node], filter := mention ((mention {} "Title").combine .and).negateNext "Note",
        orderBy := [⟨"Age", .desc⟩], top := some 10, showCount := true }
    let compiled : Compiled :=
      ⟨[(.expand, "Owner($select=Id,Name;$expand=Tags;$filter=contains(Name,'a;b'))"),
        (.filter, "contains(Title,'a;b') and Not contains(Note,'a;b')"), (.orderBy, "Age desc"),
        (.top, "10"), (.count, "true")]⟩
    q.compile = .ok compiled ∧ q.parts.Shapes compiled ∧
      node.options.outcome = .ok options ∧ node.parts.Shapes options := by
  intro mention node options q compiled
  have compiles : q.compile = .ok compiled := by decide
  have nodeCompiles : node.options.outcome = .ok options := by decide
  obtain ⟨shapes, below⟩ := (compile_shape q).1 compiled compiles
  have present : node ∈ Expand.forestNodes q.expand := by simp [q, node]
  obtain ⟨found, foundCompiles, nodeShapes, -⟩ := below node present
  cases foundCompiles.symm.trans nodeCompiles
  exact ⟨compiles, shapes, nodeCompiles, nodeShapes⟩

end QueryOptions
