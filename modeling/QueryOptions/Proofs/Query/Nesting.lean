import QueryOptions.Proofs.Filter.Cutting
import QueryOptions.Proofs.Query.Shape

/-!
# Nested relations read back

Commas stand between relations, fields, sort keys and arguments, and every
level of nesting puts its parameters in parentheses. The relations and their
parameters come apart all the same, level by level, when a text is cut only
outside of parentheses and quotes.
-/

namespace QueryOptions

open Text

namespace Expand

/-- A relation whose texts cannot be taken for brackets or separators around them. -/
structure IsTame (node : Expand) : Prop where
  relation : IsFlat node.relation.toList
  separate : ',' ∉ node.relation.toList
  select : ∀ entry ∈ node.select.entries, IsFlat entry.toList
  orderBy : ∀ key ∈ node.orderBy, IsFlat key.field.toList
  filter : node.filter.isEmpty = true ∨ node.filter.IsBalanced

/-- The text that stands for a relation: its name alone if nothing is compiled for it, and
otherwise the name and in parentheses its parameters, which can be cut apart at semicolons and
the relations among them at commas. -/
inductive Piece : Expand → List Char → Prop
  | bare {node options} : node.options.outcome = .ok options → options.pairs = [] →
      Piece node node.relation.toList
  | nested {node options text} : node.options.outcome = .ok options → options.pairs ≠ [] →
      cutOutside ';' {} text =
        options.pairs.map (fun pair => pair.1.name.toList ++ '=' :: pair.2.toList) →
      (∀ value, (.expand, value) ∈ options.pairs →
        List.Forall₂ Piece node.children (cutOutside ',' {} value.toList)) →
      Piece node (node.relation.toList ++ '(' :: (text ++ [')']))

end Expand

section Values

variable {separator : Char} {outside : Nat}

theorem passes_comma (guarded : Guarded separator outside) :
    Passes separator "," outside outside :=
  guarded.passes_flat (by decide)

theorem Select.passes_render {select : Select} (flat : ∀ entry ∈ select.entries, IsFlat entry.toList)
    (guarded : Guarded separator outside) :
    Passes separator (Text.join "," select.entries) outside outside :=
  .join (passes_comma guarded) fun entry present => guarded.passes_flat (flat entry present)

theorem OrderBy.passes_text {keys : OrderBy} (flat : ∀ key ∈ keys, IsFlat key.field.toList)
    (guarded : Guarded separator outside) : Passes separator keys.text outside outside := by
  refine .join (passes_comma guarded) ?_
  intro text present
  obtain ⟨key, among, rfl⟩ := List.mem_map.mp present
  refine guarded.passes_flat ?_
  have field := flat key among
  cases direction : key.direction <;>
    simpa [SortKey.text, direction, SortDirection.name] using field

/-- No value among the parameters is cut between semicolons or inside parentheses. -/
def Compiled.IsUncut (options : Compiled) : Prop :=
  ∀ key value, (key, value) ∈ options.pairs → ∀ separator outside,
    Guarded separator outside → Passes separator value outside outside

namespace Compiled.IsUncut

variable {options : Compiled}

theorem passes_parameter (uncut : options.IsUncut) {pair : QueryKey × String}
    (written : pair ∈ options.pairs) (guarded : Guarded separator outside) :
    Passes separator (pair.1.name ++ "=" ++ pair.2) outside outside := by
  have name : IsFlat (pair.1.name ++ "=").toList := by cases pair.1 <;> decide
  exact (guarded.passes_flat name).append (uncut pair.1 pair.2 written separator outside guarded)

theorem cutOutside_nestedText (uncut : options.IsUncut) (nonempty : options.pairs ≠ []) :
    cutOutside ';' {} options.nestedText.toList =
      options.pairs.map fun pair => pair.1.name.toList ++ '=' :: pair.2.toList := by
  have nested : options.nestedText =
      Text.join ";" (options.pairs.map fun pair => pair.1.name ++ "=" ++ pair.2) := rfl
  have passes : ∀ text ∈ options.pairs.map fun pair => pair.1.name ++ "=" ++ pair.2,
      Passes ';' text 0 0 := by
    intro text present
    obtain ⟨pair, written, rfl⟩ := List.mem_map.mp present
    exact uncut.passes_parameter written .semicolon
  rw [nested, cutOutside_join rfl (by simpa using nonempty) passes, List.map_map]
  refine List.map_congr_left fun pair _ => ?_
  simp

theorem passes_expandItem (uncut : options.IsUncut) {relation : String}
    (flat : IsFlat relation.toList) (separate : ',' ∉ relation.toList)
    (guarded : Guarded separator outside ∨ separator = ',') :
    Passes separator (expandItem relation options) outside outside := by
  have name : Passes separator relation outside outside := by
    rcases guarded with guarded | rfl
    · exact guarded.passes_flat flat
    · exact flat.passes (.inr separate)
  have kept : 0 < outside ∨ separator ≠ '(' := by
    rcases guarded with guarded | rfl
    · exact guarded.kept (by decide)
    · exact .inr (by decide)
  unfold expandItem
  split
  · exact name
  · have whole : relation ++ "(" ++ options.nestedText ++ ")" =
        relation ++ ("(" ++ options.nestedText ++ ")") := by simp only [String.append_assoc]
    rw [whole]
    have semicolon : Passes separator ";" (outside + 1) (outside + 1) := fun rest =>
      cutOutside_cons (.inl (by simp)) rest
    refine name.append (.bracketed kept (.join semicolon ?_))
    intro text present
    obtain ⟨pair, written, rfl⟩ := List.mem_map.mp present
    exact uncut.passes_parameter written .bracketed

end Compiled.IsUncut

end Values

namespace Expand

/-- Items that stand for relations side by side, and are not cut between commas. -/
structure Items (nodes : List Expand) (items : List String) : Prop where
  pieces : List.Forall₂ Piece nodes (items.map String.toList)
  passes : ∀ item ∈ items, ∀ separator outside,
    Guarded separator outside ∨ separator = ',' → Passes separator item outside outside

theorem Items.cutOutside_join {nodes : List Expand} {items : List String}
    (stands : Items nodes items) (filled : items ≠ []) :
    List.Forall₂ Piece nodes (cutOutside ',' {} (Text.join "," items).toList) := by
  rw [Text.cutOutside_join rfl filled fun item present =>
    stands.passes item present ',' 0 (.inr rfl)]
  exact stands.pieces

theorem IsTame.condition {node : Expand} (tame : node.IsTame) :
    ∃ condition, node.filter.optionLogged.outcome = .ok condition ∧
      ∀ text, condition = some text → ∀ separator outside,
        Guarded separator outside → Passes separator text outside outside := by
  rw [Filter.outcome_optionLogged]
  split
  next empty => exact ⟨none, rfl, by simp⟩
  next filled =>
    have balanced := tame.filter.resolve_left (by simpa [Filter.isEmpty] using filled)
    refine ⟨node.filter.text, by rw [balanced.leaves.render_eq]; rfl, ?_⟩
    rintro _ ⟨⟩ separator outside guarded
    exact balanced.passes_text guarded

/-- What is compiled for a relation, from the items of the relations below it. -/
theorem IsTame.options {node : Expand} (tame : node.IsTame) {items : List String}
    (rendered : (expandItems node.children).outcome = .ok items)
    (stands : Items node.children items) :
    ∃ options, node.options.outcome = .ok options ∧ options.IsUncut ∧
      ∀ value, (.expand, value) ∈ options.pairs →
        List.Forall₂ Piece node.children (cutOutside ',' {} value.toList) := by
  obtain ⟨condition, filtered, conditionPasses⟩ := tame.condition
  refine ⟨_, node.outcome_options.trans
    (Parts.compile_eq_ok_iff.mpr ⟨items, condition, rendered, filtered, rfl⟩), ?_, ?_⟩
  · intro key value written separator outside guarded
    rw [Compiled.assemble_eq_ofValues, Compiled.mem_pairs_ofValues] at written
    cases key with
    | select =>
        obtain ⟨-, rfl⟩ := Select.render?_eq_some.mp written
        exact Select.passes_render tame.select guarded
    | expand =>
        obtain ⟨-, rfl⟩ := expandOption_eq_some.mp written
        exact .join (passes_comma guarded) fun item present =>
          stands.passes item present separator outside (.inl guarded)
    | filter => exact conditionPasses value written separator outside guarded
    | orderBy =>
        obtain ⟨-, rfl⟩ := OrderBy.option_eq_some.mp written
        exact OrderBy.passes_text tame.orderBy guarded
    | top => cases written
    | skip => cases written
    | count => cases written
  · intro value written
    rw [Compiled.assemble_eq_ofValues, Compiled.mem_pairs_ofValues] at written
    obtain ⟨filled, rfl⟩ := expandOption_eq_some.mp written
    exact stands.cutOutside_join filled

theorem piece_expandItem {node : Expand} {options : Compiled}
    (compiles : node.options.outcome = .ok options) (uncut : options.IsUncut)
    (below : ∀ value, (.expand, value) ∈ options.pairs →
      List.Forall₂ Piece node.children (cutOutside ',' {} value.toList)) :
    Piece node (expandItem node.relation options).toList := by
  unfold expandItem
  split
  next empty => exact .bare compiles (List.isEmpty_iff.mp empty)
  next filled =>
    have nonempty : options.pairs ≠ [] := fun empty => filled (List.isEmpty_iff.mpr empty)
    have written : (node.relation ++ "(" ++ options.nestedText ++ ")").toList =
        node.relation.toList ++ '(' :: (options.nestedText.toList ++ [')']) := by simp
    rw [written]
    exact .nested compiles nonempty (uncut.cutOutside_nestedText nonempty) below

theorem items_of_tame {nodes : List Expand} (tame : ∀ node ∈ forestNodes nodes, node.IsTame) :
    ∃ items, (expandItems nodes).outcome = .ok items ∧ Items nodes items := by
  induction nodes using forest_induction with
  | nil => exact ⟨[], rfl, .nil, by simp⟩
  | cons node rest childrenHypothesis restHypothesis =>
      simp only [forestNodes_cons, List.forall_mem_append, List.forall_mem_cons] at tame
      obtain ⟨tameBelow, tameHere, tameAfter⟩ := tame
      obtain ⟨children, childrenRendered, childrenStand⟩ := childrenHypothesis tameBelow
      obtain ⟨items, rendered, stands⟩ := restHypothesis tameAfter
      obtain ⟨options, compiles, uncut, below⟩ := tameHere.options childrenRendered childrenStand
      refine ⟨expandItem node.relation options :: items, ?_, ?_, ?_⟩
      · rw [outcome_expandItems_cons, ← node.outcome_options, compiles, rendered]
        rfl
      · exact .cons (piece_expandItem compiles uncut below) stands.pieces
      · refine List.forall_mem_cons.mpr ⟨fun separator outside guarded => ?_, stands.passes⟩
        exact uncut.passes_expandItem tameHere.relation tameHere.separate guarded

theorem Items.comes_apart {nodes : List Expand} {items : List String} (stands : Items nodes items)
    (nonempty : nodes ≠ []) (rendered : (expandItems nodes).outcome = .ok items) :
    ∃ text, (expandItems nodes).outcome.map expandOption = .ok (some text) ∧
      List.Forall₂ Piece nodes (cutOutside ',' {} text.toList) := by
  have filled : items ≠ [] := by
    rintro rfl
    exact nonempty (List.forall₂_nil_right_iff.mp stands.pieces)
  refine ⟨Text.join "," items, ?_, stands.cutOutside_join filled⟩
  rw [rendered]
  exact congrArg Except.ok (expandOption_eq_some.mpr ⟨filled, rfl⟩)

/-- Relations whose texts have no brackets and quotes of their own, and whose filters are well
bracketed, are rendered; cut at the commas outside of parentheses and quotes the text has one
piece for each of them, in order, and each piece comes apart into what has been compiled. -/
theorem rendered_forest_comes_apart (nodes : List Expand) (nonempty : nodes ≠ [])
    (tame : ∀ node ∈ forestNodes nodes, node.IsTame) :
    ∃ text, (expandItems nodes).outcome.map expandOption = .ok (some text) ∧
      List.Forall₂ Piece nodes (cutOutside ',' {} text.toList) := by
  obtain ⟨items, rendered, stands⟩ := items_of_tame tame
  exact stands.comes_apart nonempty rendered

/-- Quoted brackets and separators belong to their literal, and a comma between fields or
arguments is none between relations. -/
theorem rendered_forest_comes_apart_quoted :
    let calls : List FilterCall :=
      [.beginLambda .any "Tags", .openGroup,
        .compare ⟨"Name", .contains, .text "),(;", .fieldFirst⟩ false, .endGroup, .endLambda .any]
    let author : Expand := { relation := "Author", orderBy := [⟨"Name", .desc⟩, ⟨"Age", .asc⟩] }
    let posts : Expand :=
      { relation := "Posts", select := .fields ["Id", "Title"], filter := Filter.attempts {} calls,
        children := [author] }
    let nodes := [posts, .ofRelation "Owner"]
    let text := "Posts($select=Id,Title;$expand=Author($orderby=Name desc,Age asc);" ++
      "$filter=Tags/any(x:(contains(x/Name,'),(;')))),Owner"
    (∀ node ∈ forestNodes nodes, node.IsTame) ∧
      (expandItems nodes).outcome.map expandOption = .ok (some text) ∧
      List.Forall₂ Piece nodes (cutOutside ',' {} text.toList) := by
  intro calls author posts nodes text
  have owner : (ofRelation "Owner").IsTame :=
    ⟨by decide, by decide, by decide, by decide, .inl rfl⟩
  have authorTame : author.IsTame := ⟨by decide, by decide, by decide, by decide, .inl rfl⟩
  have postsTame : posts.IsTame :=
    ⟨by decide, by decide, by decide, by decide,
      .inr ⟨calls, .operator, rfl, by decide, by decide⟩⟩
  have tame : ∀ node ∈ forestNodes nodes, node.IsTame := by
    have all : forestNodes nodes = [author, posts, ofRelation "Owner"] := rfl
    simp [all, authorTame, postsTame, owner]
  have rendered : (expandItems nodes).outcome.map expandOption = .ok (some text) := by decide
  obtain ⟨found, renders, pieces⟩ := rendered_forest_comes_apart nodes (by decide) tame
  cases renders.symm.trans rendered
  exact ⟨tame, rendered, pieces⟩

/-- Filters that state conditions are well bracketed, so relations with such filters are rendered
and their text comes apart. -/
theorem rendered_conditions_come_apart {nodes : List Expand} (nonempty : nodes ≠ [])
    (tame : ∀ node ∈ forestNodes nodes, IsTame { node with filter := {} })
    (stated : ∀ node ∈ forestNodes nodes, node.filter = {} ∨ ∃ condition : Condition,
      (∀ call ∈ condition.calls, call.IsTame) ∧
        Chain.run ⟨.clause, {}⟩ condition.calls = .ok ⟨.operator, node.filter⟩) :
    ∃ text, (expandItems nodes).outcome.map expandOption = .ok (some text) ∧
      List.Forall₂ Piece nodes (cutOutside ',' {} text.toList) := by
  have tameFilters : ∀ node ∈ forestNodes nodes, node.IsTame := by
    intro node present
    obtain ⟨relation, separate, select, orderBy, -⟩ := tame node present
    refine ⟨relation, separate, select, orderBy, ?_⟩
    rcases stated node present with empty | ⟨condition, called, ran⟩
    · exact .inl (by rw [empty]; rfl)
    · exact .inr (.of_condition called ran)
  obtain ⟨items, rendered, stands⟩ := items_of_tame tameFilters
  exact stands.comes_apart nonempty rendered

end Expand

end QueryOptions
