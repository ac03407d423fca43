import QueryOptions.Query

/-!
# Parts and forests

A query and each of its expanded relations are compiled by one rule, at which
only paging differs. The relations of a forest stand in the order in which they
are compiled: from left to right, and whatever is below a relation before it.
-/

namespace QueryOptions

namespace Logged

variable {ε α β : Type}

@[simp] theorem outcome_pure (value : α) : (pure value : Logged ε α).outcome = .ok value := rfl

@[simp] theorem outcome_fail (error : ε) : (fail error : Logged ε α).outcome = .error error := rfl

@[simp] theorem outcome_record (event : Event) :
    (record event : Logged ε Unit).outcome = .ok () := rfl

@[simp] theorem outcome_bind (first : Logged ε α) (next : α → Logged ε β) :
    (first.bind next).outcome = first.outcome.bind fun value => (next value).outcome := by
  obtain ⟨events, outcome⟩ := first
  cases outcome <;> rfl

end Logged

theorem except_bind_eq_ok {ε α β : Type} {outcome : Except ε α} {next : α → Except ε β}
    {result : β} :
    outcome.bind next = .ok result ↔ ∃ value, outcome = .ok value ∧ next value = .ok result := by
  cases outcome <;> simp [Except.bind]

theorem Filter.outcome_optionLogged (f : Filter) :
    f.optionLogged.outcome =
      if f.tokens = [] then .ok none else f.render.bind fun text => .ok (some text) := by
  by_cases empty : f.tokens = [] <;> simp [optionLogged, isEmpty, empty, render]

/-- What is compiled into one list of parameters. -/
structure Parts where
  select : Option Select
  expand : List Expand
  filter : Filter
  orderBy : OrderBy
  window : Window := {}

def Expand.parts (node : Expand) : Parts where
  select := some node.select
  expand := node.children
  filter := node.filter
  orderBy := node.orderBy

def Query.parts (q : Query) : Parts where
  select := q.select
  expand := q.expand
  filter := q.filter
  orderBy := q.orderBy
  window := q.window

def Parts.compile (parts : Parts) : Except UnterminatedScope Compiled :=
  (expandItems parts.expand).outcome.bind fun items =>
    parts.filter.optionLogged.outcome.bind fun condition =>
      .ok (.assemble (parts.select.bind Select.render?) (expandOption items) condition
        parts.orderBy.option parts.window)

theorem Expand.outcome_options (node : Expand) : node.options.outcome = node.parts.compile := by
  obtain ⟨relation, select, filter, orderBy, children⟩ := node
  simp [options, Parts.compile, parts]

theorem Query.compile_eq (q : Query) : q.compile = q.parts.compile := by
  have assembled : q.assembleLogged.outcome = q.parts.compile := by
    simp [assembleLogged, Parts.compile, parts]
  rw [compile, compileLogged, Logged.outcome_bind, assembled]
  cases q.parts.compile <;> simp [Except.bind]

theorem outcome_expandItems_cons (node : Expand) (rest : List Expand) :
    (expandItems (node :: rest)).outcome =
      node.parts.compile.bind fun options =>
        (expandItems rest).outcome.bind fun items =>
          .ok (expandItem node.relation options :: items) := by
  simp [expandItems, node.outcome_options]

namespace Expand

mutual

/-- A relation after all relations below it. -/
def nodes : Expand → List Expand
  | ⟨relation, select, filter, orderBy, children⟩ =>
    forestNodes children ++ [⟨relation, select, filter, orderBy, children⟩]

/-- All relations of a forest. -/
def forestNodes : List Expand → List Expand
  | [] => []
  | node :: rest => node.nodes ++ forestNodes rest

end

@[simp] theorem forestNodes_nil : forestNodes [] = [] := rfl

@[simp] theorem forestNodes_cons (node : Expand) (rest : List Expand) :
    forestNodes (node :: rest) = forestNodes node.children ++ node :: forestNodes rest := by
  obtain ⟨relation, select, filter, orderBy, children⟩ := node
  simp [forestNodes, nodes]

theorem forest_induction {motive : List Expand → Prop} (nil : motive [])
    (cons : ∀ node rest, motive node.children → motive rest → motive (node :: rest)) :
    ∀ nodes, motive nodes
  | [] => nil
  | ⟨relation, select, filter, orderBy, children⟩ :: rest =>
    cons ⟨relation, select, filter, orderBy, children⟩ rest
      (forest_induction nil cons children) (forest_induction nil cons rest)

end Expand

end QueryOptions
