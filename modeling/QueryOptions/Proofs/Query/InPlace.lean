import QueryOptions.Proofs.Query.Parts

/-!
# Queries compiled in place

A query may be compiled by writing to one list of parameters for each level of
its forest, and be appended to other parameters when the list of its own level is
complete. A compilation that stops halfway leaves all that it has written in
these lists. The parameters that it would have been appended to are not among
them.
-/

namespace QueryOptions

/-- A level of a query as far as it has been compiled. -/
structure Draft where
  pairs : List (QueryKey × String) := []
  /-- The texts of relations that have not been joined yet. -/
  items : List String := []
  deriving DecidableEq, Repr

/-- Parameters to which queries are appended, and the levels at which one of these is being
compiled, innermost first. -/
structure Drafting where
  params : Params := {}
  drafts : List Draft := []
  deriving DecidableEq, Repr

/-- A change in place. What was written before a failure stays written. -/
abbrev DraftEdit := EStateM UnterminatedScope Drafting Unit

namespace DraftEdit

def openLevel : DraftEdit := modify fun d => { d with drafts := {} :: d.drafts }

def changeLevel (change : Draft → Draft) : DraftEdit :=
  modify fun d => { d with drafts := d.drafts.modifyHead change }

def write (pairs : List (QueryKey × String)) : DraftEdit :=
  changeLevel fun draft => { draft with pairs := draft.pairs ++ pairs }

/-- Joins the relations of the innermost level. -/
def writeExpand : DraftEdit :=
  changeLevel fun draft => ⟨draft.pairs ++ parameter .expand (expandOption draft.items), []⟩

def writeFilter (f : Filter) : DraftEdit :=
  if f.isEmpty then pure ()
  else match f.render with
    | .ok text => write [(.filter, text)]
    | .error error => throw error

/-- Closes the innermost level, which was that of a relation of the level around it. -/
def closeRelation (relation : String) : DraftEdit :=
  modify fun d => match d.drafts with
    | [] => d
    | draft :: around =>
      let addItem (outer : Draft) : Draft :=
        { outer with items := outer.items ++ [expandItem relation ⟨draft.pairs⟩] }
      { d with drafts := around.modifyHead addItem }

def append (key value : String) : DraftEdit :=
  modify fun d => { d with params := d.params.append key value }

def extend (compiled : Compiled) : DraftEdit :=
  compiled.pairs.forM fun (key, value) => append key.name value

/-- Closes the innermost level and appends what was written at it. -/
def closeQuery : DraftEdit := do
  let d ← get
  match d.drafts with
  | [] => pure ()
  | draft :: around =>
    set { d with drafts := around }
    extend ⟨draft.pairs⟩

end DraftEdit

open DraftEdit

/-- Compiles a level of its own, with its relations by a change that is given. -/
def Parts.edit (parts : Parts) (expand : DraftEdit) : DraftEdit := do
  openLevel
  write (parameter .select (parts.select.bind Select.render?))
  expand
  writeExpand
  writeFilter parts.filter
  write (parameter .orderBy parts.orderBy.option)
  write parts.window.parameters

mutual

def Expand.edit : Expand → DraftEdit
  | ⟨relation, select, filter, orderBy, children⟩ => do
    (Expand.parts ⟨relation, select, filter, orderBy, children⟩).edit (editForest children)
    closeRelation relation

def editForest : List Expand → DraftEdit
  | [] => pure ()
  | node :: rest => do
    node.edit
    editForest rest

end

def Query.edit (q : Query) : DraftEdit := do
  q.parts.edit (editForest q.expand)
  closeQuery

namespace Drafting

variable {α β : Type}

/-- A run ends as an outcome says, and if that is a failure, with the parameters as they were. -/
def Ends (d : Drafting) (outcome : Except UnterminatedScope α) (after : α → Drafting)
    (result : EStateM.Result UnterminatedScope Drafting Unit) : Prop :=
  match outcome with
  | .ok value => result = .ok () (after value)
  | .error error => ∃ drafts, result = .error error ⟨d.params, drafts⟩

theorem Ends.bind {d : Drafting} {outcome : Except UnterminatedScope α}
    {next : α → Except UnterminatedScope β} {after : α → Drafting} {last : β → Drafting}
    {first second : DraftEdit} (ends : d.Ends outcome after (first.run d))
    (continues : ∀ value, d.Ends (next value) last (second.run (after value))) :
    d.Ends (outcome.bind next) last ((first >>= fun _ => second).run d) := by
  cases outcome with
  | error error =>
      obtain ⟨drafts, failed⟩ := ends
      refine ⟨drafts, ?_⟩
      rw [EStateM.run_bind, failed]
  | ok value =>
      have reached : first.run d = .ok () (after value) := ends
      rw [EStateM.run_bind, reached]
      exact continues value

theorem Ends.andThen {d : Drafting} {outcome : Except UnterminatedScope α}
    {after last : α → Drafting} {first second : DraftEdit}
    (ends : d.Ends outcome after (first.run d))
    (moves : ∀ value, second.run (after value) = .ok () (last value)) :
    d.Ends outcome last ((first >>= fun _ => second).run d) := by
  have whole : d.Ends (outcome.bind .ok) last ((first >>= fun _ => second).run d) :=
    ends.bind moves
  cases outcome <;> exact whole

theorem run_seq_of_ok {first second : DraftEdit} {d left : Drafting}
    (reached : first.run d = .ok () left) :
    (first >>= fun _ => second).run d = second.run left := by
  rw [EStateM.run_bind, reached]

variable (params : Params) (draft : Draft) (around : List Draft)

theorem run_openLevel :
    openLevel.run ⟨params, around⟩ = .ok () ⟨params, {} :: around⟩ := rfl

theorem run_write (pairs : List (QueryKey × String)) :
    (write pairs).run ⟨params, draft :: around⟩ =
      .ok () ⟨params, { draft with pairs := draft.pairs ++ pairs } :: around⟩ := rfl

theorem run_writeExpand :
    writeExpand.run ⟨params, draft :: around⟩ =
      .ok () ⟨params, ⟨draft.pairs ++ parameter .expand (expandOption draft.items), []⟩ ::
        around⟩ := rfl

theorem run_closeRelation (relation : String) (outer : Draft) :
    (closeRelation relation).run ⟨params, draft :: outer :: around⟩ =
      .ok () ⟨params, { outer with
        items := outer.items ++ [expandItem relation ⟨draft.pairs⟩] } :: around⟩ := rfl

theorem ends_writeFilter (f : Filter) :
    Ends ⟨params, draft :: around⟩ f.optionLogged.outcome
      (fun condition =>
        ⟨params, { draft with pairs := draft.pairs ++ parameter .filter condition } :: around⟩)
      ((writeFilter f).run ⟨params, draft :: around⟩) := by
  rw [f.outcome_optionLogged, writeFilter]
  by_cases empty : f.tokens = []
  · simp [Ends, Filter.isEmpty, empty, parameter]
  · cases rendered : f.render with
    | ok text =>
        simp only [Ends, Filter.isEmpty, List.isEmpty_iff, empty, if_false, Except.bind]
        rfl
    | error error =>
        simp only [Ends, Filter.isEmpty, List.isEmpty_iff, empty, if_false, Except.bind]
        exact ⟨_, rfl⟩

theorem run_extend (compiled : Compiled) :
    (extend compiled).run ⟨params, around⟩ = .ok () ⟨params.extend compiled, around⟩ := by
  obtain ⟨pairs⟩ := compiled
  induction pairs generalizing params with
  | nil => rfl
  | cons pair rest inductionHypothesis =>
      exact inductionHypothesis (params.append pair.1.name pair.2)

theorem run_closeQuery :
    closeQuery.run ⟨params, draft :: around⟩ =
      .ok () ⟨params.extend ⟨draft.pairs⟩, around⟩ :=
  run_extend params around ⟨draft.pairs⟩

end Drafting

open Drafting

/-- Relations compiled in place are put after those of their level that are there already. -/
def EndsForest (nodes : List Expand) (expand : DraftEdit) : Prop :=
  ∀ params draft around,
    Ends ⟨params, draft :: around⟩ (expandItems nodes).outcome
      (fun items => ⟨params, { draft with items := draft.items ++ items } :: around⟩)
      (expand.run ⟨params, draft :: around⟩)

theorem Parts.ends_edit {parts : Parts} {expand : DraftEdit}
    (below : EndsForest parts.expand expand) (params : Params) (around : List Draft) :
    Ends ⟨params, around⟩ parts.compile
      (fun compiled => ⟨params, ⟨compiled.pairs, []⟩ :: around⟩)
      ((parts.edit expand).run ⟨params, around⟩) := by
  rw [Parts.edit, run_seq_of_ok (run_openLevel ..), run_seq_of_ok (run_write ..)]
  refine (below params _ around).bind fun items => ?_
  rw [run_seq_of_ok (run_writeExpand ..)]
  refine (ends_writeFilter params _ around parts.filter).bind fun condition => ?_
  rw [run_seq_of_ok (run_write ..), run_write]
  simp [Ends, Compiled.assemble]

theorem Expand.edit_eq (node : Expand) :
    node.edit =
      node.parts.edit (editForest node.children) >>= fun _ => closeRelation node.relation := by
  obtain ⟨relation, select, filter, orderBy, children⟩ := node
  rw [edit]

theorem Expand.ends_edit {node : Expand}
    (below : EndsForest node.children (editForest node.children)) (params : Params) (draft : Draft)
    (around : List Draft) :
    Ends ⟨params, draft :: around⟩ node.parts.compile
      (fun options => ⟨params, { draft with
        items := draft.items ++ [expandItem node.relation options] } :: around⟩)
      (node.edit.run ⟨params, draft :: around⟩) := by
  rw [edit_eq]
  exact (node.parts.ends_edit below params (draft :: around)).andThen fun _ =>
    run_closeRelation ..

theorem endsForest_editForest (nodes : List Expand) : EndsForest nodes (editForest nodes) := by
  induction nodes using Expand.forest_induction with
  | nil =>
      intro params draft around
      simp [Ends, editForest, expandItems]
  | cons node rest childrenHypothesis restHypothesis =>
      intro params draft around
      rw [outcome_expandItems_cons, editForest]
      refine (node.ends_edit childrenHypothesis params draft around).bind fun options => ?_
      have after := restHypothesis params
        { draft with items := draft.items ++ [expandItem node.relation options] } around
      cases rendered : (expandItems rest).outcome <;>
        simpa [Ends, rendered, Except.bind] using after

/-- A query that is appended in place is appended as a whole, or fails with nothing appended. -/
theorem Query.ends_edit (q : Query) (d : Drafting) :
    d.Ends (q.appendTo d.params) (fun params => ⟨params, d.drafts⟩) (q.edit.run d) := by
  have appended : d.Ends q.parts.compile (fun compiled => ⟨d.params.extend compiled, d.drafts⟩)
      (q.edit.run d) :=
    (q.parts.ends_edit (endsForest_editForest q.expand) d.params d.drafts).andThen
      fun compiled => run_closeQuery d.params ⟨compiled.pairs, []⟩ d.drafts
  rw [appendTo, compile_eq]
  cases compiles : q.parts.compile <;> simpa [Ends, compiles, Except.map] using appended

end QueryOptions
