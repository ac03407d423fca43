import QueryOptions.Proofs.Query.Independence
import QueryOptions.Proofs.Query.Selection
import QueryOptions.Proofs.Text.Cutting

/-!
# Two spellings of projections

A projection that is given as one text may as well be given as the list of fields
between its commas, blank ones included. Wherever this is done in the calls that
build a query and its relations, the query compiles to the same parameters, and
so does each of its relations. Only an empty text is not a list of one blank field.
-/

namespace QueryOptions

namespace Select

/-- The fields between the commas of a text. -/
def listed (text : String) : Select := .fields ((Text.cut ',' text.toList).map String.ofList)

theorem render?_listed (text : String) : (listed text).render? = some text := by
  refine render?_eq_some.mpr ⟨?_, ?_⟩
  · simpa [listed, isEmpty] using Text.cut_ne_nil ',' text.toList
  · rw [listed, entries, Text.join_cut rfl, String.ofList_toList]

/-- Entries are written after others with a comma between, if there are some of both. -/
theorem render?_fields_append (first second : List String) :
    (fields (first ++ second)).render? =
      Option.merge (fun text more => text ++ "," ++ more) (fields first).render?
        (fields second).render? := by
  cases first with
  | nil => cases second <;> rfl
  | cons name names =>
      cases second with
      | nil => simp [render?, isEmpty]
      | cons other others =>
          have joined : Text.join "," ((name :: names) ++ (other :: others)) =
              Text.join "," (name :: names) ++ "," ++ Text.join "," (other :: others) :=
            Text.join_append (List.cons_ne_nil _ _) (List.cons_ne_nil _ _)
          simpa [render?, isEmpty, entries] using joined

/-- Two projections are written alike, and so are their entries among others. -/
structure Agrees (select other : Select) : Prop where
  render : other.render? = select.render?
  entries : (fields other.entries).render? = (fields select.entries).render?

theorem Agrees.refl (select : Select) : select.Agrees select := ⟨rfl, rfl⟩

theorem Agrees.extend {select other more further : Select} (agrees : select.Agrees other)
    (added : more.Agrees further) : (select.extend more).Agrees (other.extend further) := by
  have written : (other.extend further).render? = (select.extend more).render? := by
    rw [Select.extend, Select.extend, render?_fields_append, render?_fields_append,
      agrees.entries, added.entries]
  exact ⟨written, written⟩

theorem agrees_listed {text : String} (given : text ≠ "") : (raw text).Agrees (listed text) where
  render := by
    rw [render?_listed]
    simp [render?, isEmpty, entries, given]
  entries := render?_listed text

/-- The same projection, or a text and the fields between its commas. -/
inductive Respells : Select → Select → Prop
  | same (select : Select) : Respells select select
  | cut {text : String} : text ≠ "" → Respells (.raw text) (listed text)

theorem Respells.of_listed_eq {text : String} {names : List String} (given : text ≠ "")
    (cuts : Select.listed text = fields names) : Respells (.raw text) (.fields names) :=
  cuts ▸ .cut given

theorem Respells.agrees {select respelled : Select} (respells : select.Respells respelled) :
    select.Agrees respelled := by
  cases respells with
  | same => exact .refl select
  | cut given => exact agrees_listed given

end Select

/-! ## The same calls with other spellings -/

mutual

inductive Expand.Call.Respells : Expand.Call → Expand.Call → Prop
  | select {select respelled : Select} : select.Respells respelled →
      Expand.Call.Respells (.select select) (.select respelled)
  | filter (call : CursorCall) : Expand.Call.Respells (.filter call) (.filter call)
  | orderBy (key : SortKey) : Expand.Call.Respells (.orderBy key) (.orderBy key)
  | children {call respelled : ForestCall} : ForestCall.Respells call respelled →
      Expand.Call.Respells (.children call) (.children respelled)

inductive ForestCall.Respells : ForestCall → ForestCall → Prop
  | add (relation : String) : ForestCall.Respells (.add relation) (.add relation)
  | push {node other : Expand} : Expand.BuiltAlike node other →
      ForestCall.Respells (.push node) (.push other)
  | last {call respelled : Expand.Call} : Expand.Call.Respells call respelled →
      ForestCall.Respells (.last call) (.last respelled)

/-- Relations that have come about by the same calls, but for the spelling of projections. -/
inductive Expand.BuiltAlike : Expand → Expand → Prop
  | same (node : Expand) : Expand.BuiltAlike node node
  | perform {node other : Expand} {call respelled : Expand.Call} : Expand.BuiltAlike node other →
      Expand.Call.Respells call respelled →
      Expand.BuiltAlike (node.perform call).1 (other.perform respelled).1

end

mutual

theorem Expand.Call.Respells.refl : ∀ call : Expand.Call, call.Respells call
  | .select select => .select (.same select)
  | .filter call => .filter call
  | .orderBy key => .orderBy key
  | .children call => .children (.refl call)

theorem ForestCall.Respells.refl : ∀ call : ForestCall, call.Respells call
  | .add relation => .add relation
  | .push node => .push (.same node)
  | .last call => .last (.refl call)

end

inductive Query.Call.Respells : Query.Call → Query.Call → Prop
  | same (call : Query.Call) : Respells call call
  | select {select respelled} : Select.Respells select respelled →
      Respells (.select (some select)) (.select (some respelled))
  | expand {call respelled} : ForestCall.Respells call respelled →
      Respells (.expand call) (.expand respelled)

/-! ## What they lead to -/

/-- The same relations, but for projections that agree. -/
inductive Expand.Agrees : Expand → Expand → Prop
  | intro {node other : Expand} : other.relation = node.relation →
      node.select.Agrees other.select → other.filter = node.filter →
      other.orderBy = node.orderBy → List.Forall₂ Agrees node.children other.children →
      Agrees node other

namespace Expand

theorem forall₂_agrees_refl (nodes : List Expand) : List.Forall₂ Agrees nodes nodes := by
  induction nodes using forest_induction with
  | nil => exact .nil
  | cons node rest childrenHypothesis restHypothesis =>
      exact .cons (.intro rfl (.refl _) rfl rfl childrenHypothesis) restHypothesis

namespace Agrees

variable {node other : Expand}

theorem refl (node : Expand) : node.Agrees node :=
  .intro rfl (.refl _) rfl rfl (forall₂_agrees_refl _)

theorem relation_eq : node.Agrees other → other.relation = node.relation
  | .intro relation _ _ _ _ => relation

theorem children : node.Agrees other → List.Forall₂ Agrees node.children other.children
  | .intro _ _ _ _ below => below

end Agrees

end Expand

theorem forall₂_concat {α β : Type} {R : α → β → Prop} {before : List α} {last : α}
    {others : List β} (related : List.Forall₂ R (before ++ [last]) others) :
    ∃ first other, others = first ++ [other] ∧ List.Forall₂ R before first ∧ R last other := by
  rw [← List.forall₂_reverse_iff, List.reverse_append, List.reverse_singleton,
    List.singleton_append, List.forall₂_cons_left_iff] at related
  obtain ⟨other, first, same, rest, reversed⟩ := related
  refine ⟨first.reverse, other, ?_, ?_, same⟩
  · rw [← List.reverse_reverse others, reversed, List.reverse_cons]
  · rwa [← List.forall₂_reverse_iff, List.reverse_reverse]

mutual

-- A relation that is pushed has been built by calls of its own, which is why the induction runs
-- over these together with the calls that are being made.
theorem Expand.Call.Respells.perform {call respelled : Expand.Call} :
    call.Respells respelled → ∀ {node other : Expand}, node.Agrees other →
      (node.perform call).1.Agrees (other.perform respelled).1 ∧
        (other.perform respelled).2 = (node.perform call).2
  | .select respells, _, _, .intro relation selects filter orderBy below => by
    have extended := selects.extend respells.agrees
    exact ⟨.intro relation extended filter orderBy below, rfl⟩
  | .filter call, _, _, .intro relation selects filter orderBy below => by
    have left := congrArg (fun f => (call.perform true f).1) filter
    have outcome := congrArg (fun f => (call.perform true f).2) filter
    exact ⟨.intro relation selects left orderBy below, outcome⟩
  | .orderBy key, _, _, .intro relation selects filter orderBy below => by
    have added := congrArg (· ++ [key]) orderBy
    exact ⟨.intro relation selects filter added below, rfl⟩
  | .children respells, _, _, .intro relation selects filter orderBy below => by
    obtain ⟨agree, outcome⟩ := respells.perform below
    exact ⟨.intro relation selects filter orderBy agree, outcome⟩

theorem ForestCall.Respells.perform {call respelled : ForestCall} :
    call.Respells respelled → ∀ {nodes others : List Expand},
      List.Forall₂ Expand.Agrees nodes others →
        List.Forall₂ Expand.Agrees (ForestCall.perform nodes call).1
            (ForestCall.perform others respelled).1 ∧
          (ForestCall.perform others respelled).2 = (ForestCall.perform nodes call).2
  | .add relation, _, _, agree => by
    have added := Expand.Agrees.refl (.ofRelation relation)
    exact ⟨List.rel_append agree (.cons added .nil), rfl⟩
  | .push alike, _, _, agree => by
    have pushed := alike.agrees
    exact ⟨List.rel_append agree (.cons pushed .nil), rfl⟩
  | .last respells, nodes, others, agree => by
    rcases List.eq_nil_or_concat nodes with rfl | ⟨before, node, rfl⟩
    · cases agree
      exact ⟨.nil, rfl⟩
    · rw [List.concat_eq_append] at agree ⊢
      obtain ⟨first, other, rfl, earlier, agrees⟩ := forall₂_concat agree
      obtain ⟨agreesAfter, outcome⟩ := respells.perform agrees
      rw [ForestCall.perform_last, ForestCall.perform_last]
      exact ⟨List.rel_append earlier (.cons agreesAfter .nil), outcome⟩

theorem Expand.BuiltAlike.agrees {node other : Expand} : node.BuiltAlike other → node.Agrees other
  | .same node => .refl node
  | .perform alike respells => by
    obtain ⟨agrees, -⟩ := respells.perform alike.agrees
    exact agrees

end

theorem Expand.options_congr {node other : Expand}
    (select : other.select.render? = node.select.render?) (filter : other.filter = node.filter)
    (orderBy : other.orderBy = node.orderBy)
    (children : expandItems other.children = expandItems node.children) :
    other.options = node.options := by
  cases node
  cases other
  simp only at select filter orderBy children
  simp only [options, select, filter, orderBy, children]

theorem expandItems_eq_of_agree {nodes others : List Expand}
    (agree : List.Forall₂ Expand.Agrees nodes others) : expandItems others = expandItems nodes := by
  induction nodes using Expand.forest_induction generalizing others with
  | nil =>
      cases agree
      rfl
  | cons node rest childrenHypothesis restHypothesis =>
      obtain _ | ⟨⟨relation, selects, filter, orderBy, below⟩, later⟩ := agree
      rw [expandItems, expandItems, restHypothesis later, relation,
        Expand.options_congr selects.render filter orderBy (childrenHypothesis below)]

theorem Expand.Agrees.options_eq {node other : Expand} (agrees : node.Agrees other) :
    other.options = node.options := by
  obtain ⟨-, selects, filter, orderBy, below⟩ := agrees
  exact options_congr selects.render filter orderBy (expandItems_eq_of_agree below)

theorem Expand.forall₂_agrees_forestNodes {nodes others : List Expand}
    (agree : List.Forall₂ Agrees nodes others) :
    List.Forall₂ Agrees (forestNodes nodes) (forestNodes others) := by
  induction nodes using forest_induction generalizing others with
  | nil =>
      cases agree
      exact .nil
  | cons node rest childrenHypothesis restHypothesis =>
      obtain _ | ⟨agrees, later⟩ := agree
      rw [forestNodes_cons, forestNodes_cons]
      exact List.rel_append (childrenHypothesis agrees.children)
        (.cons agrees (restHypothesis later))

namespace Query

/-- The same queries, but for projections that agree, their own and those of all relations. -/
structure Agrees (q other : Query) : Prop where
  others : other = { q with select := other.select, expand := other.expand }
  select : other.select.bind Select.render? = q.select.bind Select.render?
  expand : List.Forall₂ Expand.Agrees q.expand other.expand

namespace Agrees

variable {q other : Query}

theorem refl (q : Query) : q.Agrees q := ⟨rfl, rfl, Expand.forall₂_agrees_refl q.expand⟩

theorem compile_eq (agrees : q.Agrees other) : other.compile = q.compile := by
  have items := expandItems_eq_of_agree agrees.expand
  rw [Query.compile_eq, Query.compile_eq, Parts.compile, Parts.compile, agrees.others]
  simp only [parts, window, items, agrees.select]

theorem perform {call respelled : Call} (agrees : q.Agrees other)
    (respells : call.Respells respelled) :
    (q.perform call).1.Agrees (other.perform respelled).1 ∧
      (other.perform respelled).2 = (q.perform call).2 := by
  obtain ⟨others, select, expand⟩ := agrees
  cases q
  cases other
  simp only [Query.mk.injEq, true_and] at others select expand
  obtain ⟨rfl, rfl, rfl, rfl, rfl, rfl, rfl⟩ := others
  cases respells with
  | same call =>
      cases call with
      | select select => exact ⟨⟨rfl, rfl, expand⟩, rfl⟩
      | expand call =>
          obtain ⟨agree, outcome⟩ := (ForestCall.Respells.refl call).perform expand
          exact ⟨⟨rfl, select, agree⟩, outcome⟩
      | _ => exact ⟨⟨rfl, select, expand⟩, rfl⟩
  | select respells => exact ⟨⟨rfl, respells.agrees.render, expand⟩, rfl⟩
  | expand respells =>
      obtain ⟨agree, outcome⟩ := respells.perform expand
      exact ⟨⟨rfl, select, agree⟩, outcome⟩

theorem final {made respelled : List Call} (agrees : q.Agrees other)
    (respells : List.Forall₂ Call.Respells made respelled) :
    (calls.final q made).Agrees (calls.final other respelled) ∧
      (calls.trace other respelled).map Prod.snd = (calls.trace q made).map Prod.snd := by
  induction respells generalizing q other with
  | nil => exact ⟨agrees, rfl⟩
  | cons first rest inductionHypothesis =>
      obtain ⟨agreesAfter, outcome⟩ := agrees.perform first
      obtain ⟨last, outcomes⟩ := inductionHypothesis agreesAfter
      exact ⟨last, congrArg₂ List.cons outcome outcomes⟩

end Agrees

/-- In the calls that build a query and its relations, at any depth, texts that are given as
projections can be replaced by the lists of fields between their commas, unless they are empty.
The calls have the same outcomes, and the query and each of its relations are compiled to the same
as before. -/
theorem compile_respelled (q : Query) {made respelled : List Call}
    (respells : List.Forall₂ Call.Respells made respelled) :
    (calls.final q respelled).compile = (calls.final q made).compile ∧
      List.Forall₂ (fun node other => other.relation = node.relation ∧ other.options = node.options)
        (Expand.forestNodes (calls.final q made).expand)
        (Expand.forestNodes (calls.final q respelled).expand) ∧
      (calls.trace q respelled).map Prod.snd = (calls.trace q made).map Prod.snd := by
  obtain ⟨agrees, outcomes⟩ := (Agrees.refl q).final respells
  refine ⟨agrees.compile_eq, ?_, outcomes⟩
  refine (Expand.forall₂_agrees_forestNodes agrees.expand).imp fun node other same => ?_
  exact ⟨same.relation_eq, same.options_eq⟩

/-- The projections of a query, of one of its relations and of one below that, with blank fields
at the front, in the middle and at the end. -/
theorem compile_respelled_nested :
    let tags (select : Select) : Expand := (Expand.ofRelation "Tags").addSelect select
    let made : List Call :=
      [.select (some (.raw "Id,,Name")), .expand (.add "Users"),
        .expand (.last (.select (.raw ",Age"))), .expand (.last (.select (.fields ["City"]))),
        .expand (.last (.children (.push (tags (.raw "Kind,")))))]
    let respelled : List Call :=
      [.select (some (.fields ["Id", "", "Name"])), .expand (.add "Users"),
        .expand (.last (.select (.fields ["", "Age"]))),
        .expand (.last (.select (.fields ["City"]))),
        .expand (.last (.children (.push (tags (.fields ["Kind", ""])))))]
    List.Forall₂ Call.Respells made respelled ∧
      (calls.final {} respelled).compile =
        .ok ⟨[(.select, "Id,,Name"),
          (.expand, "Users($select=,Age,City;$expand=Tags($select=Kind,))")]⟩ := by
  intro tags made respelled
  have id : Select.Respells (.raw "Id,,Name") (.fields ["Id", "", "Name"]) :=
    .of_listed_eq (by decide) (by decide)
  have age : Select.Respells (.raw ",Age") (.fields ["", "Age"]) :=
    .of_listed_eq (by decide) (by decide)
  have kind : Select.Respells (.raw "Kind,") (.fields ["Kind", ""]) :=
    .of_listed_eq (by decide) (by decide)
  have pushed : (tags (.raw "Kind,")).BuiltAlike (tags (.fields ["Kind", ""])) :=
    .perform (.same _) (.select kind)
  have respells : List.Forall₂ Call.Respells made respelled :=
    .cons (.select id) (.cons (.same _) (.cons (.expand (.last (.select age)))
      (.cons (.same _) (.cons (.expand (.last (.children (.push pushed)))) .nil))))
  refine ⟨respells, ?_⟩
  rw [(compile_respelled {} respells).1]
  decide

end Query

end QueryOptions
