import Mathlib.Data.List.Count
import Mathlib.Data.Prod.Basic
import QueryOptions.Proofs.Params.QueryString
import QueryOptions.Proofs.Query.InPlace

/-!
# Parameters that accumulate

Parameters only grow, and only at their end. What is appended is a pair, a compiled
query or a query that is compiled for it. If the last fails to compile, nothing of
it is appended, however much of it had been compiled by then. Looking up a key
gives what has been appended under it, in this order.
-/

namespace QueryOptions

namespace Params

/-- A call that appends to parameters. -/
inductive Call where
  | append (key value : String)
  | extend (compiled : Compiled)
  | query (q : Query)

/-- Makes a call as a whole. -/
def perform (p : Params) : Call → Except UnterminatedScope Params
  | .append key value => .ok (p.append key value)
  | .extend compiled => .ok (p.extend compiled)
  | .query q => q.appendTo p

namespace Call

/-- Makes a call in place. -/
def edit : Call → DraftEdit
  | .append key value => DraftEdit.append key value
  | .extend compiled => DraftEdit.extend compiled
  | .query q => q.edit

/-- What a call appends. A query that does not compile has nothing to append. -/
def pairs : Call → List (String × String)
  | .append key value => [(key, value)]
  | .extend compiled => compiled.pairs.map fun (key, value) => (key.name, value)
  | .query q =>
    match q.compile with
    | .ok compiled => compiled.pairs.map fun (key, value) => (key.name, value)
    | .error _ => []

/-- The error with which a query does not compile. -/
def error? : Call → Option UnterminatedScope
  | .append .. | .extend _ => none
  | .query q =>
    match q.compile with
    | .ok _ => none
    | .error error => some error

theorem ends_edit (call : Call) (d : Drafting) :
    d.Ends (d.params.perform call) (fun params => ⟨params, d.drafts⟩) (call.edit.run d) := by
  cases call with
  | append key value => rfl
  | extend compiled => exact Drafting.run_extend d.params d.drafts compiled
  | query q => exact q.ends_edit d

/-- What a call reports and what it leaves. -/
def make (call : Call) (d : Drafting) : Option UnterminatedScope × Drafting :=
  match call.edit.run d with
  | .ok _ left => (none, left)
  | .error error left => (some error, left)

end Call

theorem perform_eq (p : Params) (call : Call) :
    p.perform call = match call.error? with
      | none => .ok ⟨p.pairs ++ call.pairs⟩
      | some error => .error error := by
  cases call with
  | append key value => rfl
  | extend compiled => exact congrArg (Except.ok ∘ Params.mk) (p.pairs_extend compiled)
  | query q =>
      rw [perform, Query.appendTo, Call.error?, Call.pairs]
      cases q.compile with
      | ok compiled => exact congrArg (Except.ok ∘ Params.mk) (p.pairs_extend compiled)
      | error error => rfl

theorem Call.pairs_eq_nil {call : Call} {error : UnterminatedScope}
    (fails : call.error? = some error) : call.pairs = [] := by
  cases call with
  | append key value => cases fails
  | extend compiled => cases fails
  | query q =>
      cases compiles : q.compile with
      | ok compiled => simp [error?, compiles] at fails
      | error error => simp [pairs, compiles]

theorem Call.make_eq (call : Call) (d : Drafting) :
    ∃ drafts, call.make d = (call.error?, ⟨⟨d.params.pairs ++ call.pairs⟩, drafts⟩) := by
  have ends := call.ends_edit d
  rw [perform_eq] at ends
  cases reported : call.error? with
  | none =>
      rw [reported] at ends
      have reached : call.edit.run d = .ok () ⟨⟨d.params.pairs ++ call.pairs⟩, d.drafts⟩ := ends
      exact ⟨d.drafts, by rw [make, reached]⟩
  | some error =>
      rw [reported] at ends
      obtain ⟨drafts, failed⟩ := ends
      exact ⟨drafts, by rw [make, failed, pairs_eq_nil reported, List.append_nil]⟩

end Params

namespace Drafting

/-- Makes calls one after another, each on what the one before it has left, whether or not that
failed. -/
def makeAll (d : Drafting) : List Params.Call → List (Option UnterminatedScope) × Drafting
  | [] => ([], d)
  | call :: rest =>
    let (report, left) := call.make d
    let (reports, last) := left.makeAll rest
    (report :: reports, last)

theorem makeAll_eq (d : Drafting) (calls : List Params.Call) :
    ∃ drafts, d.makeAll calls = (calls.map Params.Call.error?,
      ⟨⟨d.params.pairs ++ calls.flatMap Params.Call.pairs⟩, drafts⟩) := by
  induction calls generalizing d with
  | nil => exact ⟨d.drafts, by simp [makeAll]⟩
  | cons call rest inductionHypothesis =>
      obtain ⟨drafts, made⟩ := call.make_eq d
      obtain ⟨last, others⟩ := inductionHypothesis ⟨⟨d.params.pairs ++ call.pairs⟩, drafts⟩
      exact ⟨last, by simp [makeAll, made, others]⟩

end Drafting

namespace Params

variable (p : Params) (key : String)

theorem map_getAll :
    (p.getAll key).map (Prod.mk key) = p.pairs.filter fun pair => pair.1 = key := by
  rw [getAll, List.map_map]
  calc
    _ = (p.pairs.filter fun pair => pair.1 = key).map id := by
      apply List.map_congr_left
      intro pair stored
      have same : pair.1 = key := of_decide_eq_true (List.mem_filter.mp stored).2
      exact Prod.ext same.symm rfl
    _ = _ := List.map_id _

theorem getAll_sublist : ((p.getAll key).map (Prod.mk key)).Sublist p.pairs := by
  rw [map_getAll]
  exact List.filter_sublist

theorem count_getAll (value : String) :
    (p.getAll key).count value = p.pairs.count (key, value) := by
  rw [← List.count_map_of_injective _ _ (Prod.mk_right_injective key), map_getAll,
    List.count_filter]
  simp

theorem get?_eq_head? : p.get? key = (p.getAll key).head? := by
  rw [get?, getAll, List.head?_map, List.head?_filter]

/-- Calls on parameters append their pairs one after another. A query that does not compile
reports its error and appends nothing, although it is compiled in place and leaves behind what it
has written until then. Under a key all values are found that are stored under it, as they stand
among the pairs, and the first of them if one is asked for. -/
theorem calls_append_whole_or_nothing (d : Drafting) (calls : List Call) :
    (d.makeAll calls).1 = calls.map Call.error? ∧
    (d.makeAll calls).2.params.pairs = d.params.pairs ++ calls.flatMap Call.pairs ∧
    (∀ (call : Call) (found : Drafting),
      found.Ends (found.params.perform call) (fun params => ⟨params, found.drafts⟩)
        (call.edit.run found)) ∧
    ∀ key, let p := (d.makeAll calls).2.params
      ((p.getAll key).map (Prod.mk key)).Sublist p.pairs ∧
        (∀ value, (p.getAll key).count value = p.pairs.count (key, value)) ∧
        p.get? key = (p.getAll key).head? := by
  obtain ⟨drafts, made⟩ := d.makeAll_eq calls
  rw [made]
  refine ⟨rfl, rfl, Call.ends_edit, ?_⟩
  intro key p
  exact ⟨p.getAll_sublist key, p.count_getAll key, p.get?_eq_head? key⟩

example :
    let posts : Expand := { relation := "Posts", select := .raw "Title" }
    let users : Expand :=
      { relation := "Users", select := .raw "Name"
        filter := Filter.beginLambda {} .any "Roles" }
    let q : Query := { select := some (.raw "Id"), expand := [posts, users] }
    (Call.query q).make ⟨⟨[("api-version", "2")]⟩, []⟩ =
      (some ⟨.lambda .any, 1⟩,
        ⟨⟨[("api-version", "2")]⟩,
          [⟨[(.select, "Name")], []⟩, ⟨[(.select, "Id")], ["Posts($select=Title)"]⟩]⟩) := by
  decide

end Params

end QueryOptions
