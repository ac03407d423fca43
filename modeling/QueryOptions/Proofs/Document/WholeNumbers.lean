import QueryOptions.Proofs.Decimal.Rounding
import QueryOptions.Proofs.Document.Operators
import QueryOptions.Proofs.Json.Number
import QueryOptions.Proofs.Json.Values

/-!
# Whole numbers in filters

A whole number that a document compares with is shown digit for digit as long
as it fits 64 bits with a sign. One that fits 64 bits only without a sign is
taken for a floating point number and shown in thousands.
-/

namespace QueryOptions

open Decimal

/-- How a whole number is shown: digit for digit up to the greatest one with a sign, and beyond
that rounded to thousands. -/
def WholeShown (n : Int) (shown : String) : Prop :=
  (n ≤ greatestSigned → shown = intText n) ∧
  (greatestSigned < n →
    ∃ m : Nat, shown = natText m ∧ 1000 ∣ m ∧ (m : Int) ≤ n + 3072 ∧ n ≤ m + 3072)

theorem DocumentValue.wholeShown_ofInt {n : Int} (least : leastSigned ≤ n)
    (most : n ≤ greatestUnsigned) : WholeShown n (ofInt n).literal.render := by
  constructor
  · intro fits
    rw [ofInt, if_pos ⟨least, fits⟩]
    exact Scaled.text_ofInt n
  · intro beyond
    have notSmall : 2 ^ 63 ≤ n := by
      unfold greatestSigned at beyond
      omega
    obtain ⟨m, rfl⟩ : ∃ m : Nat, n = m := Int.eq_ofNat_of_zero_le (by omega)
    have large : 2 ^ 63 ≤ m := by omega
    have less : m < 2 ^ 64 := by
      unfold greatestUnsigned at most
      omega
    have positive : decide ((m : Int) < 0) = false := decide_eq_false (by omega)
    obtain ⟨shown, text, thousands, above, below⟩ := Binary64.text_ofDecimal_whole large less
    refine ⟨shown, ?_, thousands, by omega, by omega⟩
    rw [ofInt, if_neg (by omega), positive, Int.natAbs_natCast, literal, Literal.render, text]

theorem forall₂_trans {α β γ : Type} {first : α → β → Prop} {second : β → γ → Prop}
    {both : α → γ → Prop} (meet : ∀ a b c, first a b → second b c → both a c) {as : List α}
    {bs : List β} {cs : List γ} (left : List.Forall₂ first as bs)
    (right : List.Forall₂ second bs cs) : List.Forall₂ both as cs := by
  induction left generalizing cs with
  | nil =>
      cases right
      exact .nil
  | cons head tail inductionHypothesis =>
      cases right with
      | cons next rest => exact .cons (meet _ _ _ head next) (inductionHypothesis rest)

namespace Json

/-- Characters that are read as a whole number wherever a value is due. -/
def StandsFor (numeral : List Char) (n : Int) : Prop :=
  ∀ fuel depth text rest, skipSpace text = numeral ++ rest → NumberEnds rest →
    readNode (fuel + 1) depth text = (.number (.whole n), some rest)

namespace Node

/-- A whole number of 64 bits is shown as what it is. -/
def ShownAs (value : Node) (shown : String) : Prop :=
  ∀ n, value = .number (.whole n) → leastSigned ≤ n → n ≤ greatestUnsigned → WholeShown n shown

/-- The values in the filter of a document, as the text of a filter shows them. -/
structure FilterShown (node : Node) (f : Filter) : Prop where
  values : List.Forall₂ ShownAs node.values (f.literals.map Literal.render)
  inOrder : ∀ text, f.render = .ok text → ShowsInOrder (f.literals.map Literal.render) text

/-- The values in the filter of a relation are shown, and so are those below it. -/
inductive RelationShown : Node → Expand → Prop
  | intro {node relation} : FilterShown node relation.filter →
      List.Forall₂ RelationShown node.expanded relation.children → RelationShown node relation

end Node

theorem decode_of_readText {α : Type} {decode : Decoder α} {text : String} {value : α}
    (read : readText decode text = .ok value) : decode (Node.ofText text).1 = .ok value := by
  rcases parsed : Node.ofText text with ⟨node, complete⟩
  rw [readText, parsed] at read
  obtain ⟨found, decoded, ended⟩ := except_bind_eq_ok.mp read
  cases complete with
  | false => cases ended
  | true =>
      cases ended
      exact decoded

theorem readValue_shown {value : Node} {read : DocumentValue}
    (valueRead : readValue value = .ok read) : value.ShownAs read.literal.render := by
  rintro n rfl least most
  cases valueRead
  exact DocumentValue.wholeShown_ofInt least most

theorem filterShown {node : Node} {steps : List FilterStep} {f : Filter}
    (read : List.Forall₂ (fun item step => format.step item = .ok step) node.steps steps)
    (built : f.IsBuiltBy steps) : node.FilterShown f where
  values := by
    rw [built.literals_eq, List.map_map, List.forall₂_map_right_iff]
    exact (forall₂_values read).imp fun _ _ valueRead => readValue_shown valueRead
  inOrder text rendered := by
    rw [Filter.eq_text_of_render rendered]
    exact f.showsInOrder_text

theorem relationShown {levels : Nat} {node : Node} {document : ExpandDocument} {relation : Expand}
    (read : format.expand levels node = .ok document) (described : document.Describes relation) :
    node.RelationShown relation := by
  induction levels generalizing node document relation with
  | zero => cases read
  | succ levels inductionHypothesis =>
      obtain ⟨stepsRead, childrenRead⟩ := sections_of_expand read
      obtain ⟨-, -, built, -, below⟩ := described
      refine .intro (filterShown stepsRead built) (forall₂_trans ?_ childrenRead below)
      intro child document relation childRead described
      exact inductionHypothesis childRead described

end Json

theorem Document.built_of_apply {d : Document} {defaults : Defaults}
    (applied : (d.apply (.ofDefaults defaults)).failure = none) :
    (d.apply (.ofDefaults defaults)).state.filter.IsBuiltBy d.filter ∧
      List.Forall₂ ExpandDocument.Describes d.expand
        (d.apply (.ofDefaults defaults)).state.expand := by
  unfold apply at applied ⊢
  obtain ⟨expanded, -⟩ := Progress.failure_andThen_eq_none_iff.mp applied
  obtain ⟨sorted, nodesAdded⟩ := Progress.failure_andThen_eq_none_iff.mp expanded
  obtain ⟨filtered, -⟩ := Progress.failure_andThen_eq_none_iff.mp sorted
  have built : (Filter.applySteps {} d.filter).failure = none :=
    Progress.failure_map_eq_none_iff.mp filtered
  obtain ⟨relations, reached, described⟩ := Query.state_applyExpand nodesAdded
  rw [Progress.state_andThen expanded, Progress.state_andThen sorted, reached,
    Progress.state_andThen filtered, Progress.state_start, Progress.state_start,
    Query.foldl_addSortKey]
  exact ⟨Filter.isBuiltBy_of_applySteps built, described⟩

/-- The digits of a whole number of 64 bits are read as that number wherever a document has a value,
and in the filters of an applied document, at every level, it is shown by exactly these digits if it
has 64 bits with its sign. Beyond that it is shown in thousands. -/
theorem Document.whole_numbers_shown {source : String} {d : Document} (defaults : Defaults)
    (read : Json.readText Json.readDocument source = .ok d)
    (applied : (d.apply (.ofDefaults defaults)).failure = none) :
    let node := (Json.Node.ofText source).1
    let q := (d.apply (.ofDefaults defaults)).state
    (∀ n, leastSigned ≤ n → n ≤ greatestUnsigned → Json.StandsFor (intText n).toList n) ∧
    node.FilterShown q.filter ∧ List.Forall₂ Json.Node.RelationShown node.expanded q.expand := by
  intro node q
  obtain ⟨stepsRead, childrenRead⟩ := Json.sections_of_document (Json.decode_of_readText read)
  obtain ⟨built, described⟩ := built_of_apply applied
  refine ⟨?_, Json.filterShown stepsRead built, forall₂_trans ?_ childrenRead described⟩
  · intro n least most fuel depth text rest due ends
    exact Json.readNode_intText least most ends due fuel depth
  · intro child document relation childRead described
    exact Json.relationShown childRead described

/-- A number that has its digits, and the first one that has not. -/
theorem Document.whole_numbers_shown_beyond :
    let source := "\x7b\"filter\":[\x7b\"compare\":[\"N\",\"gt\",-9]\x7d,\"or\"," ++
      "\x7b\"compare\":[\"N\",\"eq\",9223372036854775808]\x7d]\x7d"
    ∃ d, Json.readText Json.readDocument source = .ok d ∧
      (d.apply (.ofDefaults {})).failure = none ∧
      let q := (d.apply (.ofDefaults {})).state
      q.filter.render = .ok "N gt -9 or N eq 9223372036854776000" ∧
        (Json.Node.ofText source).1.FilterShown q.filter := by
  intro source
  have checked : (match Json.readText Json.readDocument source with
      | .ok d =>
        let applied := d.apply (.ofDefaults {})
        decide (applied.failure = none ∧
          applied.state.filter.render = .ok "N gt -9 or N eq 9223372036854776000")
      | .error _ => false) = true := by decide +kernel
  split at checked
  next d read =>
    obtain ⟨applied, rendered⟩ := of_decide_eq_true checked
    exact ⟨d, read, applied, rendered, (whole_numbers_shown {} read applied).2.1⟩
  next => cases checked

end QueryOptions
