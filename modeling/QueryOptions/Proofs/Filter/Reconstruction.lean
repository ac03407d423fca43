import QueryOptions.Proofs.Filter.Bracketing

/-!
# Conditions recovered from runs

A run of calls that closes every bracket where it stands is the run of a
condition. The condition is put together call by call: at each level of open
brackets there are the operands that are complete, with the combinators after
them, and the negations that wait for their operand. Its text has the form of
a small grammar.
-/

namespace QueryOptions

/-- A group is closed after an operand, and the number that a count gives is compared by an
operator that stands between. -/
def FilterCall.IsDisciplined : FilterCall → Prop
  | .closeGroup => False
  | .endCount op _ => op.isFunction = false
  | _ => True

instance : DecidablePred FilterCall.IsDisciplined
  | .closeGroup => inferInstanceAs (Decidable False)
  | .endCount op _ => inferInstanceAs (Decidable (op.isFunction = false))
  | .compare .. | .negateNext | .openGroup | .beginLambda .. | .beginCount _ | .combine _
  | .endGroup | .endLambda _ => inferInstanceAs (Decidable True)

mutual

/-- The texts of operands joined by combinators. -/
inductive IsConditionText : String → Prop
  | single {operand} : IsOperandText operand → IsConditionText operand
  | joined {operand rest} (combinator : Combinator) : IsOperandText operand →
      IsConditionText rest → IsConditionText (operand ++ combinator.text ++ rest)

inductive IsOperandText : String → Prop
  | negation {operand} : IsOperandText operand → IsOperandText ("Not " ++ operand)
  | comparison (comparison : Comparison) :
      IsOperandText (comparison.written comparison.field)
  | group {body} : IsConditionText body → IsOperandText ("(" ++ body ++ ")")
  | lambda {body} (quantifier : Quantifier) (relation : String) (index : Nat) :
      IsConditionText body →
      IsOperandText (relation ++ "/" ++ quantifier.name ++ "(" ++ variableName index ++ ":" ++
        body ++ ")")
  | count {body} (relation : String) (op : InfixOp) (value : Literal) :
      IsConditionText body →
      IsOperandText (relation ++ "/count($filter=" ++ body ++ ") " ++ op.op.name ++ " " ++
        value.render)

end

mutual

theorem Operand.isOperandText_print (operand : Operand) (bound : Option String) (lambdas : Nat) :
    IsOperandText (operand.print bound lambdas).1 := by
  cases operand with
  | comparison comparison =>
      exact .comparison { comparison with field := qualified bound comparison.field }
  | negation operand => exact .negation (operand.isOperandText_print bound lambdas)
  | group body => exact .group (body.isConditionText_print bound lambdas)
  | lambda quantifier relation body =>
      exact .lambda quantifier _ lambdas (body.isConditionText_print _ _)
  | count relation body op value =>
      exact .count _ op value (body.isConditionText_print none lambdas)

/-- A condition is printed by the rules of the grammar, inside whatever lambda it stands. -/
theorem Condition.isConditionText_print (condition : Condition) (bound : Option String)
    (lambdas : Nat) : IsConditionText (condition.print bound lambdas).1 := by
  cases condition with
  | single operand => exact .single (operand.isOperandText_print bound lambdas)
  | joined operand combinator rest =>
      exact .joined combinator (operand.isOperandText_print bound lambdas)
        (rest.isConditionText_print bound _)

end

namespace Operand

/-- An operand after so many negations. -/
def negated : Nat → Operand → Operand
  | 0, operand => operand
  | negations + 1, operand => .negation (operand.negated negations)

theorem calls_negated (negations : Nat) (operand : Operand) :
    (operand.negated negations).calls =
      List.replicate negations .negateNext ++ operand.calls := by
  induction negations with
  | zero => rfl
  | succ negations inductionHypothesis =>
      rw [negated, calls, inductionHypothesis, List.replicate_succ, List.cons_append]

end Operand

/-- Operands that are complete, with the combinators after them. -/
abbrev JoinedOperands := List (Operand × Combinator)

namespace JoinedOperands

def calls (joined : JoinedOperands) : List FilterCall :=
  joined.flatMap fun (operand, combinator) => operand.calls ++ [.combine combinator]

theorem calls_concat (joined : JoinedOperands) (operand : Operand) (combinator : Combinator) :
    calls (joined ++ [(operand, combinator)]) =
      calls joined ++ operand.calls ++ [.combine combinator] := by
  simp [calls]

def condition : JoinedOperands → Operand → Condition
  | [], last => .single last
  | (operand, combinator) :: rest, last => .joined operand combinator (condition rest last)

theorem calls_condition (joined : JoinedOperands) (last : Operand) :
    (condition joined last).calls = calls joined ++ last.calls := by
  induction joined with
  | nil => rfl
  | cons first rest inductionHypothesis =>
      simp [condition, Condition.calls, inductionHypothesis, calls]

end JoinedOperands

/-- What opens a bracket. -/
inductive BracketOpening where
  | group
  | lambda (quantifier : Quantifier) (relation : String)
  | count (relation : String)

namespace BracketOpening

def call : BracketOpening → FilterCall
  | .group => .openGroup
  | .lambda quantifier relation => .beginLambda quantifier relation
  | .count relation => .beginCount relation

def bracket : BracketOpening → Bracket
  | .group => .group
  | .lambda quantifier _ => .scope (.lambda quantifier)
  | .count _ => .scope .count

variable {opening : BracketOpening}

theorem eq_group (same : opening.bracket = .group) : opening = .group := by
  cases opening <;> cases same
  rfl

theorem eq_lambda {quantifier : Quantifier}
    (same : opening.bracket = .scope (.lambda quantifier)) :
    ∃ relation, opening = .lambda quantifier relation := by
  cases opening <;> cases same
  exact ⟨_, rfl⟩

theorem eq_count (same : opening.bracket = .scope .count) :
    ∃ relation, opening = .count relation := by
  cases opening <;> cases same
  exact ⟨_, rfl⟩

end BracketOpening

/-- What stands at one level of brackets before the operand that is due. -/
structure Beginning where
  joined : JoinedOperands := []
  negations : Nat := 0

def Beginning.calls (beginning : Beginning) : List FilterCall :=
  beginning.joined.calls ++ List.replicate beginning.negations .negateNext

/-- The levels around the innermost bracket, each with what opens the next one. -/
abbrev OuterLevels := List (Beginning × BracketOpening)

/-- The calls that have led into the open brackets. -/
def OuterLevels.calls : OuterLevels → List FilterCall
  | [] => []
  | (beginning, opening) :: outer =>
    OuterLevels.calls outer ++ beginning.calls ++ [opening.call]

/-- A condition that is put together as far as the calls go. -/
inductive PartialCondition where
  /-- An operand is due. -/
  | clause (outer : OuterLevels) (beginning : Beginning)
  /-- An operand has just ended. -/
  | operator (outer : OuterLevels) (joined : JoinedOperands) (last : Operand)

namespace PartialCondition

def calls : PartialCondition → List FilterCall
  | .clause outer beginning => outer.calls ++ beginning.calls
  | .operator outer joined last => outer.calls ++ joined.calls ++ last.calls

def position : PartialCondition → Position
  | .clause .. => .clause
  | .operator .. => .operator

def outer : PartialCondition → OuterLevels
  | .clause outer _ | .operator outer .. => outer

/-- The open brackets, innermost first. -/
def brackets (condition : PartialCondition) : List Bracket :=
  condition.outer.map fun (_, opening) => opening.bracket

/-- Puts an operand where it is due, under the negations that wait for it. -/
def complete (outer : OuterLevels) (beginning : Beginning) (operand : Operand) :
    PartialCondition :=
  .operator outer beginning.joined (operand.negated beginning.negations)

theorem calls_complete (outer : OuterLevels) (beginning : Beginning) (operand : Operand) :
    (complete outer beginning operand).calls =
      (clause outer beginning).calls ++ operand.calls := by
  simp [complete, calls, Beginning.calls, Operand.calls_negated]

theorem calls_negate (outer : OuterLevels) (beginning : Beginning) :
    (clause outer { beginning with negations := beginning.negations + 1 }).calls =
      (clause outer beginning).calls ++ [.negateNext] := by
  simp [calls, Beginning.calls, List.replicate_succ']

theorem calls_open (outer : OuterLevels) (beginning : Beginning) (opening : BracketOpening) :
    (clause ((beginning, opening) :: outer) {}).calls =
      (clause outer beginning).calls ++ [opening.call] := by
  simp [calls, Beginning.calls, OuterLevels.calls, JoinedOperands.calls]

theorem calls_combine (outer : OuterLevels) (joined : JoinedOperands) (last : Operand)
    (combinator : Combinator) :
    (clause outer { joined := joined ++ [(last, combinator)] }).calls =
      (operator outer joined last).calls ++ [.combine combinator] := by
  simp [calls, Beginning.calls, JoinedOperands.calls_concat]

/-- The innermost level becomes the body of an operand of the level around it. -/
theorem calls_close {opening : BracketOpening} {operand : Operand} {close : FilterCall}
    {joined : JoinedOperands} {last : Operand} (outer : OuterLevels) (beginning : Beginning)
    (closed : operand.calls = opening.call :: ((joined.condition last).calls ++ [close])) :
    (complete outer beginning operand).calls =
      (operator ((beginning, opening) :: outer) joined last).calls ++ [close] := by
  rw [calls_complete, closed, JoinedOperands.calls_condition]
  simp [calls, OuterLevels.calls]

/-- A disciplined call in its place, which closes the innermost bracket if it closes any, puts
the condition together further. -/
theorem extend {condition : PartialCondition} {call : FilterCall} {reached : List Bracket}
    (placed : call.place = condition.position)
    (nested : call.nest condition.brackets = some reached) (disciplined : call.IsDisciplined) :
    ∃ next : PartialCondition, next.calls = condition.calls ++ call.spelled ∧
      next.position = call.target ∧ next.brackets = reached := by
  cases condition with
  | clause outer beginning =>
      cases call with
      | compare comparison negated =>
          cases nested
          cases negated with
          | false => exact ⟨_, calls_complete outer beginning (.comparison comparison), rfl, rfl⟩
          | true =>
              exact ⟨_, calls_complete outer beginning (.negation (.comparison comparison)),
                rfl, rfl⟩
      | negateNext =>
          cases nested
          exact ⟨_, calls_negate outer beginning, rfl, rfl⟩
      | openGroup =>
          cases nested
          exact ⟨_, calls_open outer beginning .group, rfl, rfl⟩
      | beginLambda quantifier relation =>
          cases nested
          exact ⟨_, calls_open outer beginning (.lambda quantifier relation), rfl, rfl⟩
      | beginCount relation =>
          cases nested
          exact ⟨_, calls_open outer beginning (.count relation), rfl, rfl⟩
      | closeGroup => cases disciplined
      | _ => cases placed
  | operator outer joined last =>
      cases call with
      | combine combinator =>
          cases nested
          exact ⟨_, calls_combine outer joined last combinator, rfl, rfl⟩
      | endGroup =>
          obtain ⟨⟨beginning, opening⟩, around, rfl, same, rfl⟩ :=
            List.map_eq_cons_iff.mp (Bracket.close_eq_some_iff.mp nested)
          obtain rfl := BracketOpening.eq_group same
          have closed : (Operand.group (joined.condition last)).calls =
              BracketOpening.group.call :: ((joined.condition last).calls ++ [.endGroup]) := rfl
          exact ⟨_, calls_close around beginning closed, rfl, rfl⟩
      | endLambda quantifier =>
          obtain ⟨⟨beginning, opening⟩, around, rfl, same, rfl⟩ :=
            List.map_eq_cons_iff.mp (Bracket.close_eq_some_iff.mp nested)
          obtain ⟨relation, rfl⟩ := BracketOpening.eq_lambda same
          have closed : (Operand.lambda quantifier relation (joined.condition last)).calls =
              (BracketOpening.lambda quantifier relation).call ::
                ((joined.condition last).calls ++ [.endLambda quantifier]) := rfl
          exact ⟨_, calls_close around beginning closed, rfl, rfl⟩
      | endCount op value =>
          obtain ⟨⟨beginning, opening⟩, around, rfl, same, rfl⟩ :=
            List.map_eq_cons_iff.mp (Bracket.close_eq_some_iff.mp nested)
          obtain ⟨relation, rfl⟩ := BracketOpening.eq_count same
          have closed :
              (Operand.count relation (joined.condition last) ⟨op, disciplined⟩ value).calls =
                (BracketOpening.count relation).call ::
                  ((joined.condition last).calls ++ [.endCount op value]) := rfl
          exact ⟨_, calls_close around beginning closed, rfl, rfl⟩
      | _ => cases placed

/-- A run of disciplined calls puts a condition together as far as it goes. -/
theorem run (condition : PartialCondition) {f : Filter} {reached : Chain}
    {calls : List FilterCall} {left : List Bracket}
    (ran : Chain.run ⟨condition.position, f⟩ calls = .ok reached)
    (nested : calls.foldlM FilterCall.nest condition.brackets = some left)
    (disciplined : ∀ call ∈ calls, call.IsDisciplined) :
    ∃ last : PartialCondition, last.calls = condition.calls ++ calls.flatMap FilterCall.spelled ∧
      last.position = reached.position ∧ last.brackets = left := by
  induction calls generalizing condition f with
  | nil =>
      cases ran
      cases nested
      exact ⟨condition, by simp, rfl, rfl⟩
  | cons call rest inductionHypothesis =>
      obtain ⟨moved, made, ran⟩ := Chain.run_cons_eq_ok_iff.mp ran
      obtain ⟨placed, -, target⟩ := Chain.call_eq_ok_iff.mp made
      obtain ⟨brackets, here, later⟩ := Option.bind_eq_some_iff.mp nested
      obtain ⟨disciplinedHere, disciplinedLater⟩ := List.forall_mem_cons.mp disciplined
      obtain ⟨next, extended, position, rfl⟩ := extend placed here disciplinedHere
      obtain ⟨position', g⟩ := moved
      obtain rfl : next.position = position' := position.trans target.symm
      obtain ⟨last, complete, ends, closed⟩ := inductionHypothesis next ran later disciplinedLater
      exact ⟨last, by rw [complete, extended]; simp, ends, closed⟩

/-- With every bracket closed after an operand nothing is missing. -/
theorem exists_condition {condition : PartialCondition} (ended : condition.position = .operator)
    (closed : condition.brackets = []) :
    ∃ whole : Condition, condition.calls = whole.calls := by
  cases condition with
  | clause => cases ended
  | operator outer joined last =>
      obtain rfl : outer = [] := List.map_eq_nil_iff.mp closed
      exact ⟨joined.condition last, (joined.calls_condition last).symm⟩

end PartialCondition

/-- A run from the empty filter that ends after an operand, closes every bracket where it is the
innermost one, closes groups only after an operand and compares counts by operators that stand
between, is the run of a condition, up to negations being calls of their own. The filter renders
as the condition, by the rules of the grammar. -/
theorem Chain.run_disciplined_is_condition (calls : List FilterCall) (f : Filter)
    (ran : Chain.run ⟨.clause, {}⟩ calls = .ok ⟨.operator, f⟩)
    (bracketed : WellBracketed calls) (disciplined : ∀ call ∈ calls, call.IsDisciplined) :
    ∃ condition : Condition, calls.flatMap FilterCall.spelled = condition.calls ∧
      f.render = .ok (condition.print none 0).1 ∧
      IsConditionText (condition.print none 0).1 := by
  obtain ⟨last, calls_eq, ended, closed⟩ :=
    PartialCondition.run (.clause [] {}) ran bracketed disciplined
  obtain ⟨condition, whole⟩ := PartialCondition.exists_condition ended closed
  have spelled : calls.flatMap FilterCall.spelled = condition.calls := by
    rw [← whole, calls_eq]
    rfl
  refine ⟨condition, spelled, ?_, condition.isConditionText_print none 0⟩
  -- The calls of the condition lead to the same filter, whose text is known.
  obtain ⟨g, made, extended⟩ := condition.makes {}
  have same : Chain.run ⟨.clause, {}⟩ calls = .ok ⟨.operator, g⟩ := by
    rw [← Chain.run_spelled, spelled]
    simpa [Chain.run] using made []
  cases same.symm.trans ran
  have leaves := Filter.Leaves.empty.run ran bracketed
  rw [leaves.render_eq, extended.text_eq]
  rfl

/-- A negated count whose condition quotes a parenthesis, and a lambda inside a group. -/
theorem Chain.run_disciplined_is_condition_quoted :
    let calls : List FilterCall :=
      [.negateNext, .beginCount "Posts",
        .compare ⟨"Title", .contains, .text "(", .fieldFirst⟩ true, .endCount .gt (.ofInt 2),
        .combine .or, .openGroup, .beginLambda .all "Tags",
        .compare ⟨"Name", .eq, .text "a", .valueFirst⟩ false, .endLambda .all, .endGroup]
    let f := Filter.attempts {} calls
    Chain.run ⟨.clause, {}⟩ calls = .ok ⟨.operator, f⟩ ∧ WellBracketed calls ∧
      (∀ call ∈ calls, call.IsDisciplined) ∧
      f.render = .ok
        "Not Posts/count($filter=Not contains(Title,'(')) gt 2 or (Tags/all(x:'a' eq x/Name))" ∧
      ∃ condition : Condition, calls.flatMap FilterCall.spelled = condition.calls ∧
        f.render = .ok (condition.print none 0).1 ∧
        IsConditionText (condition.print none 0).1 := by
  intro calls f
  have ran : Chain.run ⟨.clause, {}⟩ calls = .ok ⟨.operator, f⟩ := rfl
  have bracketed : WellBracketed calls := by decide
  have disciplined : ∀ call ∈ calls, call.IsDisciplined := by decide
  have text : f.text =
      "Not Posts/count($filter=Not contains(Title,'(')) gt 2 or (Tags/all(x:'a' eq x/Name))" := by
    decide
  have rendered := (Filter.Leaves.empty.run ran bracketed).render_eq
  exact ⟨ran, bracketed, disciplined, text ▸ rendered,
    run_disciplined_is_condition calls f ran bracketed disciplined⟩

end QueryOptions
