import QueryOptions.Proofs.Document.CountPrefix
import QueryOptions.Proofs.Filter.Endings

/-!
# Operators and their operands

What follows an operator is an operand, a closing parenthesis of a group or
nothing. The last two are left to the steps: an operator lacks its operand
exactly where its step stands last or before one that closes a group.
-/

namespace QueryOptions

/-- A token with which an operand begins. -/
def Token.BeginsOperand : Token → Prop
  | .comparison .. | .negation | .openGroup | .lambdaOpen .. | .countOpen _ => True
  | _ => False

/-- An operand comes first. -/
def OperandFirst (tokens : List Token) : Prop := ∃ token ∈ tokens.head?, token.BeginsOperand

/-- Each operator is followed immediately by an operand. -/
def OperandsFollow (tokens : List Token) : Prop :=
  ∀ before operator after, tokens = before ++ operator :: after → operator.Awaits →
    OperandFirst after

/-- Each operator is followed by an operand, immediately or behind the `$filter=` of a count. -/
def OperandsFollowSoon (tokens : List Token) : Prop :=
  ∀ before operator after, tokens = before ++ operator :: after → operator.Awaits →
    OperandFirst after ∨ ∃ rest, after = .countFilter :: rest ∧ OperandFirst rest

/-- Neighbours as calls leave them: what follows an operator can only be an operand, a condition or
the closing parenthesis of a group, and what follows a `$filter=` is an operand. -/
structure OperatorsFit (tokens : List Token) : Prop where
  operators : Followed Token.Awaits
    (fun next => next.BeginsOperand ∨ next = .countFilter ∨ next = .closeGroup) tokens
  conditions : Followed (· = .countFilter) Token.BeginsOperand tokens

section Tokens

variable {tokens : List Token} {token : Token}

theorem operatorsFit_concat :
    OperatorsFit (tokens ++ [token]) ↔ OperatorsFit tokens ∧
      (EndsIn Token.Awaits tokens →
        token.BeginsOperand ∨ token = .countFilter ∨ token = .closeGroup) ∧
      (EndsIn (· = .countFilter) tokens → token.BeginsOperand) := by
  constructor
  · rintro ⟨operators, conditions⟩
    obtain ⟨operators, operator⟩ := followed_concat.mp operators
    obtain ⟨conditions, condition⟩ := followed_concat.mp conditions
    exact ⟨⟨operators, conditions⟩, operator, condition⟩
  · rintro ⟨⟨operators, conditions⟩, operator, condition⟩
    exact ⟨followed_concat.mpr ⟨operators, operator⟩, followed_concat.mpr ⟨conditions, condition⟩⟩

/-- Where conditions are never left without operand, an operator lacks its own exactly at the end
or before the closing parenthesis of a group. -/
theorem OperatorsFit.operandsFollowSoon_iff (fit : OperatorsFit tokens)
    (introduced : ¬ EndsIn (· = .countFilter) tokens) :
    OperandsFollowSoon tokens ↔
      ¬ EndsIn Token.Awaits tokens ∧ KeptApart Token.Awaits .closeGroup tokens := by
  constructor
  · intro follow
    constructor
    · rintro ⟨operator, last, awaits⟩
      obtain ⟨before, split⟩ := List.getLast?_eq_some_iff.mp last
      rcases follow before operator [] split awaits with ⟨_, ⟨⟩, -⟩ | ⟨_, ⟨⟩, -⟩
    · apply followed_iff_split.mpr
      rintro before operator next after split awaits rfl
      rcases follow before operator _ split awaits with ⟨_, ⟨⟩, begins⟩ | ⟨_, ⟨⟩, -⟩
      exact begins
  · rintro ⟨ended, apart⟩ before operator after split awaits
    cases after with
    | nil =>
        rw [split, endsIn_concat] at ended
        exact (ended awaits).elim
    | cons next after =>
        rcases followed_iff_split.mp fit.operators before operator next after split awaits with
          begins | rfl | rfl
        · exact .inl ⟨next, rfl, begins⟩
        · refine .inr ⟨after, rfl, ?_⟩
          rw [List.append_cons] at split
          cases after with
          | nil =>
              rw [split, endsIn_concat] at introduced
              exact (introduced rfl).elim
          | cons operand after =>
              exact ⟨operand, rfl, followed_iff_split.mp fit.conditions _ _ _ _ split rfl⟩
        · exact (followed_iff_split.mp apart before operator _ after split awaits rfl).elim

/-- Conditions that begin where their counts are opened do not stand behind operators. -/
theorem CountsIntroduced.operandsFollow_iff (introduced : CountsIntroduced tokens) :
    OperandsFollow tokens ↔ OperandsFollowSoon tokens := by
  constructor
  · intro follow before operator after split awaits
    exact .inl (follow before operator after split awaits)
  · intro follow before operator after split awaits
    rcases follow before operator after split awaits with first | ⟨rest, rfl, -⟩
    · exact first
    · rw [List.append_cons] at split
      have opens := introduced.preceded _ _ _ split rfl
      obtain ⟨relation, rfl⟩ := endsIn_concat.mp opens
      cases awaits

end Tokens

def FilterCall.IsOperator : FilterCall → Prop
  | .negateNext | .combine _ => True
  | _ => False

def FilterStep.IsOperator : FilterStep → Prop
  | .not | .combine _ => True
  | _ => False

theorem leftBy_operator : LeftBy Token.Awaits FilterCall.IsOperator where
  kind_iff := by
    intro call token leaves
    cases leaves <;> exact Iff.rfl
  due := by
    intro call operator
    cases call with
    | negateNext | combine => rfl
    | _ => cases operator

theorem stands_operator : Stands FilterStep.IsOperator FilterCall.IsOperator where
  ends_iff := by
    intro step position
    cases step with
    | compare c =>
        obtain ⟨field, op, value, order, negate⟩ := c
        cases negate <;> cases order <;>
          simp [EndsIn, FilterStep.calls, FilterStep.IsOperator, FilterCall.IsOperator]
    | closeGroup =>
        cases position <;> simp [FilterStep.calls, FilterStep.IsOperator, FilterCall.IsOperator]
    | _ => simp [FilterStep.calls, FilterStep.IsOperator, FilterCall.IsOperator]
  due := by
    intro step operator
    cases step with
    | not | combine => rfl
    | _ => cases operator

namespace Chain

/-- What every call keeps about operators. -/
structure OperatorsKept (chain : Chain) : Prop where
  fit : OperatorsFit chain.filter.tokens
  introduced : ¬ EndsIn (· = .countFilter) chain.filter.tokens
  placed : EndsIn Token.Awaits chain.filter.tokens → chain.position = .clause

namespace OperatorsKept

variable {chain moved : Chain} {call : FilterCall}

/-- An operand may follow what has been written, and so may the condition of a count before it. -/
theorem fit_operand (kept : chain.OperatorsKept) {operand : Token}
    (begins : operand.BeginsOperand) :
    OperatorsFit (chain.filter.tokens ++ (chain.filter.owed ++ [operand])) := by
  rw [← List.append_assoc, operatorsFit_concat]
  refine ⟨?_, fun _ => .inl begins, fun _ => begins⟩
  unfold Filter.owed
  split
  · rw [operatorsFit_concat]
    exact ⟨kept.fit, fun _ => .inr (.inl rfl), fun ends => (kept.introduced ends).elim⟩
  · rw [List.append_nil]
    exact kept.fit

theorem fit_call (kept : chain.OperatorsKept) (made : chain.call call = .ok moved) :
    OperatorsFit moved.filter.tokens := by
  obtain ⟨placed, performed, -⟩ := call_eq_ok_iff.mp made
  have settled (place : call.place = .operator) : ¬ EndsIn Token.Awaits chain.filter.tokens :=
    fun ends => Position.clause_ne_operator
      ((placed.trans (kept.placed ends)).symm.trans place)
  have follows {token : Token} (place : call.place = .operator) :
      OperatorsFit (chain.filter.tokens ++ [token]) :=
    operatorsFit_concat.mpr ⟨kept.fit, fun ends => (settled place ends).elim,
      fun ends => (kept.introduced ends).elim⟩
  rcases Filter.tokens_perform performed with
    added | ⟨before, comparison, trailing, combinator, last, rfl, merged⟩
  · rw [added]
    cases call with
    | compare comparison negated =>
        cases negated with
        | false =>
            rw [FilterCall.addedTokens, if_neg Bool.false_ne_true, List.append_nil]
            apply kept.fit_operand
            trivial
        | true =>
            rw [FilterCall.addedTokens, ← List.append_assoc, operatorsFit_concat]
            refine ⟨?_, fun _ => .inl trivial, fun _ => trivial⟩
            apply kept.fit_operand
            trivial
    | negateNext | openGroup | beginLambda | beginCount =>
        apply kept.fit_operand
        trivial
    | closeGroup =>
        refine operatorsFit_concat.mpr ⟨kept.fit, fun _ => .inr (.inr rfl), ?_⟩
        exact fun ends => (kept.introduced ends).elim
    | endGroup | combine | endLambda => exact follows rfl
    | endCount op value =>
        rw [FilterCall.addedTokens, List.append_cons, operatorsFit_concat]
        exact ⟨follows rfl, fun _ => .inl trivial, fun _ => trivial⟩
  · have fit := kept.fit
    rw [last, operatorsFit_concat] at fit
    rw [merged, operatorsFit_concat]
    exact ⟨fit.1, fun _ => .inl trivial, fun _ => trivial⟩

theorem after (kept : chain.OperatorsKept) (made : chain.call call = .ok moved) :
    moved.OperatorsKept := by
  obtain ⟨-, performed, target⟩ := call_eq_ok_iff.mp made
  refine ⟨kept.fit_call made, ?_, ?_⟩
  · -- No call ends in the introduction of a condition.
    obtain ⟨before, token, tokens, leaves⟩ := Filter.last_perform performed
    rw [tokens, endsIn_concat]
    rintro rfl
    cases leaves
  · intro ends
    exact target.trans (leftBy_operator.due ((leftBy_operator.endsIn_perform performed).mp ends))

end OperatorsKept

theorem operatorsKept_run {calls : List FilterCall} {reached : Chain}
    (ran : Chain.run ⟨.clause, {}⟩ calls = .ok reached) : reached.OperatorsKept := by
  refine run_induction (motive := fun _ reached => reached.OperatorsKept) ?nil ?concat ran
  case nil => exact ⟨⟨followed_nil, followed_nil⟩, by simp, by simp⟩
  case concat =>
    intro calls chain call moved kept made
    exact kept.after made

end Chain

namespace FilterStep

def NamesFirmly : FilterStep → Prop
  | .compare c => ¬ EndsInSpace c.field
  | _ => True

/-- No step that is an operator stands last or before one that closes a group. -/
def OperandsGiven (steps : List FilterStep) : Prop :=
  ¬ EndsIn IsOperator steps ∧ KeptApart IsOperator .closeGroup steps

theorem namesFirmly_callsFrom {steps : List FilterStep} (firm : ∀ step ∈ steps, step.NamesFirmly)
    (position : Position) : ∀ call ∈ callsFrom position steps, call.NamesFirmly := by
  induction steps generalizing position with
  | nil => simp [callsFrom]
  | cons step rest inductionHypothesis =>
      obtain ⟨first, later⟩ := List.forall_mem_cons.mp firm
      refine List.forall_mem_append.mpr ⟨?_, inductionHypothesis later _⟩
      cases step with
      | compare c =>
          obtain ⟨field, op, value, order, negate⟩ := c
          have field : ¬ EndsInSpace field := first
          cases negate <;> cases order <;> simp [calls, FilterCall.NamesFirmly, field]
      | closeGroup => cases position <;> simp [calls, FilterCall.NamesFirmly]
      | _ => simp [calls, FilterCall.NamesFirmly]

end FilterStep

namespace Filter

/-- Neither the whole text nor what stands before a closing parenthesis of a group or a scope stops
after an operator. -/
def StopsNowhere (f : Filter) (text : String) : Prop :=
  ¬ Dangles text ∧ ∀ before closing after, f.tokens = before ++ closing :: after →
    closing = .closeGroup ∨ closing = .scopeClose →
      text = tokensText before ++ ")" ++ tokensText after ∧ ¬ Dangles (tokensText before)

theorem eq_text_of_render {f : Filter} {text : String} (rendered : f.render = .ok text) :
    text = f.text := by
  unfold render renderLogged at rendered
  split at rendered
  next => cases rendered
  next => exact (Except.ok.inj rendered).symm

theorem stopsNowhere_text {f : Filter} (ended : ¬ EndsIn Token.Awaits f.tokens)
    (follow : OperandsFollowSoon f.tokens) (firm : ∀ token ∈ f.tokens, token.NamesFirmly) :
    f.StopsNowhere f.text := by
  refine ⟨not_dangles_tokensText ended firm, ?_⟩
  intro before closing after split closes
  refine ⟨?_, ?_⟩
  · have text : closing.text = ")" := by rcases closes with rfl | rfl <;> rfl
    rw [Filter.text, split, List.append_cons, tokensText_append, tokensText_append,
      tokensText_singleton, text]
  · refine not_dangles_tokensText ?_ fun token written => firm token (by simp [split, written])
    rintro ⟨operator, last, awaits⟩
    obtain ⟨start, rfl⟩ := List.getLast?_eq_some_iff.mp last
    rw [List.append_assoc] at split
    rcases follow start operator _ split awaits with ⟨_, ⟨⟩, begins⟩ | ⟨_, ⟨⟩, -⟩
    · rcases closes with rfl | rfl <;> exact begins
    · rcases closes with same | same <;> cases same

/-- Among steps that go through, every operator is followed by an operand exactly if none of the
steps that are operators stands last or before one that closes a group. It is followed immediately
unless a group is closed right after a count is opened, and then the text stops nowhere after an
operator, provided that no field that is compared ends in a space. -/
theorem operands_follow_iff_given {steps : List FilterStep}
    (applied : (applySteps {} steps).failure = none) :
    let f := (applySteps {} steps).state
    (OperandsFollowSoon f.tokens ↔ FilterStep.OperandsGiven steps) ∧
    (KeptApart FilterStep.BeginsCount .closeGroup steps →
      (OperandsFollow f.tokens ↔ FilterStep.OperandsGiven steps)) ∧
    (FilterStep.OperandsGiven steps → (∀ step ∈ steps, step.NamesFirmly) →
      ∀ text, f.render = .ok text → f.StopsNowhere text) := by
  intro f
  obtain ⟨position, ran⟩ := run_of_applySteps applied
  have kept := Chain.operatorsKept_run ran
  have mirrors := leftBy_operator.mirrors_run ran
  have ended : EndsIn Token.Awaits f.tokens ↔ EndsIn FilterStep.IsOperator steps :=
    mirrors.endsIn_iff.trans (stands_operator.endsIn_callsFrom .clause steps)
  have apart : KeptApart Token.Awaits .closeGroup f.tokens ↔
      KeptApart FilterStep.IsOperator .closeGroup steps :=
    mirrors.keptApart_iff.trans (stands_operator.keptApart_callsFrom .clause steps)
  have soon : OperandsFollowSoon f.tokens ↔ FilterStep.OperandsGiven steps :=
    (kept.fit.operandsFollowSoon_iff kept.introduced).trans (and_congr ended.not apart)
  refine ⟨soon, ?_, ?_⟩
  · intro separate
    rw [← stands_beginCount.keptApart_callsFrom .clause] at separate
    have introduced := (Chain.introducesCounts_of_run ran).introduced_iff.mpr separate
    exact introduced.operandsFollow_iff.trans soon
  · intro given firm text rendered
    have written := Chain.namesFirmly_run ran (FilterStep.namesFirmly_callsFrom firm .clause)
    rw [eq_text_of_render rendered]
    exact stopsNowhere_text (ended.not.mpr given.1) (soon.mpr given) written

theorem operands_follow_nested :
    let steps : List FilterStep :=
      [.compare ⟨"Id", .eq, .integer 1, .fieldFirst, true⟩, .combine .and, .not, .openGroup,
        .beginCount "Posts", .compare ⟨"Title", .eq, .text "x or ", .valueFirst, false⟩,
        .combine .or, .beginLambda .any "Tags",
        .compare ⟨"Name", .contains, .text "a", .fieldFirst, false⟩, .endLambda .any,
        .endCount .gt (.integer 2), .closeGroup]
    let text := "Not Id eq 1 and Not (Posts/count($filter='x or ' eq Title or " ++
      "Tags/any(x:contains(x/Name,'a'))) gt 2)"
    let f := (applySteps {} steps).state
    (applySteps {} steps).failure = none ∧ f.render = .ok text ∧
      OperandsFollow f.tokens ∧ f.StopsNowhere text := by
  intro steps text f
  have applied : (applySteps {} steps).failure = none := rfl
  have rendered : f.render = .ok text := by decide
  have given : FilterStep.OperandsGiven steps := by
    simp [steps, FilterStep.OperandsGiven, EndsIn, FilterStep.IsOperator]
  have separate : KeptApart FilterStep.BeginsCount .closeGroup steps := by
    simp [steps, FilterStep.BeginsCount]
  have firm : ∀ step ∈ steps, step.NamesFirmly := by
    simp [steps, FilterStep.NamesFirmly, EndsInSpace, EndsIn]
  obtain ⟨-, follow, stops⟩ := operands_follow_iff_given applied
  exact ⟨applied, rendered, (follow separate).mpr given, stops given firm text rendered⟩

/-- Operators behind which nothing, a closed group or a condition with its `$filter=` stands, and a
field that reads like an operator at the end. -/
theorem operands_missing :
    let unfinished : List FilterStep :=
      [.openGroup, .compare ⟨"Id", .eq, .integer 1, .fieldFirst, false⟩, .combine .and,
        .closeGroup]
    let delayed : List FilterStep :=
      [.openGroup, .beginCount "Posts", .closeGroup, .combine .and,
        .compare ⟨"Id", .eq, .integer 1, .fieldFirst, false⟩, .endCount .gt (.integer 2)]
    let spaced : List FilterStep :=
      [.compare ⟨"Id and ", .eq, .integer 1, .valueFirst, false⟩]
    ((applySteps {} unfinished).failure = none ∧
      (applySteps {} unfinished).state.render = .ok "(Id eq 1 and )" ∧
      ¬ OperandsFollow (applySteps {} unfinished).state.tokens) ∧
    ((applySteps {} delayed).failure = none ∧
      (applySteps {} delayed).state.render = .ok "(Posts/count() and $filter=Id eq 1) gt 2" ∧
      ¬ OperandsFollow (applySteps {} delayed).state.tokens) ∧
    ((applySteps {} spaced).failure = none ∧
      (applySteps {} spaced).state.render = .ok "1 eq Id and " ∧ Dangles "1 eq Id and ") := by
  intro unfinished delayed spaced
  refine ⟨⟨rfl, by decide, fun follow => ?_⟩, ⟨rfl, by decide, fun follow => ?_⟩,
    ⟨rfl, by decide, ?_⟩⟩
  · have tokens : (applySteps {} unfinished).state.tokens = [.openGroup] ++
        .comparison ⟨"Id", .eq, .ofInt 1, .fieldFirst⟩ (some .and) :: [.closeGroup] := rfl
    obtain ⟨_, ⟨⟩, begins⟩ := follow _ _ _ tokens trivial
    exact begins
  · have tokens : (applySteps {} delayed).state.tokens =
        [.openGroup, .countOpen "Posts", .closeGroup] ++ .combinator .and ::
          [.countFilter, .comparison ⟨"Id", .eq, .ofInt 1, .fieldFirst⟩ none, .scopeClose,
            .comparison ⟨"", .gt, .ofInt 2, .fieldFirst⟩ none] := rfl
    obtain ⟨_, ⟨⟩, begins⟩ := follow _ _ _ tokens trivial
    exact begins
  · exact ⟨" and ", by decide, by decide⟩

end Filter

end QueryOptions
