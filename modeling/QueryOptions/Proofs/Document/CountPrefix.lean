import QueryOptions.Proofs.Document.Runs

/-!
# Where the condition of a count begins

The `$filter=` of a count waits for the first operand of its condition. The
only token that a chain can write before that is the closing parenthesis of a
group, and after it operators; without such a parenthesis the condition begins
where the count is opened.
-/

namespace QueryOptions

def Token.IsCountOpen (token : Token) : Prop := ∃ relation, token = .countOpen relation

def FilterCall.BeginsCount (call : FilterCall) : Prop := ∃ relation, call = .beginCount relation

def FilterStep.BeginsCount (step : FilterStep) : Prop := ∃ relation, step = .beginCount relation

/-- A closing parenthesis of a group, or an operator that stands alone. -/
def Token.IsDetached : Token → Prop
  | .closeGroup | .combinator _ => True
  | _ => False

/-- Since a count was opened, only closing parentheses of groups and operators have been
written. -/
def OwesIntroduction (tokens : List Token) : Prop :=
  ∃ before relation between, tokens = before ++ .countOpen relation :: between ∧
    ∀ token ∈ between, token.IsDetached

/-- Every condition begins where its count is opened. -/
structure CountsIntroduced (tokens : List Token) : Prop where
  followed : Followed Token.IsCountOpen (· = .countFilter) tokens
  preceded : Preceded (· = .countFilter) (EndsIn Token.IsCountOpen) tokens

/-- A count that is opened is followed by its condition or by the closing parenthesis of a group,
and what stands between it and its condition is detached. -/
structure CountsOpened (tokens : List Token) : Prop where
  followed : Followed Token.IsCountOpen
    (fun next => next = .countFilter ∨ next = .closeGroup) tokens
  preceded : Preceded (· = .countFilter) OwesIntroduction tokens

section Tokens

variable {tokens : List Token} {token : Token}

theorem OwesIntroduction.concat (owes : OwesIntroduction tokens) (detached : token.IsDetached) :
    OwesIntroduction (tokens ++ [token]) := by
  obtain ⟨before, relation, between, rfl, loose⟩ := owes
  refine ⟨before, relation, between ++ [token], by simp, ?_⟩
  simpa [or_imp, forall_and] using ⟨loose, detached⟩

theorem OwesIntroduction.endsIn (owes : OwesIntroduction tokens) :
    EndsIn (fun last => last.IsCountOpen ∨ last.IsDetached) tokens := by
  obtain ⟨before, relation, between, rfl, loose⟩ := owes
  rcases List.eq_nil_or_concat between with rfl | ⟨between, last, rfl⟩
  · exact endsIn_concat.mpr (.inl ⟨relation, rfl⟩)
  · rw [List.concat_eq_append, ← List.cons_append, ← List.append_assoc, endsIn_concat]
    exact .inr (loose last (by simp))

theorem countsOpened_nil : CountsOpened [] := ⟨followed_nil, preceded_nil⟩

theorem countsOpened_concat :
    CountsOpened (tokens ++ [token]) ↔ CountsOpened tokens ∧
      (EndsIn Token.IsCountOpen tokens → token = .countFilter ∨ token = .closeGroup) ∧
      (token = .countFilter → OwesIntroduction tokens) := by
  constructor
  · rintro ⟨followed, preceded⟩
    obtain ⟨followed, last⟩ := followed_concat.mp followed
    obtain ⟨preceded, owes⟩ := preceded_concat.mp preceded
    exact ⟨⟨followed, preceded⟩, last, owes⟩
  · rintro ⟨⟨followed, preceded⟩, last, owes⟩
    exact ⟨followed_concat.mpr ⟨followed, last⟩, preceded_concat.mpr ⟨preceded, owes⟩⟩

/-- Conditions begin where their counts are opened exactly if no count meets the closing
parenthesis of a group. -/
theorem CountsOpened.countsIntroduced_iff (opened : CountsOpened tokens) :
    CountsIntroduced tokens ↔ KeptApart Token.IsCountOpen .closeGroup tokens := by
  constructor
  · intro introduced
    apply introduced.followed.imp
    intro count next followed opens closes
    cases (followed opens).symm.trans closes
  · intro apart
    have followed : ∀ before count next after, tokens = before ++ count :: next :: after →
        count.IsCountOpen → next = .countFilter := by
      intro before count next after split opens
      have allowed := followed_iff_split.mp opened.followed before count next after split opens
      exact allowed.resolve_right (followed_iff_split.mp apart before count next after split opens)
    constructor
    · exact followed_iff_split.mpr followed
    · intro before introduction after split introduces
      obtain ⟨start, relation, between, rfl, loose⟩ :=
        opened.preceded before introduction after split introduces
      cases between with
      | nil => exact endsIn_concat.mpr ⟨relation, rfl⟩
      | cons first between =>
          -- What follows the count would have to be its condition, and detached as well.
          rw [List.append_assoc] at split
          cases followed start (.countOpen relation) first _ split ⟨relation, rfl⟩
          exact (loose .countFilter List.mem_cons_self).elim

/-- What is written after a count begins with its condition. -/
theorem CountsIntroduced.text_eq (introduced : CountsIntroduced tokens)
    {before after : List Token} {relation : String}
    (split : tokens = before ++ .countOpen relation :: after) (some : after ≠ []) :
    ∃ rest, tokensText tokens =
      tokensText before ++ (relation ++ "/count($filter=") ++ tokensText rest := by
  obtain ⟨next, rest, rfl⟩ := List.exists_cons_of_ne_nil some
  cases followed_iff_split.mp introduced.followed _ _ _ _ split ⟨relation, rfl⟩
  refine ⟨rest, ?_⟩
  rw [split, List.append_cons, List.append_cons, tokensText_append, tokensText_append,
    tokensText_append, tokensText_singleton, tokensText_singleton]
  simp [Token.text, String.append_assoc]

end Tokens

theorem leftBy_beginCount : LeftBy Token.IsCountOpen FilterCall.BeginsCount where
  kind_iff := by
    intro call token leaves
    cases leaves <;> simp [Token.IsCountOpen, FilterCall.BeginsCount]
  due := by
    rintro _ ⟨relation, rfl⟩
    rfl

theorem stands_beginCount : Stands FilterStep.BeginsCount FilterCall.BeginsCount where
  ends_iff := by
    intro step position
    cases step with
    | compare c =>
        obtain ⟨field, op, value, order, negate⟩ := c
        cases negate <;> cases order <;>
          simp [EndsIn, FilterStep.calls, FilterStep.BeginsCount, FilterCall.BeginsCount]
    | closeGroup =>
        cases position <;> simp [FilterStep.calls, FilterStep.BeginsCount, FilterCall.BeginsCount]
    | _ => simp [FilterStep.calls, FilterStep.BeginsCount, FilterCall.BeginsCount]
  due := by
    rintro _ ⟨relation, rfl⟩
    rfl

namespace Filter

variable {f g : Filter} {call : FilterCall}

/-- A condition is owed after a call because the call has opened a count, or because it was owed
before and the call has written something detached. -/
theorem pending_perform (built : f.IsBuilt) (performed : f.perform call = .ok g)
    (pending : g.scopes.filterPending = true) :
    call.BeginsCount ∨
      f.scopes.filterPending = true ∧
        (call = .closeGroup ∨ call = .endGroup ∨ ∃ combinator, call = .combine combinator) := by
  have closed {frame : ScopeFrame} {frames : List ScopeFrame}
      (opened : f.scopes.frames = frame :: frames) (owes : g.scopes.frames = frames) : False := by
    obtain ⟨names, built⟩ := built
    obtain ⟨rest, first⟩ := g.scopes.filterPending_iff.mp pending
    have below := built.settled_below
    rw [opened, List.tail_cons, ← owes, first] at below
    exact below List.mem_cons_self
  cases call with
  | beginCount relation => exact .inl ⟨relation, rfl⟩
  | closeGroup =>
      cases performed
      exact .inr ⟨pending, .inl rfl⟩
  | endGroup =>
      cases performed
      exact .inr ⟨pending, .inr (.inl rfl)⟩
  | combine combinator =>
      cases performed
      rw [scopes_combine] at pending
      exact .inr ⟨pending, .inr (.inr ⟨combinator, rfl⟩)⟩
  | endLambda quantifier =>
      rcases f.closeScope_cases (.lambda quantifier) with
        ⟨frame, frames, opened, -, made⟩ | ⟨error, failed⟩
      · cases made.symm.trans performed
        exact (closed opened rfl).elim
      · cases failed.symm.trans performed
  | endCount op value =>
      rcases f.closeScope_cases .count with ⟨frame, frames, opened, -, made⟩ | ⟨error, failed⟩
      · simp only [perform, closeCount, made, Except.ok.injEq] at performed
        subst performed
        exact (closed opened rfl).elim
      · simp [perform, closeCount, failed] at performed
  | compare comparison negated =>
      cases performed
      simp at pending
  | negateNext =>
      cases performed
      simp at pending
  | openGroup =>
      cases performed
      simp at pending
  | beginLambda quantifier relation =>
      cases performed
      simp [ScopeStack.filterPending] at pending

end Filter

namespace Chain

/-- What every call keeps about the counts that are open. -/
structure CountsKept (chain : Chain) : Prop where
  built : chain.filter.IsBuilt
  opened : CountsOpened chain.filter.tokens
  owes : chain.filter.scopes.filterPending = true → OwesIntroduction chain.filter.tokens
  waits : EndsIn Token.IsCountOpen chain.filter.tokens →
    chain.position = .clause ∧ chain.filter.scopes.filterPending = true

namespace CountsKept

variable {chain moved : Chain} {call : FilterCall}

theorem introduced (kept : chain.CountsKept) :
    CountsOpened (chain.filter.tokens ++ chain.filter.owed) ∧
      ¬ EndsIn Token.IsCountOpen (chain.filter.tokens ++ chain.filter.owed) := by
  unfold Filter.owed
  split
  next pending =>
    rw [countsOpened_concat, endsIn_concat]
    exact ⟨⟨kept.opened, fun _ => .inl rfl, fun _ => kept.owes pending⟩,
      by simp [Token.IsCountOpen]⟩
  next settled =>
    rw [List.append_nil]
    exact ⟨kept.opened, fun ends => settled (kept.waits ends).2⟩

/-- Apart from conditions, all tokens may follow what does not end in a count. -/
theorem opened_concat {tokens : List Token} {token : Token}
    (before : CountsOpened tokens ∧ ¬ EndsIn Token.IsCountOpen tokens)
    (other : token ≠ .countFilter) : CountsOpened (tokens ++ [token]) :=
  countsOpened_concat.mpr
    ⟨before.1, fun ends => (before.2 ends).elim, fun same => (other same).elim⟩

theorem opened_call (kept : chain.CountsKept) (made : chain.call call = .ok moved) :
    CountsOpened moved.filter.tokens := by
  obtain ⟨placed, performed, -⟩ := call_eq_ok_iff.mp made
  have settled (place : call.place = .operator) :
      CountsOpened chain.filter.tokens ∧ ¬ EndsIn Token.IsCountOpen chain.filter.tokens := by
    refine ⟨kept.opened, fun ends => ?_⟩
    have clause := placed.trans (kept.waits ends).1
    exact Position.clause_ne_operator (clause.symm.trans place)
  have grouped : CountsOpened (chain.filter.tokens ++ [.closeGroup]) :=
    countsOpened_concat.mpr ⟨kept.opened, fun _ => .inr rfl, by simp⟩
  rcases Filter.tokens_perform performed with
    added | ⟨before, comparison, trailing, combinator, last, rfl, merged⟩
  · rw [added]
    cases call with
    | compare comparison negated =>
        rw [FilterCall.addedTokens, ← List.append_assoc, ← List.append_assoc]
        refine opened_concat ?_ (by simp)
        cases negated with
        | false => simpa using kept.introduced
        | true =>
            refine ⟨opened_concat kept.introduced (by simp), ?_⟩
            rw [if_pos rfl, endsIn_concat]
            simp [Token.IsCountOpen]
    | negateNext | openGroup | beginLambda | beginCount =>
        rw [FilterCall.addedTokens, ← List.append_assoc]
        exact opened_concat kept.introduced (by simp)
    | closeGroup | endGroup => exact grouped
    | combine | endLambda => exact opened_concat (settled rfl) (by simp)
    | endCount op value =>
        rw [FilterCall.addedTokens, List.append_cons]
        refine opened_concat ⟨opened_concat (settled rfl) (by simp), ?_⟩ (by simp)
        simp [Token.IsCountOpen]
  · have opened := kept.opened
    rw [last, countsOpened_concat] at opened
    rw [merged, countsOpened_concat]
    simpa using opened

theorem owes_call (kept : chain.CountsKept) (made : chain.call call = .ok moved)
    (pending : moved.filter.scopes.filterPending = true) :
    OwesIntroduction moved.filter.tokens := by
  obtain ⟨-, performed, -⟩ := call_eq_ok_iff.mp made
  rcases Filter.pending_perform kept.built performed pending with
    begins | ⟨pending, detached⟩
  · obtain ⟨before, token, tokens, leaves⟩ := Filter.last_perform performed
    obtain ⟨relation, rfl⟩ := (leftBy_beginCount.kind_iff leaves).mpr begins
    exact ⟨before, relation, [], tokens, by simp⟩
  · have owes := kept.owes pending
    rcases Filter.tokens_perform performed with
      added | ⟨before, comparison, trailing, combinator, last, -, -⟩
    · rw [added]
      rcases detached with rfl | rfl | ⟨combinator, rfl⟩ <;> exact owes.concat trivial
    · -- A combinator is not merged here, because no comparison has been written yet.
      have ends := owes.endsIn
      rw [last, endsIn_concat] at ends
      simp [Token.IsCountOpen, Token.IsDetached] at ends

theorem waits_call (made : chain.call call = .ok moved)
    (ends : EndsIn Token.IsCountOpen moved.filter.tokens) :
    moved.position = .clause ∧ moved.filter.scopes.filterPending = true := by
  obtain ⟨-, performed, target⟩ := call_eq_ok_iff.mp made
  have begins := (leftBy_beginCount.endsIn_perform performed).mp ends
  refine ⟨target.trans (leftBy_beginCount.due begins), ?_⟩
  obtain ⟨relation, rfl⟩ := begins
  rw [← Except.ok.inj performed]
  simp [ScopeStack.filterPending]

theorem after (kept : chain.CountsKept) (made : chain.call call = .ok moved) :
    moved.CountsKept where
  built := kept.built.perform (call_eq_ok_iff.mp made).2.1
  opened := kept.opened_call made
  owes := kept.owes_call made
  waits := waits_call made

end CountsKept

theorem countsKept_run {calls : List FilterCall} {reached : Chain}
    (ran : Chain.run ⟨.clause, {}⟩ calls = .ok reached) : reached.CountsKept := by
  refine run_induction (motive := fun _ reached => reached.CountsKept) ?nil ?concat ran
  case nil =>
    exact ⟨Filter.isBuilt_empty, countsOpened_nil, by simp [ScopeStack.filterPending], by simp⟩
  case concat =>
    intro calls chain call moved kept made
    exact kept.after made

end Chain

/-- How counts are written: a condition never precedes its count, and under a condition on what was
called each of them begins right where its count is opened, in the tokens and in the text. -/
structure IntroducesCounts (tokens : List Token) (apart : Prop) : Prop where
  opened : CountsOpened tokens
  introduced_iff : CountsIntroduced tokens ↔ apart
  text_eq : apart → ∀ before relation after, tokens = before ++ .countOpen relation :: after →
    after ≠ [] → ∃ rest, tokensText tokens =
      tokensText before ++ (relation ++ "/count($filter=") ++ tokensText rest

theorem Chain.introducesCounts_of_run {calls : List FilterCall} {reached : Chain}
    (ran : Chain.run ⟨.clause, {}⟩ calls = .ok reached) :
    IntroducesCounts reached.filter.tokens
      (KeptApart FilterCall.BeginsCount .closeGroup calls) := by
  have opened := (countsKept_run ran).opened
  have introduced := opened.countsIntroduced_iff.trans
    (leftBy_beginCount.mirrors_run ran).keptApart_iff
  refine ⟨opened, introduced, ?_⟩
  intro apart before relation after split some
  exact (introduced.mpr apart).text_eq split some

/-- In every run, and so for all steps that go through, only closing parentheses of groups and
operators stand between a count and the beginning of its condition, and nothing stands there
exactly if no group is closed right after a count is opened. -/
theorem counts_introduced_iff_apart :
    (∀ calls reached, Chain.run ⟨.clause, {}⟩ calls = .ok reached →
      IntroducesCounts reached.filter.tokens
        (KeptApart FilterCall.BeginsCount .closeGroup calls)) ∧
    ∀ steps, (Filter.applySteps {} steps).failure = none →
      IntroducesCounts (Filter.applySteps {} steps).state.tokens
        (KeptApart FilterStep.BeginsCount .closeGroup steps) := by
  constructor
  · intro calls reached ran
    exact Chain.introducesCounts_of_run ran
  · intro steps applied
    obtain ⟨position, ran⟩ := Filter.run_of_applySteps applied
    have introduces := Chain.introducesCounts_of_run ran
    rwa [stands_beginCount.keptApart_callsFrom] at introduces

theorem counts_introduced_nested :
    let calls : List FilterCall :=
      [.beginCount "Posts", .negateNext, .openGroup, .beginCount "Tags",
        .compare ⟨"Id", .eq, .ofInt 1, .fieldFirst⟩ false, .endCount .gt (.ofInt 2), .endGroup,
        .endCount .eq (.ofInt 0)]
    let steps : List FilterStep :=
      [.beginCount "Posts", .beginLambda .any "Tags",
        .compare ⟨"Id", .eq, .integer 1, .fieldFirst, false⟩, .endLambda .any,
        .endCount .gt (.integer 2)]
    let f := Filter.attempts {} calls
    Chain.run ⟨.clause, {}⟩ calls = .ok ⟨.operator, f⟩ ∧ CountsIntroduced f.tokens ∧
      f.text = "Posts/count($filter=Not (Tags/count($filter=Id eq 1) gt 2)) eq 0" ∧
      (Filter.applySteps {} steps).failure = none ∧
      CountsIntroduced (Filter.applySteps {} steps).state.tokens := by
  intro calls steps f
  have ran : Chain.run ⟨.clause, {}⟩ calls = .ok ⟨.operator, f⟩ := rfl
  have applied : (Filter.applySteps {} steps).failure = none := rfl
  have calledApart : KeptApart FilterCall.BeginsCount .closeGroup calls := by
    simp [calls]
  have steppedApart : KeptApart FilterStep.BeginsCount .closeGroup steps := by
    simp [steps]
  refine ⟨ran, ?_, by decide, applied, ?_⟩
  · exact (counts_introduced_iff_apart.1 calls _ ran).introduced_iff.mpr calledApart
  · exact (counts_introduced_iff_apart.2 steps applied).introduced_iff.mpr steppedApart

/-- A group closed in an empty count is written between the count and its condition. -/
theorem counts_not_introduced_of_closed :
    let calls : List FilterCall :=
      [.openGroup, .beginCount "Posts", .closeGroup, .combine .and,
        .compare ⟨"Id", .eq, .ofInt 1, .fieldFirst⟩ false, .endCount .gt (.ofInt 2)]
    let f := Filter.attempts {} calls
    Chain.run ⟨.clause, {}⟩ calls = .ok ⟨.operator, f⟩ ∧
      f.render = .ok "(Posts/count() and $filter=Id eq 1) gt 2" ∧
      ¬ CountsIntroduced f.tokens := by
  intro calls f
  refine ⟨rfl, by decide, fun introduced => ?_⟩
  have tokens : f.tokens = [.openGroup] ++ .countOpen "Posts" :: .closeGroup ::
      [.combinator .and, .countFilter, .comparison ⟨"Id", .eq, .ofInt 1, .fieldFirst⟩ none,
        .scopeClose, .comparison ⟨"", .gt, .ofInt 2, .fieldFirst⟩ none] := rfl
  have follows := List.isChain_iff_forall_rel_of_append_cons_cons.mp introduced.followed tokens
  cases follows ⟨"Posts", rfl⟩

end QueryOptions
