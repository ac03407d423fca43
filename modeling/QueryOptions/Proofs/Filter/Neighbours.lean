import Mathlib.Data.List.Chain
import QueryOptions.Proofs.Filter.Calls

/-!
# Neighbouring tokens

The token in which a filter ends is known from the last call alone. Whether two
kinds of tokens meet can therefore be read off a run: they do where two calls
meet that write them.
-/

namespace QueryOptions

section Lists

variable {α : Type} {kind property : α → Prop} {other item : α} {items more : List α}

/-- The last item is of a kind. -/
def EndsIn (kind : α → Prop) (items : List α) : Prop := ∃ item ∈ items.getLast?, kind item

/-- What follows an item of a kind directly has a property. -/
def Followed (kind property : α → Prop) (items : List α) : Prop :=
  items.IsChain fun item next => kind item → property next

/-- No item of a kind stands directly before another one. -/
def KeptApart (kind : α → Prop) (other : α) (items : List α) : Prop :=
  Followed kind (· ≠ other) items

@[simp] theorem endsIn_nil : ¬ EndsIn kind ([] : List α) := by simp [EndsIn]

@[simp] theorem endsIn_concat : EndsIn kind (items ++ [item]) ↔ kind item := by simp [EndsIn]

@[simp] theorem endsIn_singleton : EndsIn kind [item] ↔ kind item := by simp [EndsIn]

theorem endsIn_append (filled : more ≠ []) : EndsIn kind (items ++ more) ↔ EndsIn kind more := by
  obtain ⟨before, last, rfl⟩ := List.eq_nil_or_concat more |>.resolve_left filled
  simp [← List.append_assoc]

@[simp] theorem followed_nil : Followed kind property [] := List.isChain_nil

theorem followed_append :
    Followed kind property (items ++ more) ↔
      Followed kind property items ∧ Followed kind property more ∧
        (EndsIn kind items → ∀ next ∈ more.head?, property next) := by
  rw [Followed, List.isChain_append]
  refine and_congr_right fun _ => and_congr_right fun _ => ?_
  constructor
  · rintro follows ⟨item, last, of⟩ next first
    exact follows item last next first of
  · intro follows item last next first of
    exact follows ⟨item, last, of⟩ next first

theorem followed_concat :
    Followed kind property (items ++ [item]) ↔
      Followed kind property items ∧ (EndsIn kind items → property item) := by
  rw [followed_append]
  simp [Followed]

theorem followed_iff_split :
    Followed kind property items ↔ ∀ before item next after,
      items = before ++ item :: next :: after → kind item → property next := by
  rw [Followed, List.isChain_iff_forall_rel_of_append_cons_cons]
  constructor
  · intro follows before item next after split
    exact follows split
  · intro follows item next before after split
    exact follows before item next after split

@[simp] theorem keptApart_nil : KeptApart kind other [] := followed_nil

@[simp] theorem keptApart_singleton : KeptApart kind other [item] := List.isChain_singleton item

@[simp] theorem keptApart_cons_cons {next : α} {rest : List α} :
    KeptApart kind other (item :: next :: rest) ↔
      (kind item → next ≠ other) ∧ KeptApart kind other (next :: rest) := List.isChain_cons_cons

theorem keptApart_append :
    KeptApart kind other (items ++ more) ↔
      KeptApart kind other items ∧ KeptApart kind other more ∧
        (EndsIn kind items → more.head? ≠ some other) := by
  have first : (∀ next ∈ more.head?, next ≠ other) ↔ more.head? ≠ some other := by
    cases more <;> simp
  rw [KeptApart, followed_append, first]
  rfl

theorem keptApart_concat :
    KeptApart kind other (items ++ [item]) ↔
      KeptApart kind other items ∧ (EndsIn kind items → item ≠ other) :=
  followed_concat

theorem keptApart_append_of_not_mem (absent : other ∉ more) :
    KeptApart kind other (items ++ more) ↔ KeptApart kind other items := by
  have apart : KeptApart kind other more := by
    apply followed_iff_split.mpr
    rintro before item next after rfl - rfl
    simp at absent
  rw [keptApart_append]
  exact and_iff_left ⟨apart, fun _ first => absent (List.mem_of_head? first)⟩

/-- What stands before an item of a kind has a property. -/
def Preceded (kind : α → Prop) (property : List α → Prop) (items : List α) : Prop :=
  ∀ before item after, items = before ++ item :: after → kind item → property before

@[simp] theorem preceded_nil {property : List α → Prop} : Preceded kind property [] := by
  simp [Preceded]

theorem preceded_concat {property : List α → Prop} :
    Preceded kind property (items ++ [item]) ↔
      Preceded kind property items ∧ (kind item → property items) := by
  constructor
  · intro preceded
    refine ⟨?_, preceded items item [] rfl⟩
    rintro before other after rfl
    exact preceded before other (after ++ [item]) (by simp)
  · rintro ⟨earlier, last⟩ before other after split
    rcases List.eq_nil_or_concat after with rfl | ⟨after, final, rfl⟩
    · obtain ⟨rfl, same⟩ := List.append_inj' split rfl
      cases same
      exact last
    · rw [List.concat_eq_append, ← List.cons_append, ← List.append_assoc] at split
      exact earlier before other after (List.append_inj' split rfl).1

end Lists

/-- The token in which a filter ends after a call. -/
inductive FilterCall.Leaves : FilterCall → Token → Prop
  | compare {comparison negated} (written : Comparison) :
      Leaves (.compare comparison negated) (.comparison written none)
  | negateNext : Leaves .negateNext .negation
  | openGroup : Leaves .openGroup .openGroup
  | closeGroup : Leaves .closeGroup .closeGroup
  | endGroup : Leaves .endGroup .closeGroup
  | beginLambda {quantifier name} (relation bound : String) :
      Leaves (.beginLambda quantifier name) (.lambdaOpen relation quantifier bound)
  | beginCount {name} (relation : String) : Leaves (.beginCount name) (.countOpen relation)
  | join {combinator} : Leaves (.combine combinator) (.combinator combinator)
  | merge {combinator} (comparison : Comparison) :
      Leaves (.combine combinator) (.comparison comparison (some combinator))
  | endLambda {quantifier} : Leaves (.endLambda quantifier) .scopeClose
  | endCount {op value} (written : Comparison) :
      Leaves (.endCount op value) (.comparison written none)

theorem Filter.last_perform {f g : Filter} {call : FilterCall}
    (performed : f.perform call = .ok g) :
    ∃ before token, g.tokens = before ++ [token] ∧ call.Leaves token := by
  rcases tokens_perform performed with
    added | ⟨before, comparison, trailing, combinator, last, rfl, merged⟩
  · cases call with
    | compare comparison negated =>
        refine ⟨f.tokens ++ (f.owed ++ if negated then [.negation] else []), _, ?_, .compare
          { comparison with field := f.scopes.qualify comparison.field }⟩
        simpa [FilterCall.addedTokens] using added
    | endCount op value =>
        refine ⟨f.tokens ++ [.scopeClose], _, ?_, .endCount ⟨"", op, value, .fieldFirst⟩⟩
        simpa [FilterCall.addedTokens] using added
    | combine combinator => exact ⟨f.tokens, _, added, .join⟩
    | closeGroup => exact ⟨f.tokens, _, added, .closeGroup⟩
    | endGroup => exact ⟨f.tokens, _, added, .endGroup⟩
    | endLambda quantifier => exact ⟨f.tokens, _, added, .endLambda⟩
    | negateNext =>
        refine ⟨f.tokens ++ f.owed, _, ?_, .negateNext⟩
        simpa [FilterCall.addedTokens] using added
    | openGroup =>
        refine ⟨f.tokens ++ f.owed, _, ?_, .openGroup⟩
        simpa [FilterCall.addedTokens] using added
    | beginLambda quantifier relation =>
        refine ⟨f.tokens ++ f.owed, _, ?_,
          .beginLambda (f.scopes.qualify relation) f.scopes.nextVariable⟩
        simpa [FilterCall.addedTokens] using added
    | beginCount relation =>
        refine ⟨f.tokens ++ f.owed, _, ?_, .beginCount (f.scopes.qualify relation)⟩
        simpa [FilterCall.addedTokens] using added
  · exact ⟨before, _, merged, .merge comparison⟩

namespace Chain

theorem run_append (chain : Chain) (first second : List FilterCall) :
    chain.run (first ++ second) = (chain.run first).bind fun moved => moved.run second := by
  induction first generalizing chain with
  | nil => rfl
  | cons call rest inductionHypothesis =>
      rw [List.cons_append, run, run]
      cases chain.call call with
      | ok moved => exact inductionHypothesis moved
      | error error => rfl

/-- What holds at the start and is kept by every call holds at the end of every run. -/
theorem run_induction {motive : List FilterCall → Chain → Prop} {start : Chain}
    (nil : motive [] start)
    (concat : ∀ calls chain call moved, motive calls chain → chain.call call = .ok moved →
      motive (calls ++ [call]) moved)
    {calls : List FilterCall} {reached : Chain} (ran : start.run calls = .ok reached) :
    motive calls reached := by
  induction calls using List.reverseRecOn generalizing reached with
  | nil =>
      cases ran
      exact nil
  | append_singleton calls call inductionHypothesis =>
      rw [run_append] at ran
      cases before : start.run calls with
      | error error => simp [before, Except.bind] at ran
      | ok chain =>
          simp only [before, Except.bind] at ran
          obtain ⟨_, made, ⟨⟩⟩ := run_cons_eq_ok_iff.mp ran
          exact concat calls chain call _ (inductionHypothesis before) made

end Chain

/-- A kind of tokens, and the calls after which a filter ends in one of them. After each of these
an operand is due. -/
structure LeftBy (kind : Token → Prop) (calling : FilterCall → Prop) : Prop where
  kind_iff : ∀ {call token}, call.Leaves token → (kind token ↔ calling call)
  due : ∀ {call}, calling call → call.target = .clause

namespace LeftBy

variable {kind : Token → Prop} {calling : FilterCall → Prop} {f g : Filter} {call : FilterCall}
  {calls : List FilterCall} {reached : Chain}

theorem endsIn_perform (left : LeftBy kind calling) (performed : f.perform call = .ok g) :
    EndsIn kind g.tokens ↔ calling call := by
  obtain ⟨before, token, tokens, leaves⟩ := Filter.last_perform performed
  rw [tokens, endsIn_concat]
  exact left.kind_iff leaves

/-- Among the tokens a kind is kept apart from a closing parenthesis of a group exactly if no call
meets one. -/
theorem keptApart_perform (performed : f.perform call = .ok g)
    (placed : EndsIn kind f.tokens → call.place = .clause) :
    KeptApart kind .closeGroup g.tokens ↔
      KeptApart kind .closeGroup f.tokens ∧ (EndsIn kind f.tokens → call ≠ .closeGroup) := by
  rcases Filter.tokens_perform performed with
    added | ⟨before, comparison, trailing, combinator, last, rfl, merged⟩
  · have other (absent : .closeGroup ∉ call.addedTokens f) (different : call ≠ .closeGroup) :
        KeptApart kind .closeGroup g.tokens ↔
          KeptApart kind .closeGroup f.tokens ∧ (EndsIn kind f.tokens → call ≠ .closeGroup) := by
      rw [added, keptApart_append_of_not_mem absent]
      exact (and_iff_left fun _ => different).symm
    have owed : .closeGroup ∉ f.owed := by
      unfold Filter.owed
      split <;> simp
    cases call with
    | closeGroup =>
        rw [added, FilterCall.addedTokens, keptApart_concat]
        simp
    | endGroup =>
        rw [added, FilterCall.addedTokens, keptApart_concat]
        have free : ¬ EndsIn kind f.tokens := fun ends => by cases placed ends
        simp [free]
    | compare comparison negated =>
        refine other ?_ (by simp)
        cases negated <;> simp [FilterCall.addedTokens, owed]
    | _ => exact other (by simp [FilterCall.addedTokens, owed]) (by simp)
  · have written (trailing : Option Combinator) :
        KeptApart kind .closeGroup (before ++ [.comparison comparison trailing]) ↔
          KeptApart kind .closeGroup before :=
      keptApart_append_of_not_mem (by simp)
    rw [merged, last, written, written]
    exact (and_iff_left fun _ => by simp).symm

/-- A kind ends the filter after the calls that leave it, and is kept apart from the closing
parenthesis of a group where these calls are. -/
structure Mirrors (kind : Token → Prop) (calling : FilterCall → Prop) (calls : List FilterCall)
    (chain : Chain) : Prop where
  endsIn_iff : EndsIn kind chain.filter.tokens ↔ EndsIn calling calls
  placed : EndsIn kind chain.filter.tokens → chain.position = .clause
  keptApart_iff :
    KeptApart kind .closeGroup chain.filter.tokens ↔ KeptApart calling .closeGroup calls

theorem mirrors_run (left : LeftBy kind calling)
    (ran : Chain.run ⟨.clause, {}⟩ calls = .ok reached) : Mirrors kind calling calls reached := by
  refine Chain.run_induction (motive := Mirrors kind calling) ?nil ?concat ran
  case nil => exact ⟨by simp, by simp, by simp⟩
  case concat =>
    intro calls chain call moved mirrors made
    obtain ⟨placed, performed, target⟩ := Chain.call_eq_ok_iff.mp made
    have ends := left.endsIn_perform performed
    refine ⟨?_, ?_, ?_⟩
    · rw [endsIn_concat, ends]
    · rw [ends, target]
      exact left.due
    · rw [keptApart_perform performed fun ends => placed.trans (mirrors.placed ends),
        keptApart_concat, mirrors.endsIn_iff, mirrors.keptApart_iff]

end LeftBy

end QueryOptions
