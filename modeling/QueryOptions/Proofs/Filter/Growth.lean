import QueryOptions.Proofs.Filter.Condition
import QueryOptions.Proofs.Filter.Neighbours

/-!
# What calls append

A chain only ever appends to the text of its filter. What a call appends depends
on the innermost scope and on how many lambdas there were, and on nothing else
that was built before. Merging a combinator into a comparison is no exception:
where a combinator is due, the filter does not end in a comparison that has one.
-/

namespace QueryOptions

/-- The comparison of a count's result, as it stands after the closing parenthesis. -/
def resultText (op : CompareOp) (value : Literal) : String :=
  if op.isFunction then op.name ++ "(," ++ value.render ++ ")"
  else " " ++ op.name ++ " " ++ value.render

theorem Comparison.text_result (op : CompareOp) (value : Literal) :
    (⟨"", op, value, .fieldFirst⟩ : Comparison).text = resultText op value := by
  cases function : op.isFunction with
  | false => simp [Comparison.text, Comparison.operands, resultText, function]
  | true =>
      have joined : "(" ++ "," = "(," := rfl
      simp [Comparison.text, Comparison.operands, resultText, function, String.append_assoc,
        ← joined]

/-- What a call appends inside the innermost scope, after so many lambdas. -/
def FilterCall.fragment (innermost : Option ScopeFrame) (lambdas : Nat) (call : FilterCall) :
    String :=
  let owed := if innermost = some (.count true) then "$filter=" else ""
  let bound := innermost.bind ScopeFrame.bound?
  match call with
  | .compare comparison negated =>
    owed ++ (if negated then "Not " else "") ++
      comparison.written (qualified bound comparison.field)
  | .negateNext => owed ++ "Not "
  | .openGroup => owed ++ "("
  | .closeGroup | .endGroup => ")"
  | .beginLambda quantifier relation =>
    owed ++ qualified bound relation ++ "/" ++ quantifier.name ++ "(" ++ variableName lambdas ++ ":"
  | .beginCount relation => owed ++ qualified bound relation ++ "/count("
  | .combine combinator => combinator.text
  | .endLambda _ => ")"
  | .endCount op value => ")" ++ resultText op value

/-- The combinator that a token carries, on its own or after a comparison. -/
def Token.combinator? : Token → Option Combinator
  | .comparison _ trailing => trailing
  | .combinator joined => some joined
  | _ => none

theorem tokensText_cons (token : Token) (rest : List Token) :
    tokensText (token :: rest) = token.text ++ tokensText rest := rfl

theorem Token.exists_text_comparison (written : Comparison) (trailing : Option Combinator) :
    ∃ more, (Token.comparison written trailing).text = written.text ++ more := by
  cases trailing with
  | none => exact ⟨"", by simp [Token.text]⟩
  | some combinator => exact ⟨combinator.text, rfl⟩

namespace Filter

variable {f g : Filter} {call : FilterCall}

theorem filterPending_iff_innermost (s : ScopeStack) :
    s.filterPending = true ↔ s.innermost = some (.count true) := by
  rw [s.filterPending_iff, ScopeStack.innermost, List.head?_eq_some_iff]

theorem tokensText_owed (f : Filter) :
    tokensText f.owed =
      if f.scopes.innermost = some (.count true) then "$filter=" else "" := by
  simp only [owed, ← filterPending_iff_innermost]
  split <;> simp [Token.text]

theorem tokensText_addedTokens (f : Filter) (call : FilterCall) :
    tokensText (call.addedTokens f) =
      call.fragment f.scopes.innermost f.scopes.lambdasOpened := by
  cases call with
  | compare comparison negated =>
      cases negated <;>
        simp [FilterCall.addedTokens, FilterCall.fragment, tokensText_owed, tokensText_cons,
          Token.text, Comparison.text_eq_written, ScopeStack.qualify_eq, ScopeStack.bound?,
          String.append_assoc]
  | endCount op value =>
      simp [FilterCall.addedTokens, FilterCall.fragment, tokensText_cons, Token.text,
        Comparison.text_result]
  | _ =>
      simp [FilterCall.addedTokens, FilterCall.fragment, tokensText_owed, Token.text,
        ScopeStack.qualify_eq, ScopeStack.bound?, ScopeStack.nextVariable, String.append_assoc]

/-- A call appends its text, provided that no combinator is written over. -/
theorem text_perform (combinable : call.place = .operator → f.Combinable)
    (performed : f.perform call = .ok g) :
    g.text = f.text ++ call.fragment f.scopes.innermost f.scopes.lambdasOpened := by
  rcases tokens_perform performed with added | ⟨_, _, _, combinator, -, rfl, -⟩
  · rw [text, added, tokensText_append, tokensText_addedTokens, text]
  · cases performed
    exact text_combine (combinable rfl) combinator

theorem keeps_combinators (combinable : call.place = .operator → f.Combinable)
    (performed : f.perform call = .ok g) {index : Nat} {token : Token}
    (stands : f.tokens[index]? = some token) (carries : token.combinator? ≠ none) :
    g.tokens[index]? = some token := by
  rcases tokens_perform performed with
    added | ⟨before, comparison, trailing, combinator, last, rfl, merged⟩
  · rw [added]
    exact List.getElem?_append_left (List.getElem?_eq_some_iff.mp stands).1 ▸ stands
  · obtain rfl := combinable rfl before comparison trailing last
    rw [last] at stands
    rw [merged]
    -- The last token is the only one that changes, and it carries nothing yet.
    by_cases earlier : index < before.length
    · rw [List.getElem?_append_left earlier] at stands ⊢
      exact stands
    · rw [List.getElem?_append_right (Nat.le_of_not_lt earlier),
        List.getElem?_singleton] at stands
      split at stands
      · cases stands
        exact absurd rfl carries
      · cases stands

/-- After a call that ends an operand a combinator finds none before it. -/
theorem combinable_of_target (performed : f.perform call = .ok g)
    (target : call.target = .operator) : g.Combinable := by
  obtain ⟨start, token, tokens, leaves⟩ := last_perform performed
  intro before comparison trailing last
  obtain ⟨-, same⟩ := List.append_inj' (tokens.symm.trans last) rfl
  cases same
  cases leaves with
  | compare => rfl
  | endCount => rfl
  | merge => cases target

end Filter

namespace Chain

/-- Makes a call in its place; after an error an operand is due on what has been built. -/
def proceed (chain : Chain) (call : FilterCall) : Chain :=
  match chain.call call with
  | .ok moved => moved
  | .error _ => chain.restart

def proceedAll (chain : Chain) (calls : List FilterCall) : Chain := calls.foldl proceed chain

/-- What the calls append that succeed when all are made one after another. -/
def fragments : Chain → List FilterCall → List String
  | _, [] => []
  | chain, call :: rest =>
    match chain.call call with
    | .ok moved =>
      call.fragment chain.filter.scopes.innermost chain.filter.scopes.lambdasOpened ::
        moved.fragments rest
    | .error _ => chain.restart.fragments rest

/-- Where a combinator is due, the filter does not end in a comparison that has one. -/
def Unjoined (chain : Chain) : Prop := chain.position = .operator → chain.filter.Combinable

variable {chain moved : Chain} {call : FilterCall}

theorem unjoined_clause (f : Filter) : Unjoined ⟨.clause, f⟩ := by
  intro operator
  cases operator

theorem unjoined_call (made : chain.call call = .ok moved) : moved.Unjoined := by
  obtain ⟨-, performed, target⟩ := call_eq_ok_iff.mp made
  intro operator
  exact Filter.combinable_of_target performed (target.symm.trans operator)

theorem unjoined_proceed (chain : Chain) (call : FilterCall) : (chain.proceed call).Unjoined := by
  unfold proceed
  split
  next moved made => exact unjoined_call made
  next => exact unjoined_clause chain.filter

theorem unjoined_proceedAll (unjoined : chain.Unjoined) (calls : List FilterCall) :
    (chain.proceedAll calls).Unjoined := by
  induction calls generalizing chain with
  | nil => exact unjoined
  | cons call rest inductionHypothesis => exact inductionHypothesis (chain.unjoined_proceed call)

theorem text_call (unjoined : chain.Unjoined) (made : chain.call call = .ok moved) :
    moved.filter.text = chain.filter.text ++
      call.fragment chain.filter.scopes.innermost chain.filter.scopes.lambdasOpened := by
  obtain ⟨placed, performed, -⟩ := call_eq_ok_iff.mp made
  exact Filter.text_perform (fun operator => unjoined (placed.symm.trans operator)) performed

theorem text_proceedAll (unjoined : chain.Unjoined) (calls : List FilterCall) :
    (chain.proceedAll calls).filter.text =
      chain.filter.text ++ Text.concat (chain.fragments calls) := by
  induction calls generalizing chain with
  | nil => simp [proceedAll, fragments]
  | cons call rest inductionHypothesis =>
      have continued : (chain.proceedAll (call :: rest)) =
          (chain.proceed call).proceedAll rest := rfl
      rw [continued, inductionHypothesis (chain.unjoined_proceed call), fragments, proceed]
      cases made : chain.call call with
      | ok moved => simp [text_call unjoined made, String.append_assoc]
      | error error => rfl

/-- On whatever filter a chain starts, every call that succeeds appends a text that is known from
the call, the innermost scope and the number of lambdas, and leaves every combinator in its
token. A run appends the texts of the calls that succeed, whether others fail between them. -/
theorem calls_append_fragments (f : Filter) (calls : List FilterCall) :
    let start : Chain := { filter := f }
    let chain := start.proceedAll calls
    chain.filter.text = f.text ++ Text.concat (start.fragments calls) ∧
    ∀ call moved, chain.call call = .ok moved →
      moved.filter.text = chain.filter.text ++
        call.fragment chain.filter.scopes.innermost chain.filter.scopes.lambdasOpened ∧
      ∀ (index : Nat) (token : Token), chain.filter.tokens[index]? = some token →
        token.combinator? ≠ none → moved.filter.tokens[index]? = some token := by
  intro start chain
  have unjoined : chain.Unjoined := unjoined_proceedAll (unjoined_clause f) calls
  refine ⟨text_proceedAll (unjoined_clause f) calls, ?_⟩
  intro call moved made
  refine ⟨text_call unjoined made, ?_⟩
  intro index token stands carries
  obtain ⟨placed, performed, -⟩ := call_eq_ok_iff.mp made
  exact Filter.keeps_combinators (fun operator => unjoined (placed.symm.trans operator)) performed
    stands carries

-- A combinator that is called where an operand is due would replace the one before it.
example :
    let f := Filter.compare {} ⟨"Id", .eq, .ofInt 1, .fieldFirst⟩ false
    ((f.combine .and).combine .or).text = "Id eq 1 or " := by decide

end Chain

end QueryOptions
