import QueryOptions.Proofs.Filter.Neighbours
import QueryOptions.Proofs.Literal.Characters

/-!
# How the text of a filter ends

A text that stops after `and`, `or` or `Not` lacks an operand. The text of
tokens stops there only if their last token is such an operator, unless the name
of a field ends in a space.
-/

namespace QueryOptions

/-- An operator that has no operand yet. -/
def Token.Awaits : Token → Prop
  | .negation | .combinator _ | .comparison _ (some _) => True
  | _ => False

/-- The texts of the operators. -/
def operatorTexts : List String := [Combinator.and.text, Combinator.or.text, Token.negation.text]

/-- The text stops after an operator. -/
def Dangles (text : String) : Prop := ∃ word ∈ operatorTexts, word.toList <:+ text.toList

def EndsInSpace (text : String) : Prop := EndsIn (· = ' ') text.toList

/-- The text ends in another character than a space, or in an operator that compares. -/
def Completes (text : String) : Prop :=
  EndsIn (· ≠ ' ') text.toList ∨
    ∃ op : CompareOp, op.isFunction = false ∧ (" " ++ op.name ++ " ").toList <:+ text.toList

theorem Completes.append {text : String} (completes : Completes text) (before : String) :
    Completes (before ++ text) := by
  rw [Completes, String.toList_append]
  rcases completes with ends | ⟨op, written, suffix⟩
  · refine .inl ((endsIn_append ?_).mpr ends)
    rintro empty
    simp [empty] at ends
  · exact .inr ⟨op, written, suffix.trans (List.suffix_append _ _)⟩

theorem CompareOp.not_suffix_operator {op : CompareOp} (written : op.isFunction = false) :
    ∀ word ∈ operatorTexts, (" " ++ op.name ++ " ").toList.length ≤ word.toList.length ∧
      ¬ (" " ++ op.name ++ " ").toList <:+ word.toList := by
  cases op with
  | contains | startsWith | endsWith => cases written
  | _ => decide

theorem Completes.not_dangles {text : String} (completes : Completes text) : ¬ Dangles text := by
  have spaced : ∀ word ∈ operatorTexts, ∃ start, word.toList = start ++ [' '] := by
    simp only [operatorTexts, List.forall_mem_cons]
    exact ⟨⟨" and".toList, rfl⟩, ⟨" or".toList, rfl⟩, ⟨"Not".toList, rfl⟩, by simp⟩
  rintro ⟨word, among, suffix⟩
  rcases completes with ends | ⟨op, written, compared⟩
  · obtain ⟨start, same⟩ := spaced word among
    obtain ⟨before, whole⟩ := suffix
    rw [← whole, same, ← List.append_assoc, endsIn_concat] at ends
    exact ends rfl
  · -- Of two ends of a text the shorter one ends the other.
    obtain ⟨shorter, other⟩ := op.not_suffix_operator written word among
    exact other (List.suffix_of_suffix_length_le compared suffix shorter)

/-- No literal ends in a space. -/
theorem Literal.not_endsInSpace_render (value : Literal) : ¬ EndsInSpace value.render := by
  have bare {text : String} (written : IsBare text.toList) : ¬ EndsInSpace text := by
    rintro ⟨c, last, rfl⟩
    exact written.not_mem rfl (List.mem_of_getLast? last)
  have quoted (text : String) : ¬ EndsInSpace (quoted text) := by
    have written : (Literal.quoted text).toList = ("'" ++ text).toList ++ ['\''] :=
      String.toList_append
    rw [EndsInSpace, written, endsIn_concat]
    decide
  cases value with
  | text value => exact quoted value
  | other value => exact quoted value
  | number value => exact bare value.isBare_text
  | float value => exact bare value.isBare_text
  | bool value => exact bare (isBare_boolText value)
  | instant value => exact bare value.isBare_text

theorem Comparison.completes_text {c : Comparison} (field : ¬ EndsInSpace c.field) :
    Completes c.text := by
  have second : ¬ EndsInSpace c.operands.2 := by
    unfold operands
    cases c.order with
    | fieldFirst => exact c.value.not_endsInSpace_render
    | valueFirst => exact field
  simp only [text]
  cases written : c.op.isFunction with
  | true =>
      rw [if_pos rfl]
      exact Completes.append (.inl ⟨')', rfl, by decide⟩) _
  | false =>
      rw [if_neg Bool.false_ne_true]
      rcases List.eq_nil_or_concat c.operands.2.toList with empty | ⟨start, last, whole⟩
      · refine .inr ⟨c.op, written, ?_⟩
        simp [empty]
      · rw [List.concat_eq_append] at whole
        rw [EndsInSpace, whole, endsIn_concat] at second
        refine Completes.append (.inl ?_) _
        rwa [whole, endsIn_concat]

/-- A field that is named does not end in a space. -/
def Token.NamesFirmly : Token → Prop
  | .comparison written _ => ¬ EndsInSpace written.field
  | _ => True

def FilterCall.NamesFirmly : FilterCall → Prop
  | .compare comparison _ => ¬ EndsInSpace comparison.field
  | _ => True

theorem Token.completes_text {token : Token} (complete : ¬ token.Awaits)
    (firm : token.NamesFirmly) : Completes token.text := by
  have opened : Completes "(" := .inl ⟨'(', rfl, by decide⟩
  have closed : Completes ")" := .inl ⟨')', rfl, by decide⟩
  cases token with
  | comparison written trailing =>
      cases trailing with
      | none => exact Comparison.completes_text firm
      | some combinator => exact absurd trivial complete
  | openGroup => exact opened
  | closeGroup | scopeClose => exact closed
  | negation | combinator => exact absurd trivial complete
  | lambdaOpen relation quantifier bound =>
      exact Completes.append (.inl ⟨':', rfl, by decide⟩) _
  | countOpen relation => exact Completes.append (.inl ⟨'(', rfl, by decide⟩) _
  | countFilter => exact .inl ⟨'=', rfl, by decide⟩

/-- The text of tokens that do not end in an operator does not stop after one. -/
theorem not_dangles_tokensText {tokens : List Token} (complete : ¬ EndsIn Token.Awaits tokens)
    (firm : ∀ token ∈ tokens, token.NamesFirmly) : ¬ Dangles (tokensText tokens) := by
  rcases List.eq_nil_or_concat tokens with rfl | ⟨before, last, rfl⟩
  · rintro ⟨word, among, suffix⟩
    have empty : word = "" := String.toList_inj.mp (List.suffix_nil.mp suffix)
    rw [empty] at among
    exact absurd among (by decide)
  · rw [List.concat_eq_append] at complete firm ⊢
    rw [endsIn_concat] at complete
    have completes := Token.completes_text complete (firm last (by simp))
    rw [tokensText_append, tokensText_singleton]
    exact (completes.append _).not_dangles

theorem ScopeStack.not_endsInSpace_qualify (s : ScopeStack) {name : String}
    (firm : ¬ EndsInSpace name) : ¬ EndsInSpace (s.qualify name) := by
  rw [qualify_eq]
  cases s.bound? with
  | none => exact firm
  | some bound =>
      rw [EndsInSpace, qualified, String.toList_append]
      rcases List.eq_nil_or_concat name.toList with empty | ⟨start, last, whole⟩
      · rw [empty, String.toList_append]
        simp
      · rw [EndsInSpace, whole, List.concat_eq_append, endsIn_concat] at firm
        rwa [whole, List.concat_eq_append, ← List.append_assoc, endsIn_concat]

theorem Filter.namesFirmly_perform {f g : Filter} {call : FilterCall}
    (firm : ∀ token ∈ f.tokens, token.NamesFirmly) (called : call.NamesFirmly)
    (performed : f.perform call = .ok g) : ∀ token ∈ g.tokens, token.NamesFirmly := by
  have owed : ∀ token ∈ f.owed, token.NamesFirmly := by
    unfold Filter.owed
    split <;> simp [Token.NamesFirmly]
  rcases tokens_perform performed with
    added | ⟨before, comparison, trailing, combinator, last, rfl, merged⟩
  · rw [added]
    refine List.forall_mem_append.mpr ⟨firm, ?_⟩
    cases call with
    | compare comparison negated =>
        have field := f.scopes.not_endsInSpace_qualify called
        cases negated <;>
          simpa [FilterCall.addedTokens, or_imp, forall_and, Token.NamesFirmly, field] using owed
    | endCount op value => simp [FilterCall.addedTokens, Token.NamesFirmly, EndsInSpace]
    | negateNext | openGroup | beginLambda | beginCount =>
        simpa [FilterCall.addedTokens, or_imp, forall_and, Token.NamesFirmly] using owed
    | closeGroup | endGroup | combine | endLambda =>
        simp [FilterCall.addedTokens, Token.NamesFirmly]
  · rw [merged]
    rw [last] at firm
    simpa [or_imp, forall_and, Token.NamesFirmly] using firm

theorem Chain.namesFirmly_run {calls : List FilterCall} {reached : Chain}
    (ran : Chain.run ⟨.clause, {}⟩ calls = .ok reached)
    (firm : ∀ call ∈ calls, call.NamesFirmly) :
    ∀ token ∈ reached.filter.tokens, token.NamesFirmly := by
  have kept := Chain.run_invariant
    (motive := fun f rest =>
      (∀ token ∈ f.tokens, token.NamesFirmly) ∧ ∀ call ∈ rest, call.NamesFirmly)
    ?step ran ⟨by simp, firm⟩
  case step =>
    rintro f g call rest performed ⟨written, called⟩
    obtain ⟨first, later⟩ := List.forall_mem_cons.mp called
    exact ⟨Filter.namesFirmly_perform written first performed, later⟩
  exact kept.1

end QueryOptions
