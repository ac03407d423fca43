import Mathlib.Data.List.Forall2
import Mathlib.Data.List.GetD
import Mathlib.Data.List.Nodup
import QueryOptions.Proofs.Decimal.Numerals
import QueryOptions.Proofs.Filter.Replay

/-!
# Names and the variables that qualify them

Every lambda of a filter binds a variable of its own, and every name stands
with the variable of the innermost scope that is open just before it.
-/

namespace QueryOptions

/-- The round of the letters in which a variable is taken, as it is written. -/
def roundText : Nat → List Char
  | 0 => []
  | round + 1 => Decimal.digits (round + 1)

theorem roundText_injective {first second : Nat} (same : roundText first = roundText second) :
    first = second := by
  cases first with
  | zero =>
      cases second with
      | zero => rfl
      | succ round => exact absurd same.symm (Decimal.digits_ne_nil _)
  | succ round =>
      cases second with
      | zero => exact absurd same (Decimal.digits_ne_nil _)
      | succ other => exact Decimal.digits_injective same

theorem toList_variableName (index : Nat) :
    (variableName index).toList =
      variableLetters.getD (index % 26) 'x' :: roundText (index / 26) := by
  unfold variableName
  cases index / 26 <;> simp [roundText]

theorem variableLetters_getD_injective {first second : Nat} (firstLess : first < 26)
    (secondLess : second < 26)
    (same : variableLetters.getD first 'x' = variableLetters.getD second 'x') :
    first = second := by
  have distinct : variableLetters.Nodup := by decide
  have length : variableLetters.length = 26 := by decide
  rw [List.getD_eq_getElem _ _ (length ▸ firstLess),
    List.getD_eq_getElem _ _ (length ▸ secondLess)] at same
  exact distinct.getElem_inj_iff.mp same

/-- No two lambdas of a filter have variables of the same name. -/
theorem variableName_injective : Function.Injective variableName := by
  intro first second same
  have texts := congrArg String.toList same
  rw [toList_variableName, toList_variableName, List.cons.injEq] at texts
  have letter := variableLetters_getD_injective (Nat.mod_lt _ (by decide))
    (Nat.mod_lt _ (by decide)) texts.1
  have round := roundText_injective texts.2
  omega

/-- What the tokens read so far say about the next one. -/
structure Surroundings where
  frames : List ScopeFrame := []
  /-- A count has just been closed, and the comparison of its result follows. -/
  resultDue : Bool := false

namespace Surroundings

def bound? (s : Surroundings) : Option String := s.frames.head?.bind ScopeFrame.bound?

def next (s : Surroundings) (token : Token) : Surroundings where
  frames := (ScopeReplay.frames.step s.frames token).getD []
  resultDue :=
    match token, s.frames with
    | .scopeClose, .count _ :: _ => true
    | _, _ => false

def after (s : Surroundings) (tokens : List Token) : Surroundings := tokens.foldl next s

@[simp] theorem after_nil (s : Surroundings) : s.after [] = s := rfl

@[simp] theorem after_cons (s : Surroundings) (token : Token) (rest : List Token) :
    s.after (token :: rest) = (s.next token).after rest := rfl

theorem after_append (s : Surroundings) (first second : List Token) :
    s.after (first ++ second) = (s.after first).after second := by
  simp [after]

/-- What is seen of the tokens one by one, each in its surroundings. -/
def collect {β : Type} (look : Surroundings → Token → Option β) :
    Surroundings → List Token → List β
  | _, [] => []
  | s, token :: rest => (look s token).toList ++ collect look (s.next token) rest

theorem collect_append {β : Type} (look : Surroundings → Token → Option β) (s : Surroundings)
    (first second : List Token) :
    collect look s (first ++ second) =
      collect look s first ++ collect look (s.after first) second := by
  induction first generalizing s with
  | nil => rfl
  | cons token rest inductionHypothesis =>
      simp [collect, inductionHypothesis]

end Surroundings

/-- A name as a token has it, and the variable of the innermost scope open just before. -/
structure Occurrence where
  bound? : Option String
  written : String

/-- The written name is the given one, qualified by the variable in scope if there is one. -/
def Occurrence.Qualifies (occurrence : Occurrence) (name : String) : Prop :=
  occurrence.written = qualified occurrence.bound? name

namespace Surroundings

/-- The name in a token; the comparison of a count's result has none. -/
def occurrence? (s : Surroundings) : Token → Option Occurrence
  | .comparison comparison _ =>
    if s.resultDue then none else some ⟨s.bound?, comparison.field⟩
  | .lambdaOpen relation _ _ | .countOpen relation => some ⟨s.bound?, relation⟩
  | _ => none

def result? (s : Surroundings) : Token → Option Comparison
  | .comparison comparison _ => if s.resultDue then some comparison else none
  | _ => none

end Surroundings

def occurrences (tokens : List Token) : List Occurrence :=
  Surroundings.collect Surroundings.occurrence? {} tokens

def countResults (tokens : List Token) : List Comparison :=
  Surroundings.collect Surroundings.result? {} tokens

namespace Built

open QueryOptions.Filter Surroundings

variable {names : List String} {f : Filter}

/-- Reading the tokens of a filter ends in its frames, and no result is due. -/
theorem after_eq (built : Built names f) : after {} f.tokens = ⟨f.scopes.frames, false⟩ := by
  induction built with
  | empty => rfl
  | introduce _ opened inductionHypothesis =>
      simp [after_append, inductionHypothesis, next, ScopeReplay.step, ScopeReplay.frames, opened]
  | closeGroup _ inductionHypothesis =>
      simp [Filter.closeGroup, after_append, inductionHypothesis, next, ScopeReplay.step]
  | beginLambda _ _ _ _ inductionHypothesis =>
      simp [after_append, inductionHypothesis, next, ScopeReplay.step, ScopeReplay.frames,
        ScopeStack.pushLambda]
  | beginCount _ _ _ inductionHypothesis =>
      simp [after_append, inductionHypothesis, next, ScopeReplay.step, ScopeReplay.frames,
        ScopeStack.pushCount]
  | merge _ _ last inductionHypothesis =>
      simp only [last, after_append] at inductionHypothesis ⊢
      exact inductionHypothesis
  | endLambda _ opened inductionHypothesis =>
      simp [after_append, inductionHypothesis, next, ScopeReplay.step, opened]
  | endCount _ _ _ opened inductionHypothesis =>
      simp [after_append, inductionHypothesis, next, ScopeReplay.step, opened]
  | _ => simp_all [after_append, next, ScopeReplay.step]

/-- What follows the tokens of a filter is seen in the filter's own scopes. -/
theorem collect_append_eq {β : Type} (built : Built names f)
    (look : Surroundings → Token → Option β) (tokens : List Token) :
    collect look {} (f.tokens ++ tokens) =
      collect look {} f.tokens ++ collect look ⟨f.scopes.frames, false⟩ tokens := by
  rw [collect_append, built.after_eq]

theorem occurrences_concat (built : Built names f) (token : Token) :
    occurrences (f.tokens ++ [token]) =
      occurrences f.tokens ++ (occurrence? ⟨f.scopes.frames, false⟩ token).toList := by
  simp [occurrences, built.collect_append_eq, collect]

theorem countResults_concat (built : Built names f) (token : Token) :
    countResults (f.tokens ++ [token]) =
      countResults f.tokens ++ (result? ⟨f.scopes.frames, false⟩ token).toList := by
  simp [countResults, built.collect_append_eq, collect]

/-- The names in the tokens are those that callers passed, in order and qualified, and
the results of counts are compared without a name. -/
theorem occurrences_and_results (built : Built names f) :
    List.Forall₂ Occurrence.Qualifies (occurrences f.tokens) names ∧
      ∀ result ∈ countResults f.tokens, result.field = "" := by
  induction built with
  | empty => exact ⟨.nil, by simp [countResults, collect]⟩
  | compare comparison built _ inductionHypothesis =>
      rw [tokens_append, built.occurrences_concat, built.countResults_concat]
      exact ⟨List.rel_append inductionHypothesis.1 (.cons rfl .nil),
        by simpa [result?] using inductionHypothesis.2⟩
  | beginLambda _ _ built _ inductionHypothesis =>
      rw [tokens_append, built.occurrences_concat, built.countResults_concat]
      exact ⟨List.rel_append inductionHypothesis.1 (.cons rfl .nil),
        by simpa [result?] using inductionHypothesis.2⟩
  | beginCount _ built _ inductionHypothesis =>
      rw [tokens_append, built.occurrences_concat, built.countResults_concat]
      exact ⟨List.rel_append inductionHypothesis.1 (.cons rfl .nil),
        by simpa [result?] using inductionHypothesis.2⟩
  | merge _ _ last inductionHypothesis =>
      -- A comparison is seen alike whatever follows it.
      rw [last, occurrences, countResults, collect_append, collect_append] at inductionHypothesis
      rw [occurrences, countResults, collect_append, collect_append]
      exact inductionHypothesis
  | endCount op value built opened inductionHypothesis =>
      refine ⟨?_, ?_⟩
      · simpa [occurrences, built.collect_append_eq, collect, occurrence?, next, opened] using
          inductionHypothesis.1
      · intro result found
        rw [tokens_append, tokens_closing, List.append_assoc, countResults,
          built.collect_append_eq] at found
        rcases List.mem_append.mp found with earlier | last
        · exact inductionHypothesis.2 result earlier
        · simp [collect, result?, next, opened] at last
          rw [last]
  | introduce built _ inductionHypothesis =>
      simpa [built.occurrences_concat, built.countResults_concat, occurrence?, result?] using
        inductionHypothesis
  | negate built _ inductionHypothesis =>
      simpa [built.occurrences_concat, built.countResults_concat, occurrence?, result?] using
        inductionHypothesis
  | openGroup built _ inductionHypothesis =>
      simpa [built.occurrences_concat, built.countResults_concat, occurrence?, result?] using
        inductionHypothesis
  | closeGroup built inductionHypothesis =>
      simpa [Filter.closeGroup, built.occurrences_concat, built.countResults_concat, occurrence?,
        result?] using inductionHypothesis
  | join _ built _ inductionHypothesis =>
      simpa [built.occurrences_concat, built.countResults_concat, occurrence?, result?] using
        inductionHypothesis
  | endLambda built _ inductionHypothesis =>
      simpa [built.occurrences_concat, built.countResults_concat, occurrence?, result?] using
        inductionHypothesis

end Built

namespace Surroundings

/-- Reading a token brings no variable into scope but the one that it binds. -/
theorem bound_of_next {s : Surroundings} {token : Token} {bound : String}
    (opened : bound ∈ (s.next token).frames.filterMap ScopeFrame.bound?) :
    bound ∈ s.frames.filterMap ScopeFrame.bound? ++ token.bound?.toList := by
  obtain ⟨frames, resultDue⟩ := s
  cases token with
  | lambdaOpen relation quantifier own =>
      simpa [next, ScopeReplay.step, ScopeReplay.frames, ScopeFrame.bound?, Token.bound?, or_comm]
        using opened
  | scopeClose =>
      cases frames with
      | nil => simp [next, ScopeReplay.step] at opened
      | cons frame frames =>
          have inside : bound ∈ frames.filterMap ScopeFrame.bound? := opened
          cases binds : frame.bound? <;> simp_all
  | countFilter =>
      cases frames with
      | nil => simp [next, ScopeReplay.step] at opened
      | cons frame frames =>
          cases frame <;> simpa [next, ScopeReplay.step, ScopeReplay.frames, ScopeFrame.bound?,
            Token.bound?] using opened
  | _ => simpa [next, ScopeReplay.step, ScopeReplay.frames, ScopeFrame.bound?, Token.bound?]
      using opened

/-- The variable of an occurrence is that of the innermost frame around it. -/
theorem bound?_of_occurrence {s : Surroundings} {token : Token} {occurrence : Occurrence}
    (found : s.occurrence? token = some occurrence) : occurrence.bound? = s.bound? := by
  unfold occurrence? at found
  split at found
  · split at found
    · cases found
    · cases found
      rfl
  · cases found
    rfl
  · cases found
    rfl
  · cases found

/-- A qualifying variable is bound by a frame of the surroundings or by one of
the tokens themselves. -/
theorem bound_of_collect {s : Surroundings} {tokens : List Token}
    {occurrence : Occurrence} {bound : String}
    (found : occurrence ∈ collect occurrence? s tokens)
    (qualified : occurrence.bound? = some bound) :
    bound ∈ s.frames.filterMap ScopeFrame.bound? ++ boundVariables tokens := by
  induction tokens generalizing s with
  | nil => simp [collect] at found
  | cons token rest inductionHypothesis =>
      rcases List.mem_append.mp found with here | later
      · have innermost := bound?_of_occurrence (Option.mem_toList.mp here)
        rw [qualified] at innermost
        obtain ⟨frame, inside, binds⟩ := Option.bind_eq_some_iff.mp innermost.symm
        refine List.mem_append_left _ (List.mem_filterMap.mpr ⟨frame, ?_, binds⟩)
        exact List.mem_of_mem_head? inside
      · rw [boundVariables_cons, ← List.append_assoc]
        rcases List.mem_append.mp (inductionHypothesis later) with opened | bound
        · exact List.mem_append_left _ (bound_of_next opened)
        · exact List.mem_append_right _ bound

end Surroundings

/-- Whatever calls have built a filter, its lambdas bind distinct variables in the order of
the letters, and each name is the one that was passed, qualified exactly by the variable of
the innermost scope that is open just before it, which no other lambda binds. -/
theorem Filter.names_qualified_by_innermost (calls : List FilterCall) :
    let f := attempts {} calls
    boundVariables f.tokens = (List.range f.scopes.lambdasOpened).map variableName ∧
    (boundVariables f.tokens).Nodup ∧
    List.Forall₂ Occurrence.Qualifies (occurrences f.tokens)
      (calls.filterMap FilterCall.name?) ∧
    (∀ occurrence ∈ occurrences f.tokens, ∀ bound, occurrence.bound? = some bound →
      (boundVariables f.tokens).count bound = 1) ∧
    ∀ result ∈ countResults f.tokens, result.field = "" := by
  intro f
  have built : Built (calls.filterMap FilterCall.name?) f := built_attempts calls
  clear_value f
  have distinct : (boundVariables f.tokens).Nodup := by
    rw [built.boundVariables_eq]
    exact List.nodup_range.map variableName_injective
  obtain ⟨qualify, unnamed⟩ := built.occurrences_and_results
  refine ⟨built.boundVariables_eq, distinct, qualify, ?_, unnamed⟩
  intro occurrence found bound qualified
  have taken : bound ∈ boundVariables f.tokens := by
    simpa using Surroundings.bound_of_collect found qualified
  exact List.count_eq_one_of_mem distinct taken

end QueryOptions
