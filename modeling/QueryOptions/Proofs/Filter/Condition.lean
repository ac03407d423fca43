import QueryOptions.Proofs.Filter.Building

/-!
# Conditions

A condition is what a filter says, as a tree: operands joined by `and` and
`or`, with groups, lambdas and counts around conditions of their own. It has a
sequence of builder calls, and a text that is written down without a filter.
Making the calls of a condition on any filter adds exactly this text.
-/

namespace QueryOptions

/-- An operator that is written between its operands. -/
structure InfixOp where
  op : CompareOp
  between : op.isFunction = false
  deriving DecidableEq, Repr

mutual

/-- Operands joined by combinators. -/
inductive Condition where
  | single (operand : Operand)
  | joined (operand : Operand) (combinator : Combinator) (rest : Condition)

inductive Operand where
  | comparison (comparison : Comparison)
  | negation (operand : Operand)
  | group (body : Condition)
  | lambda (quantifier : Quantifier) (relation : String) (body : Condition)
  | count (relation : String) (body : Condition) (op : InfixOp) (value : Literal)

end

mutual

/-- The calls that build a condition, depth first. -/
def Condition.calls : Condition → List FilterCall
  | .single operand => operand.calls
  | .joined operand combinator rest => operand.calls ++ .combine combinator :: rest.calls

def Operand.calls : Operand → List FilterCall
  | .comparison comparison => [.compare comparison false]
  | .negation operand => .negateNext :: operand.calls
  | .group body => .openGroup :: (body.calls ++ [.endGroup])
  | .lambda quantifier relation body =>
    .beginLambda quantifier relation :: (body.calls ++ [.endLambda quantifier])
  | .count relation body op value =>
    .beginCount relation :: (body.calls ++ [.endCount op.op value])

end

/-- A comparison as it is written where its field has the given name. -/
def Comparison.written (c : Comparison) (field : String) : String :=
  match c.op.isFunction, c.order with
  | true, .fieldFirst => c.op.name ++ "(" ++ field ++ "," ++ c.value.render ++ ")"
  | true, .valueFirst => c.op.name ++ "(" ++ c.value.render ++ "," ++ field ++ ")"
  | false, .fieldFirst => field ++ " " ++ c.op.name ++ " " ++ c.value.render
  | false, .valueFirst => c.value.render ++ " " ++ c.op.name ++ " " ++ field

mutual

/-- The text of a condition inside a lambda with the given variable, or outside
of any, after so many lambdas; and the number of lambdas after it. -/
def Condition.print (bound : Option String) (lambdas : Nat) : Condition → String × Nat
  | .single operand => operand.print bound lambdas
  | .joined operand combinator rest =>
    let (first, lambdas) := operand.print bound lambdas
    let (second, lambdas) := rest.print bound lambdas
    (first ++ combinator.text ++ second, lambdas)

def Operand.print (bound : Option String) (lambdas : Nat) : Operand → String × Nat
  | .comparison comparison => (comparison.written (qualified bound comparison.field), lambdas)
  | .negation operand =>
    let (text, lambdas) := operand.print bound lambdas
    ("Not " ++ text, lambdas)
  | .group body =>
    let (text, lambdas) := body.print bound lambdas
    ("(" ++ text ++ ")", lambdas)
  | .lambda quantifier relation body =>
    let own := variableName lambdas
    let (text, lambdas) := body.print (some own) (lambdas + 1)
    (qualified bound relation ++ "/" ++ quantifier.name ++ "(" ++ own ++ ":" ++ text ++ ")",
      lambdas)
  | .count relation body op value =>
    let (text, lambdas) := body.print none lambdas
    (qualified bound relation ++ "/count($filter=" ++ text ++ ") " ++ op.op.name ++ " " ++
      value.render, lambdas)

end

theorem Comparison.text_eq_written (c : Comparison) (field : String) :
    ({ c with field := field } : Comparison).text = c.written field := by
  cases function : c.op.isFunction <;> cases order : c.order <;>
    simp [text, operands, written, function, order]

theorem Chain.run_cons {position : Position} {f g : Filter} {call : FilterCall}
    (place : call.place = position) (performed : f.perform call = .ok g)
    (rest : List FilterCall) :
    Chain.run ⟨position, f⟩ (call :: rest) = Chain.run ⟨call.target, g⟩ rest := by
  simp [run, Chain.call, place, performed]

namespace Filter

/-- No combinator follows the last token yet. -/
def Combinable (f : Filter) : Prop :=
  ∀ before comparison trailing,
    f.tokens = before ++ [.comparison comparison trailing] → trailing = none

theorem combinable_append_comparison (f : Filter) (comparison : Comparison) :
    (f.append (.comparison comparison none)).Combinable := by
  intro before last trailing tokens
  obtain ⟨_, same⟩ := List.append_inj' tokens rfl
  cases same
  rfl

theorem combinable_append_of_ne {f : Filter} {token : Token}
    (other : ∀ comparison trailing, token ≠ .comparison comparison trailing) :
    (f.append token).Combinable := by
  intro before last trailing tokens
  obtain ⟨_, same⟩ := List.append_inj' tokens rfl
  exact absurd (List.cons.inj same).1 (other last trailing)

theorem combinable_closing (f : Filter) (frames : List ScopeFrame) :
    (f.closing frames).Combinable := by
  have structural : (f.append .scopeClose).Combinable := combinable_append_of_ne (by simp)
  exact structural

theorem text_combine {f : Filter} (combinable : f.Combinable) (combinator : Combinator) :
    (f.combine combinator).text = f.text ++ combinator.text := by
  rcases f.combine_cases combinator with
    ⟨before, comparison, trailing, last, merged⟩ | ⟨_, joined⟩
  · obtain rfl := combinable before comparison trailing last
    simp [merged, text, last, Token.text, String.append_assoc]
  · simp [joined, Token.text]

@[simp] theorem scopes_combine (f : Filter) (combinator : Combinator) :
    (f.combine combinator).scopes = f.scopes := by
  rcases f.combine_cases combinator with ⟨_, _, _, _, merged⟩ | ⟨_, joined⟩
  · rw [merged]
  · rw [joined, scopes_append]

@[simp] theorem openGroups_combine (f : Filter) (combinator : Combinator) :
    (f.combine combinator).openGroups = f.openGroups := by
  rcases f.combine_cases combinator with ⟨_, _, _, _, merged⟩ | ⟨_, joined⟩
  · rw [merged]
  · rw [joined, openGroups_append]

/-- A filter goes on from another one, once that has introduced what it owes: by
a text, and up to a number of lambdas. Its scopes and groups are as before. -/
structure Extends (f g : Filter) (added : String × Nat) : Prop where
  text_eq : g.text = f.introduce.text ++ added.1
  frames_eq : g.scopes.frames = f.scopes.settle.frames
  lambdasOpened_eq : g.scopes.lambdasOpened = added.2
  openGroups_eq : g.openGroups = f.openGroups
  combinable : g.Combinable

namespace Extends

variable {f g : Filter} {added : String × Nat}

theorem settled (extended : f.Extends g added) : g.scopes.filterPending = false := by
  have pending := f.scopes.filterPending_settle
  unfold ScopeStack.filterPending at pending ⊢
  rwa [extended.frames_eq]

theorem bound?_eq (extended : f.Extends g added) : g.scopes.bound? = f.scopes.bound? := by
  rw [← f.scopes.bound?_settle]
  simp only [ScopeStack.bound?, ScopeStack.innermost, extended.frames_eq]

/-- What goes on after a combinator goes on from the same scopes. -/
theorem trans {h : Filter} {more : String × Nat} (extended : f.Extends g added)
    (combinator : Combinator) (continued : (g.combine combinator).Extends h more) :
    f.Extends h (added.1 ++ combinator.text ++ more.1, more.2) := by
  have nothingOwed : (g.combine combinator).introduce = g.combine combinator :=
    introduce_of_settled (by simpa using extended.settled)
  have sameFrames : g.scopes.settle = g.scopes := ScopeStack.settle_of_settled extended.settled
  refine ⟨?_, ?_, ?_, ?_, continued.combinable⟩
  · simp [continued.text_eq, nothingOwed, text_combine extended.combinable, extended.text_eq,
      String.append_assoc]
  · simp [continued.frames_eq, sameFrames, extended.frames_eq]
  · exact continued.lambdasOpened_eq
  · simp [continued.openGroups_eq, extended.openGroups_eq]

end Extends

/-- From where an operand is due the calls lead to a filter that an operand ends,
whatever calls follow. -/
def Makes (f g : Filter) (calls : List FilterCall) : Prop :=
  ∀ rest, Chain.run ⟨.clause, f⟩ (calls ++ rest) = Chain.run ⟨.operator, g⟩ rest

namespace Makes

variable {e f g h : Filter} {calls : List FilterCall}

theorem single {call : FilterCall} (place : call.place = .clause) (target : call.target = .operator)
    (performed : f.perform call = .ok g) : f.Makes g [call] := by
  intro rest
  rw [List.singleton_append, Chain.run_cons place performed, target]

theorem cons {call : FilterCall} (place : call.place = .clause) (target : call.target = .clause)
    (performed : f.perform call = .ok e) (made : e.Makes g calls) :
    f.Makes g (call :: calls) := by
  intro rest
  rw [List.cons_append, Chain.run_cons place performed, target, made]

theorem concat {call : FilterCall} (made : f.Makes g calls) (place : call.place = .operator)
    (target : call.target = .operator) (performed : g.perform call = .ok h) :
    f.Makes h (calls ++ [call]) := by
  intro rest
  rw [List.append_assoc, made, List.singleton_append, Chain.run_cons place performed, target]

theorem join {more : List FilterCall} (combinator : Combinator) (made : f.Makes g calls)
    (others : (g.combine combinator).Makes h more) :
    f.Makes h (calls ++ .combine combinator :: more) := by
  intro rest
  have place : (FilterCall.combine combinator).place = .operator := rfl
  have combined : g.perform (.combine combinator) = .ok (g.combine combinator) := rfl
  rw [List.append_assoc, made, List.cons_append, Chain.run_cons place combined]
  exact others rest

end Makes

end Filter

open QueryOptions.Filter

mutual

theorem Operand.makes (operand : Operand) (f : Filter) :
    ∃ g, f.Makes g operand.calls ∧
      f.Extends g (operand.print f.scopes.bound? f.scopes.lambdasOpened) := by
  cases operand with
  | comparison comparison =>
      refine ⟨f.compare comparison false, .single rfl rfl rfl, ?_, ?_, ?_, ?_,
        combinable_append_comparison _ _⟩
      · simp [Filter.compare, Token.text, Comparison.text_eq_written, Operand.print,
          ScopeStack.qualify_eq]
      · simp
      · simp [Operand.print]
      · simp
  | negation operand =>
      obtain ⟨g, made, extended⟩ := operand.makes f.negateNext
      refine ⟨g, made.cons rfl rfl rfl, ?_, ?_, ?_, ?_, extended.combinable⟩
      · simp [extended.text_eq, text_negateNext, Operand.print, String.append_assoc]
      · simp [extended.frames_eq]
      · simp [extended.lambdasOpened_eq, Operand.print]
      · simp [extended.openGroups_eq]
  | group body =>
      obtain ⟨g, made, extended⟩ := body.makes f.openGroup
      refine ⟨g.closeGroup, (made.concat rfl rfl rfl).cons rfl rfl rfl, ?_, ?_, ?_, ?_,
        combinable_append_of_ne (by simp)⟩
      · simp [text_closeGroup, extended.text_eq, text_openGroup, Operand.print,
          String.append_assoc]
      · simp [extended.frames_eq]
      · simp [extended.lambdasOpened_eq, Operand.print]
      · simp [extended.openGroups_eq]
  | lambda quantifier relation body =>
      obtain ⟨g, made, extended⟩ := body.makes (f.beginLambda quantifier relation)
      -- The body leaves the lambda innermost, so that its close succeeds.
      have opened : g.scopes.frames =
          .lambda quantifier f.scopes.nextVariable :: f.scopes.settle.frames := by
        simp [extended.frames_eq]
      have closed : g.perform (.endLambda quantifier) = .ok (g.closing f.scopes.settle.frames) :=
        closeScope_of_frame opened
      refine ⟨_, (made.concat rfl rfl closed).cons rfl rfl rfl, ?_, ?_, ?_, ?_,
        combinable_closing _ _⟩
      · simp [extended.text_eq, text_beginLambda, Operand.print, String.append_assoc,
          ScopeStack.nextVariable]
      · simp
      · simp [extended.lambdasOpened_eq, Operand.print, ScopeStack.nextVariable]
      · simp [extended.openGroups_eq]
  | count relation body op value =>
      obtain ⟨g, made, extended⟩ := body.makes (f.beginCount relation)
      have opened : g.scopes.frames = .count false :: f.scopes.settle.frames := by
        simp [extended.frames_eq]
      have closed : g.closeScope .count = .ok (g.closing f.scopes.settle.frames) :=
        closeScope_of_frame opened
      have compared : g.perform (.endCount op.op value) =
          .ok ((g.closing f.scopes.settle.frames).append
            (.comparison ⟨"", op.op, value, .fieldFirst⟩ none)) := by
        simp [perform, closeCount, closed]
      have result : (⟨"", op.op, value, .fieldFirst⟩ : Comparison).text =
          " " ++ op.op.name ++ " " ++ value.render := by
        simp [Comparison.text, Comparison.operands, op.between]
      have spaced (text : String) : ")" ++ (" " ++ text) = ") " ++ text := by
        rw [← String.append_assoc]
        rfl
      refine ⟨_, (made.concat rfl rfl compared).cons rfl rfl rfl, ?_, ?_, ?_, ?_,
        combinable_append_comparison _ _⟩
      · simp [extended.text_eq, text_introduce_beginCount, Operand.print, Token.text, result,
          spaced, String.append_assoc]
      · simp
      · simp [extended.lambdasOpened_eq, Operand.print]
      · simp [extended.openGroups_eq]

theorem Condition.makes (condition : Condition) (f : Filter) :
    ∃ g, f.Makes g condition.calls ∧
      f.Extends g (condition.print f.scopes.bound? f.scopes.lambdasOpened) := by
  cases condition with
  | single operand => exact operand.makes f
  | joined operand combinator others =>
      obtain ⟨g, first, extended⟩ := operand.makes f
      obtain ⟨h, second, continued⟩ := others.makes (g.combine combinator)
      refine ⟨h, first.join combinator second, ?_⟩
      have printed := extended.trans combinator continued
      simpa [Condition.print, extended.bound?_eq, extended.lambdasOpened_eq] using printed

end

/-- Wherever an operand is due, in whatever filter, the calls of a condition succeed and
leave a combinator due. They add exactly the printed text, after the `$filter=` of a count
that still owes it. No scope or group is left open or taken away, and the lambdas are
counted on as printed. -/
theorem Condition.run_adds_print (condition : Condition) (f : Filter) :
    ∃ g, Chain.run ⟨.clause, f⟩ condition.calls = .ok ⟨.operator, g⟩ ∧
      g.text = f.text ++ (if f.scopes.filterPending then "$filter=" else "") ++
        (condition.print f.scopes.bound? f.scopes.lambdasOpened).1 ∧
      g.scopes.frames = f.scopes.settle.frames ∧
      g.scopes.lambdasOpened =
        (condition.print f.scopes.bound? f.scopes.lambdasOpened).2 ∧
      g.openGroups = f.openGroups := by
  obtain ⟨g, made, extended⟩ := condition.makes f
  refine ⟨g, ?_, ?_, extended.frames_eq, extended.lambdasOpened_eq, extended.openGroups_eq⟩
  · simpa [Chain.run] using made []
  · rw [extended.text_eq, text_introduce]

end QueryOptions
