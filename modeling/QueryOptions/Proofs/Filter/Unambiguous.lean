import QueryOptions.Proofs.Filter.Binding
import QueryOptions.Proofs.Filter.Reader

/-!
# Filters read back

The text of a filter determines its condition, as long as names are
identifiers and literals are plain. The reader works through the text from the
left and takes one operand after another; the variable of a lambda is the one
that the number of lambdas before it calls for.
-/

namespace QueryOptions

/-- How an operand starts that has others inside. -/
inductive Opening where
  | negation
  | group
  | lambda (quantifier : Quantifier) (relation : String)
  | count (relation : String)

def Quantifier.opened (quantifier : Quantifier) (lambdas : Nat) : String :=
  "/" ++ quantifier.name ++ "(" ++ variableName lambdas ++ ":"

/-- What opens after the name of a relation. -/
def readScope (lambdas : Nat) (relation : String) (input : List Char) :
    Option (Opening × List Char) :=
  match expect (Quantifier.any.opened lambdas) input with
  | some rest => some (.lambda .any relation, rest)
  | none =>
    match expect (Quantifier.all.opened lambdas) input with
    | some rest => some (.lambda .all relation, rest)
    | none => (expect "/count($filter=" input).map (.count relation, ·)

theorem readScope_lambda (lambdas : Nat) (relation : String) (quantifier : Quantifier)
    (rest : List Char) :
    readScope lambdas relation ((quantifier.opened lambdas).toList ++ rest) =
      some (.lambda quantifier relation, rest) := by
  cases quantifier with
  | any => rw [readScope, expect_append]
  | all =>
      have noAny : expect (Quantifier.any.opened lambdas)
          ((Quantifier.all.opened lambdas).toList ++ rest) = none :=
        expect_eq_none (by simp [Quantifier.opened, Quantifier.name])
      rw [readScope, noAny, expect_append]

theorem readScope_count (lambdas : Nat) (relation : String) (rest : List Char) :
    readScope lambdas relation ("/count($filter=".toList ++ rest) =
      some (.count relation, rest) := by
  have noLambda (quantifier : Quantifier) :
      expect (quantifier.opened lambdas) ("/count($filter=".toList ++ rest) = none :=
    expect_eq_none (by cases quantifier <;> simp [Quantifier.opened, Quantifier.name])
  rw [readScope, noLambda, noLambda, expect_append]
  rfl

theorem readScope_eq_none (lambdas : Nat) (relation : String) {input : List Char}
    (noSlash : input.head? ≠ some '/') : readScope lambdas relation input = none := by
  have other (text : String) (rest : List Char) (slash : text.toList = '/' :: rest) :
      expect text input = none := by
    refine expect_eq_none ?_
    rintro ⟨after, rfl⟩
    exact noSlash (by simp [slash])
  have noLambda (quantifier : Quantifier) : expect (quantifier.opened lambdas) input = none :=
    other _ _ (by simp [Quantifier.opened]; rfl)
  rw [readScope, noLambda, noLambda, other "/count($filter=" _ rfl]
  rfl

def readOpening (bound : Option String) (lambdas : Nat) (input : List Char) :
    Option (Opening × List Char) :=
  match readName bound input with
  | some (relation, rest) => readScope lambdas relation rest
  | none =>
    match expect "Not " input with
    | some rest => some (.negation, rest)
    | none => (expect "(" input).map (.group, ·)

section

variable (bound : Option String) (lambdas : Nat)

theorem readOpening_lambda {relation : String} (identifier : isIdentifier relation.toList = true)
    (quantifier : Quantifier) (rest : List Char) :
    readOpening bound lambdas
        ((qualified bound relation).toList ++ ((quantifier.opened lambdas).toList ++ rest)) =
      some (.lambda quantifier relation, rest) := by
  have ends : WordEnds ((quantifier.opened lambdas).toList ++ rest) := by
    simp [Quantifier.opened, isWordChar]
  simp only [readOpening, readName_qualified identifier ends, readScope_lambda]

theorem readOpening_count {relation : String} (identifier : isIdentifier relation.toList = true)
    (rest : List Char) :
    readOpening bound lambdas
        ((qualified bound relation).toList ++ ("/count($filter=".toList ++ rest)) =
      some (.count relation, rest) := by
  have ends : WordEnds ("/count($filter=".toList ++ rest) := by simp [isWordChar]
  simp only [readOpening, readName_qualified identifier ends, readScope_count]

variable {bound} (scope : IsScope bound)

include scope

theorem readOpening_negation (rest : List Char) :
    readOpening bound lambdas ("Not ".toList ++ rest) = some (.negation, rest) := by
  have word : readWord ("Not".toList ++ (" ".toList ++ rest)) =
      ("Not".toList, " ".toList ++ rest) :=
    readWord_append (List.all_eq_true.mp rfl) (by simp [isWordChar])
  have noName : readName bound ("Not".toList ++ (" ".toList ++ rest)) = none :=
    readName_eq_none scope (by rw [word]; rfl) (by rw [word]; simp)
  have together : "Not ".toList ++ rest = "Not".toList ++ (" ".toList ++ rest) := by simp
  rw [readOpening, together, noName, ← together, expect_append]

theorem readOpening_group (rest : List Char) :
    readOpening bound lambdas ("(".toList ++ rest) = some (.group, rest) := by
  have word : readWord ("(".toList ++ rest) = ([], "(".toList ++ rest) :=
    readWord_of_ends (by simp [isWordChar])
  have noName : readName bound ("(".toList ++ rest) = none :=
    readName_eq_none scope (by rw [word]; rfl) (by rw [word]; simp)
  have noNegation : expect "Not " ("(".toList ++ rest) = none := expect_eq_none (by simp)
  rw [readOpening, noName, noNegation, expect_append]
  rfl

/-- What is no name, no negation and no bracket opens nothing. -/
theorem readOpening_of_literalStart {input : List Char} (start : LiteralStart input) :
    readOpening bound lambdas input = none := by
  have noNegation : expect "Not " input = none := by
    refine expect_eq_none ?_
    rintro ⟨rest, rfl⟩
    cases start.noCapital
  have noGroup : expect "(" input = none := by
    refine expect_eq_none ?_
    rintro ⟨rest, rfl⟩
    have word : readWord ("(".toList ++ rest) = ([], "(".toList ++ rest) :=
      readWord_of_ends (by simp [isWordChar])
    exact start.noBracket (by rw [word]; rfl)
  rw [readOpening, start.readName_eq scope, noNegation, noGroup]
  rfl

theorem readOpening_function {op : CompareOp} (function : op.isFunction = true)
    (rest : List Char) :
    readOpening bound lambdas (op.name.toList ++ ("(".toList ++ rest)) = none := by
  have word : readWord (op.name.toList ++ ("(".toList ++ rest)) =
      (op.name.toList, "(".toList ++ rest) :=
    readWord_append (isWordChar_of_mem_name op) (by simp [isWordChar])
  have noName : readName bound (op.name.toList ++ ("(".toList ++ rest)) = none :=
    readName_eq_none scope (by rw [word]; cases op <;> rfl) (by rw [word]; simp)
  have noNegation : expect "Not " (op.name.toList ++ ("(".toList ++ rest)) = none :=
    expect_eq_none (by cases op <;> simp [CompareOp.name])
  have noGroup : expect "(" (op.name.toList ++ ("(".toList ++ rest)) = none :=
    expect_eq_none (by cases op <;> simp [CompareOp.name])
  rw [readOpening, noName, noNegation, noGroup]
  rfl

theorem readOpening_written {c : Comparison} (identifier : isIdentifier c.field.toList = true)
    (plain : c.value.isPlain = true) (rest : List Char) :
    readOpening bound lambdas ((c.written (qualified bound c.field)).toList ++ rest) = none := by
  rw [c.written_eq_arrange]
  cases function : c.op.isFunction with
  | true =>
      simp only [if_true, String.toList_append, List.append_assoc]
      exact readOpening_function lambdas scope function _
  | false =>
      have separates : Separates (" " ++ c.op.name ++ " ") := separates_spaced ⟨c.op, function⟩
      simp only [if_neg, Bool.false_eq_true, not_false_eq_true]
      cases c.order with
      | fieldFirst =>
          have ends := separates.ends (c.value.render.toList ++ rest)
          simp only [OperandOrder.arrange, String.toList_append, List.append_assoc] at ends ⊢
          rw [readOpening, readName_qualified identifier ends]
          exact readScope_eq_none lambdas _ (by simp)
      | valueFirst =>
          have start := separates.start plain ((qualified bound c.field).toList ++ rest)
          simp only [OperandOrder.arrange, String.toList_append, List.append_assoc] at start ⊢
          exact readOpening_of_literalStart lambdas scope start

end

def readCombinator (input : List Char) : Option (Combinator × List Char) :=
  match expect " and " input with
  | some rest => some (.and, rest)
  | none => (expect " or " input).map (.or, ·)

theorem readCombinator_text (combinator : Combinator) (rest : List Char) :
    readCombinator (combinator.text.toList ++ rest) = some (combinator, rest) := by
  cases combinator with
  | and => rw [Combinator.text, readCombinator, expect_append]
  | or =>
      have noAnd : expect " and " (" or ".toList ++ rest) = none := expect_eq_none (by simp)
      rw [Combinator.text, readCombinator, noAnd, expect_append]
      rfl

/-- A condition ends with the text or before the bracket that closes it. -/
def Closes (rest : List Char) : Prop := ∀ c ∈ rest.head?, c = ')'

theorem closes_nil : Closes [] := by simp [Closes]

theorem closes_bracket (rest : List Char) : Closes (")".toList ++ rest) := by simp [Closes]

theorem Closes.ends {rest : List Char} (closes : Closes rest) : WordEnds rest := by
  intro c first
  rw [closes c first]
  decide

theorem Closes.readCombinator_eq {rest : List Char} (closes : Closes rest) :
    readCombinator rest = none := by
  have other (text : String) (after : List Char) (space : text.toList = ' ' :: after) :
      expect text rest = none := by
    refine expect_eq_none ?_
    rintro ⟨after, rfl⟩
    have bracket := closes ' ' (by simp [space])
    cases bracket
  rw [readCombinator, other " and " _ rfl, other " or " _ rfl]
  rfl

mutual

/-- An operand after so many lambdas, with the lambdas after it and the rest. -/
def readOperand :
    Nat → Option String → Nat → List Char → Option (Operand × Nat × List Char)
  | 0, _, _, _ => none
  | fuel + 1, bound, lambdas, input =>
    match readOpening bound lambdas input with
    | some (.negation, rest) => do
      let (operand, lambdas, rest) ← readOperand fuel bound lambdas rest
      some (.negation operand, lambdas, rest)
    | some (.group, rest) => do
      let (body, lambdas, rest) ← readCondition fuel bound lambdas rest
      let rest ← expect ")" rest
      some (.group body, lambdas, rest)
    | some (.lambda quantifier relation, rest) => do
      let (body, lambdas, rest) ←
        readCondition fuel (some (variableName lambdas)) (lambdas + 1) rest
      let rest ← expect ")" rest
      some (.lambda quantifier relation body, lambdas, rest)
    | some (.count relation, rest) => do
      let (body, lambdas, rest) ← readCondition fuel none lambdas rest
      let rest ← expect ")" rest
      let (op, rest) ← readInfix rest
      let (value, rest) ← readLiteral rest
      some (.count relation body op value, lambdas, rest)
    | none => do
      let (comparison, rest) ← readComparison bound input
      some (.comparison comparison, lambdas, rest)

def readCondition :
    Nat → Option String → Nat → List Char → Option (Condition × Nat × List Char)
  | 0, _, _, _ => none
  | fuel + 1, bound, lambdas, input => do
    let (operand, lambdas, rest) ← readOperand fuel bound lambdas input
    match readCombinator rest with
    | some (combinator, rest) =>
      let (others, lambdas, rest) ← readCondition fuel bound lambdas rest
      some (.joined operand combinator others, lambdas, rest)
    | none => some (.single operand, lambdas, rest)

end

/-- The condition that a whole text is written for. A step never reads less than a
character, so the length of the text bounds the depth. -/
def Condition.read? (text : String) : Option Condition :=
  match readCondition (text.toList.length + 2) none 0 text.toList with
  | some (condition, _, []) => some condition
  | _ => none

mutual

/-- All names are identifiers and all literals are plain. -/
def Condition.isPlain : Condition → Bool
  | .single operand => operand.isPlain
  | .joined operand _ rest => operand.isPlain && rest.isPlain

def Operand.isPlain : Operand → Bool
  | .comparison comparison => isIdentifier comparison.field.toList && comparison.value.isPlain
  | .negation operand => operand.isPlain
  | .group body => body.isPlain
  | .lambda _ relation body => isIdentifier relation.toList && body.isPlain
  | .count relation body _ value =>
    isIdentifier relation.toList && body.isPlain && value.isPlain

end

theorem isScope_none : IsScope none := by simp [IsScope]

theorem isScope_variableName (index : Nat) : IsScope (some (variableName index)) := by
  rintro own ⟨⟩ c written
  rw [toList_variableName, List.mem_cons] at written
  rcases written with rfl | round
  · have letters : ∀ letter ∈ variableLetters, isWordChar letter = true :=
      List.all_eq_true.mp rfl
    have less : index % 26 < variableLetters.length := Nat.mod_lt _ (by decide)
    rw [List.getD_eq_getElem _ _ less]
    exact letters _ (List.getElem_mem less)
  · cases rounds : index / 26 with
    | zero => simp [rounds, roundText] at round
    | succ number =>
        rw [rounds] at round
        exact isWordChar_of_mem_digits round

mutual

/-- An operand is read back from its text, wherever it stands. -/
theorem readOperand_print (operand : Operand) {bound : Option String} (fuel lambdas : Nat)
    {rest : List Char} (plain : operand.isPlain = true) (scope : IsScope bound)
    (ends : WordEnds rest) (enough : (operand.print bound lambdas).1.length < fuel) :
    readOperand fuel bound lambdas ((operand.print bound lambdas).1.toList ++ rest) =
      some (operand, (operand.print bound lambdas).2, rest) := by
  -- The induction is on the tree; fuel only has to stay ahead of the text that is left.
  obtain ⟨fuel, rfl⟩ : ∃ less, fuel = less + 1 := Nat.exists_eq_add_one_of_ne_zero (by omega)
  cases operand with
  | comparison comparison =>
      simp only [Operand.isPlain, Bool.and_eq_true] at plain
      simp only [Operand.print, readOperand]
      rw [readOpening_written lambdas scope plain.1 plain.2,
        readComparison_written scope plain.1 plain.2 ends]
      rfl
  | negation operand =>
      simp only [Operand.print, String.length_append] at enough
      have length : "Not ".length = 4 := rfl
      have inside := readOperand_print operand fuel lambdas plain scope ends (by omega)
      simp only [Operand.print, String.toList_append, List.append_assoc, readOperand,
        readOpening_negation lambdas scope, inside, Option.bind_eq_bind, Option.bind_some]
  | group body =>
      simp only [Operand.print, String.length_append] at enough
      have lengths : "(".length = 1 ∧ ")".length = 1 := ⟨rfl, rfl⟩
      have inside := readCondition_print body fuel lambdas plain scope (closes_bracket rest)
        (by omega)
      simp only [Operand.print, String.toList_append, List.append_assoc, readOperand,
        readOpening_group lambdas scope, inside, Option.bind_eq_bind, Option.bind_some,
        expect_append]
  | lambda quantifier relation body =>
      simp only [Operand.isPlain, Bool.and_eq_true] at plain
      simp only [Operand.print, String.length_append] at enough
      have lengths : "(".length = 1 ∧ ")".length = 1 := ⟨rfl, rfl⟩
      have inside := readCondition_print body fuel (lambdas + 1) plain.2
        (isScope_variableName lambdas) (closes_bracket rest) (by omega)
      have opening (after : List Char) := readOpening_lambda bound lambdas plain.1 quantifier after
      simp only [Quantifier.opened, String.toList_append, List.append_assoc] at opening
      simp only [Operand.print, String.toList_append, List.append_assoc, readOperand,
        opening, inside, Option.bind_eq_bind, Option.bind_some, expect_append]
  | count relation body op value =>
      simp only [Operand.isPlain, Bool.and_eq_true] at plain
      obtain ⟨⟨identifier, bodyPlain⟩, valuePlain⟩ := plain
      simp only [Operand.print, String.length_append] at enough
      have lengths : "/count($filter=".length = 15 ∧ ") ".length = 2 := ⟨rfl, rfl⟩
      have result : ") ".toList = ")".toList ++ " ".toList := by simp
      have inside (after : List Char) := readCondition_print body fuel lambdas bodyPlain
        isScope_none (closes_bracket after) (by omega)
      have operator (after : List Char) := readInfix_spaced op after
      simp only [InfixOp.spaced, String.toList_append, List.append_assoc] at operator
      simp only [Operand.print, String.toList_append, List.append_assoc, readOperand, result,
        readOpening_count bound lambdas identifier, inside, Option.bind_eq_bind, Option.bind_some,
        expect_append, operator, Literal.readLiteral_render valuePlain ends]

/-- A condition is read back from its text, at the end or before a closing bracket. -/
theorem readCondition_print (condition : Condition) {bound : Option String} (fuel lambdas : Nat)
    {rest : List Char} (plain : condition.isPlain = true) (scope : IsScope bound)
    (closes : Closes rest) (enough : (condition.print bound lambdas).1.length + 1 < fuel) :
    readCondition fuel bound lambdas ((condition.print bound lambdas).1.toList ++ rest) =
      some (condition, (condition.print bound lambdas).2, rest) := by
  obtain ⟨fuel, rfl⟩ : ∃ less, fuel = less + 1 := Nat.exists_eq_add_one_of_ne_zero (by omega)
  cases condition with
  | single operand =>
      simp only [Condition.print] at enough
      have inside := readOperand_print operand fuel lambdas plain scope closes.ends (by omega)
      simp only [Condition.print, readCondition, inside, Option.bind_eq_bind, Option.bind_some,
        closes.readCombinator_eq]
  | joined operand combinator others =>
      simp only [Condition.isPlain, Bool.and_eq_true] at plain
      simp only [Condition.print, String.length_append] at enough
      have length : 4 ≤ combinator.text.length := by cases combinator <;> decide
      -- The first operand ends before the space of its combinator.
      have ends (after : List Char) : WordEnds (combinator.text.toList ++ after) := by
        cases combinator <;> simp [Combinator.text, isWordChar]
      have first (after : List Char) := readOperand_print operand fuel lambdas plain.1 scope
        (ends after) (by omega)
      have second := readCondition_print others fuel (operand.print bound lambdas).2 plain.2 scope
        closes (by omega)
      simp only [Condition.print, String.toList_append, List.append_assoc, readCondition, first,
        readCombinator_text, second, Option.bind_eq_bind, Option.bind_some]

end

namespace Condition

/-- The text of a fresh filter on which the calls of a condition have been made. -/
def rendered? (condition : Condition) : Option String :=
  match Chain.run { filter := {} } condition.calls with
  | .ok chain => chain.filter.render.toOption
  | .error _ => none

theorem rendered?_eq_print (condition : Condition) :
    condition.rendered? = some (condition.print none 0).1 := by
  obtain ⟨f, made, extended⟩ := condition.makes {}
  have ran : Chain.run { filter := {} } condition.calls = .ok ⟨.operator, f⟩ := by
    simpa [Chain.run] using made []
  have closed : f.scopes.frames = [] := extended.frames_eq
  have text : f.text = (condition.print none 0).1 := by
    rw [extended.text_eq]
    exact String.empty_append
  have rendered : f.render = .ok f.text := by
    simp [Filter.render, Filter.renderLogged, ScopeStack.innermost, closed]
  simp [rendered?, ran, rendered, text, Except.toOption]

theorem read?_print {condition : Condition} (plain : condition.isPlain = true) :
    read? (condition.print none 0).1 = some condition := by
  have read := readCondition_print condition ((condition.print none 0).1.toList.length + 2) 0 plain
    isScope_none closes_nil (by rw [String.length_toList]; omega)
  rw [List.append_nil] at read
  rw [read?, read]

/-- A condition with identifiers for names and plain literals is built and rendered without
failure, the reader recovers it from the text, and no other such condition has the same
text. -/
theorem rendered_unambiguous (condition : Condition) (plain : condition.isPlain = true) :
    ∃ text, condition.rendered? = some text ∧ read? text = some condition ∧
      ∀ other : Condition, other.isPlain = true → other.rendered? = some text →
        other = condition := by
  refine ⟨(condition.print none 0).1, condition.rendered?_eq_print, read?_print plain, ?_⟩
  intro other otherPlain rendered
  have sameText : (other.print none 0).1 = (condition.print none 0).1 := by
    rw [other.rendered?_eq_print] at rendered
    exact Option.some.inj rendered
  have sameCondition : some other = some condition := by
    rw [← read?_print otherPlain, sameText, read?_print plain]
  exact Option.some.inj sameCondition

/-- A quoted bracket closes nothing, and a literal before its name hides no name. -/
theorem rendered_unambiguous_quotedBracket :
    let hidden : Operand :=
      .negation (.comparison ⟨"Title", .contains, .text ") or (", .valueFirst⟩)
    let counted : Operand :=
      .count "Tags" (.single (.comparison ⟨"Old", .eq, .bool true, .fieldFirst⟩))
        ⟨.gt, rfl⟩ (.ofInt (-3))
    let condition : Condition :=
      .single (.lambda .any "Posts" (.joined hidden .and (.single counted)))
    condition.isPlain = true ∧
    condition.rendered? = some
      "Posts/any(x:Not contains(') or (',x/Title) and x/Tags/count($filter=Old eq true) gt -3)" ∧
    ∃ text, condition.rendered? = some text ∧ read? text = some condition ∧
      ∀ other : Condition, other.isPlain = true → other.rendered? = some text →
        other = condition := by
  intro hidden counted condition
  have plain : condition.isPlain = true := by decide
  exact ⟨plain, by decide, rendered_unambiguous condition plain⟩

end Condition

end QueryOptions
