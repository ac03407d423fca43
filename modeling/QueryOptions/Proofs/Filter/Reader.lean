import Mathlib.Data.List.Basic
import QueryOptions.Proofs.Decimal.Numerals
import QueryOptions.Proofs.Filter.Condition

/-!
# Reading names, literals and operators

A word and the character after it tell what comes next in a filter: a name, a
function, a literal or a bracket. Inside a lambda a name starts with the
variable, which the reader knows. Every reader takes a piece from the start of
a text and leaves the rest.
-/

namespace QueryOptions

/-- The characters of names, numbers and keywords. -/
def isWordChar (c : Char) : Bool := c.isAlphanum || c = '_'

theorem isWordChar_of_mem_digits {c : Char} {n : Nat} (written : c ∈ Decimal.digits n) :
    isWordChar c = true := by
  simp [isWordChar, Char.isAlphanum, Decimal.isDigit_of_mem_digits written]

theorem isUpper_eq_false_of_isDigit {c : Char} (digit : c.isDigit = true) :
    c.isUpper = false := by
  have bounds : 48 ≤ c.toNat ∧ c.toNat ≤ 57 := Char.isDigit_iff_toNat.mp digit
  refine decide_eq_false fun upper => ?_
  have low : 65 ≤ c.toNat := UInt32.le_iff_toNat_le.mp upper.1
  omega

/-- No word reaches into the text from before it. -/
def WordEnds (rest : List Char) : Prop := ∀ c ∈ rest.head?, isWordChar c = false

@[simp] theorem wordEnds_cons (c : Char) (rest : List Char) :
    WordEnds (c :: rest) ↔ isWordChar c = false := by
  simp [WordEnds]

/-- The longest word at the start, and what follows it. -/
def readWord (input : List Char) : List Char × List Char :=
  (input.takeWhile isWordChar, input.dropWhile isWordChar)

theorem readWord_append {word rest : List Char} (letters : ∀ c ∈ word, isWordChar c = true)
    (ends : WordEnds rest) : readWord (word ++ rest) = (word, rest) := by
  rw [readWord, List.takeWhile_append_of_pos letters, List.dropWhile_append_of_pos letters]
  cases rest with
  | nil => simp
  | cons c rest =>
      have outside : isWordChar c = false := by simpa using ends
      simp [outside]

theorem readWord_of_ends {input : List Char} (ends : WordEnds input) :
    readWord input = ([], input) := by
  have letters : ∀ c ∈ ([] : List Char), isWordChar c = true := by simp
  exact readWord_append letters ends

/-- What follows a given text at the start. -/
def expect (text : String) (input : List Char) : Option (List Char) :=
  input.dropPrefix? text.toList

theorem expect_eq_some_iff {text : String} {input rest : List Char} :
    expect text input = some rest ↔ input = text.toList ++ rest := by
  simp [expect, List.dropPrefix?_eq_some_iff]

theorem expect_append (text : String) (rest : List Char) :
    expect text (text.toList ++ rest) = some rest :=
  expect_eq_some_iff.mpr rfl

theorem expect_eq_none {text : String} {input : List Char} (other : ¬ text.toList <+: input) :
    expect text input = none := by
  refine Option.eq_none_iff_forall_ne_some.mpr fun rest found => other ⟨rest, ?_⟩
  exact (expect_eq_some_iff.mp found).symm

/-- A capital and further letters, digits and underscores, other than the word `Not`. -/
def isIdentifier (word : List Char) : Bool :=
  word.head?.any Char.isUpper && word.all isWordChar && word ≠ ['N', 'o', 't']

theorem isWordChar_of_isIdentifier {word : List Char} (identifier : isIdentifier word = true) :
    ∀ c ∈ word, isWordChar c = true := by
  simp only [isIdentifier, Bool.and_eq_true, List.all_eq_true] at identifier
  exact identifier.1.2

/-- A name as it is written in a scope; what qualifies it is left out of the result. -/
def readName (bound : Option String) (input : List Char) : Option (String × List Char) :=
  match bound with
  | none =>
    let (word, rest) := readWord input
    if isIdentifier word then some (String.ofList word, rest) else none
  | some bound => do
    let rest ← expect (bound ++ "/") input
    let (word, rest) := readWord rest
    some (String.ofList word, rest)

theorem readName_qualified {bound : Option String} {name : String} {rest : List Char}
    (identifier : isIdentifier name.toList = true) (ends : WordEnds rest) :
    readName bound ((qualified bound name).toList ++ rest) = some (name, rest) := by
  have word := readWord_append (isWordChar_of_isIdentifier identifier) ends
  cases bound with
  | none => simp [readName, qualified, word, identifier]
  | some own =>
      rw [qualified, String.toList_append, List.append_assoc, readName, expect_append]
      simp [word]

def IsScope (bound : Option String) : Prop :=
  ∀ own ∈ bound, ∀ c ∈ own.toList, isWordChar c = true

/-- Without an identifier at the start there is no plain name, and without a slash after
the first word no qualified one. -/
theorem readName_eq_none {bound : Option String} {input : List Char} (scope : IsScope bound)
    (noName : isIdentifier (readWord input).1 = false)
    (noSlash : (readWord input).2.head? ≠ some '/') : readName bound input = none := by
  cases bound with
  | none => simp [readName, noName]
  | some own =>
      -- The variable would be the first word, with the slash after it.
      have other : ¬ (own ++ "/").toList <+: input := by
        rintro ⟨rest, rfl⟩
        have word : readWord (own.toList ++ '/' :: rest) = (own.toList, '/' :: rest) :=
          readWord_append (scope own rfl) (by simp [isWordChar])
        exact noSlash (by simp [word])
      simp [readName, expect_eq_none other]

/-- The text starts with no capital, and neither a slash nor a bracket is after its first
word: it starts with a literal rather than with a name, a function or a bracket. -/
structure LiteralStart (input : List Char) : Prop where
  noCapital : input.head?.any Char.isUpper = false
  noSlash : (readWord input).2.head? ≠ some '/'
  noBracket : (readWord input).2.head? ≠ some '('

theorem isIdentifier_eq_false {input : List Char}
    (noCapital : input.head?.any Char.isUpper = false) :
    isIdentifier (readWord input).1 = false := by
  cases input with
  | nil => rfl
  | cons c rest =>
      have small : c.isUpper = false := by simpa using noCapital
      cases letter : isWordChar c <;> simp [readWord, isIdentifier, letter, small]

theorem LiteralStart.readName_eq {bound : Option String} {input : List Char}
    (start : LiteralStart input) (scope : IsScope bound) : readName bound input = none :=
  readName_eq_none scope (isIdentifier_eq_false start.noCapital) start.noSlash

def wordLiteral? (word : List Char) : Option Literal :=
  if word = ['t', 'r', 'u', 'e'] then some (.bool true)
  else if word = ['f', 'a', 'l', 's', 'e'] then some (.bool false)
  else (Decimal.readNat? 10 word).map fun n => .ofInt n

theorem wordLiteral?_digits (n : Nat) : wordLiteral? (Decimal.digits n) = some (.ofInt n) := by
  have number (c : Char) (rest : List Char) (letter : c.isDigit = false) :
      Decimal.digits n ≠ c :: rest := by
    intro same
    have written : c ∈ Decimal.digits n := same ▸ List.mem_cons_self
    have digit := Decimal.isDigit_of_mem_digits written
    rw [letter] at digit
    cases digit
  simp [wordLiteral?, number, Decimal.readNat?_digits]

def isTextChar (c : Char) : Bool := c ≠ '\''

/-- A literal that is a truth value, a whole number or a text. -/
def readLiteral : List Char → Option (Literal × List Char)
  | '\'' :: input => do
    let rest ← expect "'" (input.dropWhile isTextChar)
    some (.text (String.ofList (input.takeWhile isTextChar)), rest)
  | '-' :: input => do
    let (word, rest) := readWord input
    let n ← Decimal.readNat? 10 word
    some (.ofInt (-n), rest)
  | input =>
    let (word, rest) := readWord input
    (wordLiteral? word).map (·, rest)

namespace Literal

/-- Truth values, whole numbers, and texts without a quote. -/
def isPlain : Literal → Bool
  | .text value => value.toList.all isTextChar
  | .number value => value.scale = 0
  | .bool _ => true
  | _ => false

/-- The ways in which a plain literal is written. -/
inductive Form : Literal → List Char → Prop
  | quoted (value : String) (unquoted : ∀ c ∈ value.toList, isTextChar c = true) :
      Form (.text value) ('\'' :: (value.toList ++ ['\'']))
  | negative (n : Nat) : Form (.ofInt (-n)) ('-' :: Decimal.digits n)
  | word {value : Literal} (c : Char) (rest : List Char) (small : c.isUpper = false)
      (letters : ∀ other ∈ c :: rest, isWordChar other = true)
      (stands : wordLiteral? (c :: rest) = some value) : Form value (c :: rest)

theorem form_digits (n : Nat) : Form (.ofInt n) (Decimal.digits n) := by
  have stands := wordLiteral?_digits n
  cases text : Decimal.digits n with
  | nil => exact absurd text (Decimal.digits_ne_nil n)
  | cons c rest =>
      rw [text] at stands
      have first : c ∈ Decimal.digits n := text ▸ List.mem_cons_self
      have small := isUpper_eq_false_of_isDigit (Decimal.isDigit_of_mem_digits first)
      refine .word c rest small ?_ stands
      intro other written
      exact isWordChar_of_mem_digits (text ▸ written)

theorem form_render {value : Literal} (plain : value.isPlain = true) :
    Form value value.render.toList := by
  cases value with
  | text value =>
      have written : (text value).render.toList = '\'' :: (value.toList ++ ['\'']) := by
        simp [render, Literal.quoted]
      rw [written]
      exact .quoted value (List.all_eq_true.mp plain)
  | number value =>
      obtain ⟨n, scale⟩ := value
      obtain rfl : scale = 0 := by simpa [isPlain] using plain
      have written := Decimal.Scaled.text_ofInt n
      change Form (.ofInt n) (Decimal.Scaled.ofInt n).text.toList
      rw [written]
      cases n with
      | ofNat n => simpa [Decimal.intText] using form_digits n
      | negSucc n =>
          have negative := Form.negative (n + 1)
          simpa [Decimal.intText, Int.negSucc_eq] using negative
  | bool value =>
      cases value with
      | false => exact .word _ _ rfl (List.all_eq_true.mp rfl) rfl
      | true => exact .word _ _ rfl (List.all_eq_true.mp rfl) rfl
  | _ => cases plain

/-- A plain literal is known for one by its start, if a space or a comma follows. -/
theorem start_render {value : Literal} (plain : value.isPlain = true) {c : Char}
    (separates : c = ' ' ∨ c = ',') (rest : List Char) :
    LiteralStart (value.render.toList ++ c :: rest) := by
  have ends : WordEnds (c :: rest) := by rcases separates with rfl | rfl <;> simp [isWordChar]
  have form := form_render plain
  generalize value.render.toList = text at form
  cases form with
  | quoted =>
      constructor <;> simp [readWord, isWordChar]
  | negative n => constructor <;> simp [readWord, isWordChar]
  | word c others small letters =>
      have word := readWord_append letters ends
      rcases separates with rfl | rfl <;> constructor <;> simp_all

theorem readLiteral_render {value : Literal} (plain : value.isPlain = true) {rest : List Char}
    (ends : WordEnds rest) : readLiteral (value.render.toList ++ rest) = some (value, rest) := by
  have form := form_render plain
  generalize value.render.toList = text at form
  cases form with
  | quoted value unquoted =>
      have inside : (value.toList ++ '\'' :: rest).takeWhile isTextChar = value.toList := by
        simp [List.takeWhile_append_of_pos unquoted, isTextChar]
      have after : (value.toList ++ '\'' :: rest).dropWhile isTextChar = '\'' :: rest := by
        simp [List.dropWhile_append_of_pos unquoted, isTextChar]
      have closed : expect "'" ('\'' :: rest) = some rest := expect_append "'" rest
      simp [readLiteral, inside, after, closed]
  | negative n =>
      have digits : readWord (Decimal.digits n ++ rest) = (Decimal.digits n, rest) :=
        readWord_append (fun _ written => isWordChar_of_mem_digits written) ends
      simp [readLiteral, digits, Decimal.readNat?_digits]
  | word c others small letters stands =>
      have word := readWord_append letters ends
      have letter : isWordChar c = true := letters c List.mem_cons_self
      have noQuote : c ≠ '\'' := by
        rintro rfl
        cases letter
      have noMinus : c ≠ '-' := by
        rintro rfl
        cases letter
      rw [List.cons_append] at word ⊢
      simp [readLiteral, noQuote, noMinus, word, stands]

end Literal

theorem isWordChar_of_mem_name (op : CompareOp) :
    ∀ c ∈ op.name.toList, isWordChar c = true :=
  List.all_eq_true.mp (by cases op <;> rfl)

def InfixOp.all : List InfixOp :=
  [⟨.eq, rfl⟩, ⟨.ne, rfl⟩, ⟨.gt, rfl⟩, ⟨.ge, rfl⟩, ⟨.lt, rfl⟩, ⟨.le, rfl⟩]

def infixNamed? (word : List Char) : Option InfixOp :=
  InfixOp.all.find? (·.op.name.toList = word)

theorem infixNamed?_name (op : InfixOp) : infixNamed? op.op.name.toList = some op := by
  obtain ⟨op, between⟩ := op
  cases op <;> cases between <;> decide

def functionNamed? (word : List Char) : Option CompareOp :=
  [.contains, .startsWith, .endsWith].find? (·.name.toList = word)

theorem functionNamed?_name {op : CompareOp} (function : op.isFunction = true) :
    functionNamed? op.name.toList = some op := by
  cases op <;> cases function <;> decide

def readInfix (input : List Char) : Option (InfixOp × List Char) := do
  let input ← expect " " input
  let (word, rest) := readWord input
  let op ← infixNamed? word
  let rest ← expect " " rest
  some (op, rest)

def InfixOp.spaced (op : InfixOp) : String := " " ++ op.op.name ++ " "

theorem readInfix_spaced (op : InfixOp) (rest : List Char) :
    readInfix (op.spaced.toList ++ rest) = some (op, rest) := by
  have word : readWord (op.op.name.toList ++ (" ".toList ++ rest)) =
      (op.op.name.toList, " ".toList ++ rest) :=
    readWord_append (isWordChar_of_mem_name op.op) (by simp [isWordChar])
  simp only [InfixOp.spaced, String.toList_append, List.append_assoc, readInfix, expect_append,
    Option.bind_eq_bind, Option.bind_some, word, infixNamed?_name]

def readComma (input : List Char) : Option (Unit × List Char) :=
  (expect "," input).map ((), ·)

theorem readComma_comma (rest : List Char) : readComma (",".toList ++ rest) = some ((), rest) := by
  rw [readComma, expect_append]
  rfl

/-- A name and a literal in either order, with something between them. -/
def readOperands {σ : Type} (bound : Option String)
    (readBetween : List Char → Option (σ × List Char)) (input : List Char) :
    Option ((String × σ × Literal × OperandOrder) × List Char) :=
  match readName bound input with
  | some (field, rest) => do
    let (between, rest) ← readBetween rest
    let (value, rest) ← readLiteral rest
    some ((field, between, value, .fieldFirst), rest)
  | none => do
    let (value, rest) ← readLiteral input
    let (between, rest) ← readBetween rest
    let (field, rest) ← readName bound rest
    some ((field, between, value, .valueFirst), rest)

/-- Two operands in an order, with something between them. -/
def OperandOrder.arrange (order : OperandOrder) (field between value : String) : String :=
  match order with
  | .fieldFirst => field ++ between ++ value
  | .valueFirst => value ++ between ++ field

def Separates (between : String) : Prop :=
  ∃ c rest, between.toList = c :: rest ∧ (c = ' ' ∨ c = ',')

theorem separates_comma : Separates "," := ⟨',', [], rfl, .inr rfl⟩

theorem separates_spaced (op : InfixOp) : Separates op.spaced :=
  ⟨' ', op.op.name.toList ++ [' '], by simp [InfixOp.spaced], .inl rfl⟩

theorem Separates.ends {between : String} (separates : Separates between) (rest : List Char) :
    WordEnds (between.toList ++ rest) := by
  obtain ⟨c, others, text, rfl | rfl⟩ := separates <;> simp [text, isWordChar]

theorem Separates.start {between : String} (separates : Separates between) {value : Literal}
    (plain : value.isPlain = true) (rest : List Char) :
    LiteralStart (value.render.toList ++ (between.toList ++ rest)) := by
  obtain ⟨c, others, text, first⟩ := separates
  rw [text]
  exact Literal.start_render plain first (others ++ rest)

section

variable {bound : Option String} {field : String} {value : Literal} (scope : IsScope bound)
  (identifier : isIdentifier field.toList = true) (plain : value.isPlain = true)

include scope identifier plain

/-- The operands are told apart by their starts. -/
theorem readOperands_arrange {σ : Type} {readBetween : List Char → Option (σ × List Char)}
    {between : String} {found : σ} (separates : Separates between)
    (readsBetween : ∀ rest, readBetween (between.toList ++ rest) = some (found, rest))
    (order : OperandOrder) {rest : List Char} (ends : WordEnds rest) :
    readOperands bound readBetween
        ((order.arrange (qualified bound field) between value.render).toList ++ rest) =
      some ((field, found, value, order), rest) := by
  cases order with
  | fieldFirst =>
      simp only [OperandOrder.arrange, String.toList_append, List.append_assoc, readOperands,
        readName_qualified identifier (separates.ends _), readsBetween,
        Literal.readLiteral_render plain ends, Option.bind_eq_bind, Option.bind_some]
  | valueFirst =>
      have start := separates.start plain ((qualified bound field).toList ++ rest)
      simp only [OperandOrder.arrange, String.toList_append, List.append_assoc, readOperands,
        start.readName_eq scope, Literal.readLiteral_render plain (separates.ends _), readsBetween,
        readName_qualified identifier ends, Option.bind_eq_bind, Option.bind_some]

theorem noBracket_arrange (order : OperandOrder) (op : InfixOp) (rest : List Char) :
    (readWord ((order.arrange (qualified bound field) op.spaced value.render).toList ++
      rest)).2.head? ≠ some '(' := by
  cases order with
  | fieldFirst =>
      obtain ⟨c, others, text, first⟩ := separates_spaced op
      have noBracket : c ≠ '(' := by rcases first with rfl | rfl <;> decide
      have ends := (separates_spaced op).ends (value.render.toList ++ rest)
      simp only [OperandOrder.arrange, String.toList_append, List.append_assoc, text,
        List.cons_append] at ends ⊢
      cases bound with
      | none =>
          rw [qualified, readWord_append (isWordChar_of_isIdentifier identifier) ends]
          simpa using noBracket
      | some own =>
          simp only [qualified, String.toList_append, List.append_assoc]
          rw [readWord_append (scope own rfl) (by simp [isWordChar])]
          simp
  | valueFirst =>
      have start := (separates_spaced op).start plain ((qualified bound field).toList ++ rest)
      simpa [OperandOrder.arrange] using start.noBracket

end

/-- A function is told by the bracket after its name. -/
def readComparison (bound : Option String) (input : List Char) :
    Option (Comparison × List Char) :=
  match readWord input, functionNamed? (readWord input).1 with
  | (_, '(' :: rest), some op => do
    let ((field, _, value, order), rest) ← readOperands bound readComma rest
    let rest ← expect ")" rest
    some (⟨field, op, value, order⟩, rest)
  | _, _ => do
    let ((field, op, value, order), rest) ← readOperands bound readInfix input
    some (⟨field, op.op, value, order⟩, rest)

theorem readComparison_function (bound : Option String) {op : CompareOp}
    (function : op.isFunction = true) (rest : List Char) :
    readComparison bound (op.name.toList ++ ("(".toList ++ rest)) = (do
      let ((field, _, value, order), rest) ← readOperands bound readComma rest
      let rest ← expect ")" rest
      some (⟨field, op, value, order⟩, rest)) := by
  have word : readWord (op.name.toList ++ ("(".toList ++ rest)) = (op.name.toList, '(' :: rest) :=
    readWord_append (isWordChar_of_mem_name op) (by simp [isWordChar])
  simp only [readComparison, word, functionNamed?_name function]

/-- Where the first word opens no bracket, an operator stands between the operands. -/
theorem readComparison_of_noBracket (bound : Option String) {input : List Char}
    (noBracket : (readWord input).2.head? ≠ some '(') :
    readComparison bound input = (do
      let ((field, op, value, order), rest) ← readOperands bound readInfix input
      some (⟨field, op.op, value, order⟩, rest)) := by
  unfold readComparison
  split
  next after op word _ => simp [word] at noBracket
  next => rfl

/-- The four ways in which a comparison is written are two, each in two orders. -/
theorem Comparison.written_eq_arrange (c : Comparison) (field : String) :
    c.written field =
      if c.op.isFunction then c.op.name ++ "(" ++ c.order.arrange field "," c.value.render ++ ")"
      else c.order.arrange field (" " ++ c.op.name ++ " ") c.value.render := by
  cases function : c.op.isFunction <;> cases order : c.order <;>
    simp [written, OperandOrder.arrange, function, order, String.append_assoc]

/-- A comparison is read back from its text, whichever operand is first. -/
theorem readComparison_written {bound : Option String} {c : Comparison} {rest : List Char}
    (scope : IsScope bound) (identifier : isIdentifier c.field.toList = true)
    (plain : c.value.isPlain = true) (ends : WordEnds rest) :
    readComparison bound ((c.written (qualified bound c.field)).toList ++ rest) =
      some (c, rest) := by
  rw [c.written_eq_arrange]
  cases function : c.op.isFunction with
  | true =>
      have closed : WordEnds (")".toList ++ rest) := by simp [isWordChar]
      have operands := readOperands_arrange scope identifier plain separates_comma readComma_comma
        c.order closed
      simp only [if_true, String.toList_append, List.append_assoc,
        readComparison_function bound function, operands, Option.bind_eq_bind, Option.bind_some,
        expect_append]
  | false =>
      have op : (⟨c.op, function⟩ : InfixOp).spaced = " " ++ c.op.name ++ " " := rfl
      have operands := readOperands_arrange scope identifier plain
        (separates_spaced ⟨c.op, function⟩) (readInfix_spaced ⟨c.op, function⟩) c.order ends
      have noBracket := noBracket_arrange scope identifier plain c.order ⟨c.op, function⟩ rest
      rw [← op, if_neg (by simp), readComparison_of_noBracket bound noBracket, operands]
      rfl

end QueryOptions
