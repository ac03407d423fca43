import QueryOptions.Filter.Call

/-!
# Filters built by calls in any order

A filter may be built without regard to chains: calls follow each other in any
order, and a close that fails is passed over. `Built` takes such a history
apart into single moves on tokens, scopes and groups. What every filter has in
common is then shown move by move.
-/

namespace QueryOptions

/-- The name that a caller passes with a call. -/
def FilterCall.name? : FilterCall → Option String
  | .compare comparison _ => some comparison.field
  | .beginLambda _ relation | .beginCount relation => some relation
  | _ => none

/-- A name inside a lambda with the given variable, or outside of any. -/
def qualified (bound : Option String) (name : String) : String :=
  match bound with
  | some bound => bound ++ "/" ++ name
  | none => name

namespace ScopeStack

/-- The variable that qualifies names inside the innermost scope. -/
def bound? (s : ScopeStack) : Option String := s.innermost.bind ScopeFrame.bound?

theorem filterPending_iff (s : ScopeStack) :
    s.filterPending = true ↔ ∃ frames, s.frames = .count true :: frames := by
  unfold filterPending
  split <;> simp_all

theorem settle_of_pending {s : ScopeStack} {frames : List ScopeFrame}
    (pending : s.frames = .count true :: frames) :
    s.settle = { s with frames := .count false :: frames } := by
  simp [settle, pending]

theorem settle_of_settled {s : ScopeStack} (settled : s.filterPending = false) :
    s.settle = s := by
  unfold settle
  split
  next frames pending => simp [filterPending, pending] at settled
  next => rfl

@[simp]
theorem filterPending_settle (s : ScopeStack) : s.settle.filterPending = false := by
  cases pending : s.filterPending with
  | false => rw [settle_of_settled pending, pending]
  | true =>
      obtain ⟨frames, opened⟩ := s.filterPending_iff.mp pending
      simp [settle_of_pending opened, filterPending]

@[simp]
theorem settle_settle (s : ScopeStack) : s.settle.settle = s.settle :=
  settle_of_settled s.filterPending_settle

@[simp]
theorem lambdasOpened_settle (s : ScopeStack) : s.settle.lambdasOpened = s.lambdasOpened := by
  unfold settle
  split <;> rfl

/-- A pending `$filter=` changes neither the variable in scope nor the names. -/
@[simp]
theorem bound?_settle (s : ScopeStack) : s.settle.bound? = s.bound? := by
  unfold settle
  split
  next frames pending => simp [bound?, innermost, pending, ScopeFrame.bound?]
  next => rfl

theorem qualify_eq (s : ScopeStack) (name : String) :
    s.qualify name = qualified s.bound? name := rfl

@[simp]
theorem qualify_settle (s : ScopeStack) (name : String) :
    s.settle.qualify name = s.qualify name := by
  simp [qualify_eq]

@[simp]
theorem nextVariable_settle (s : ScopeStack) : s.settle.nextVariable = s.nextVariable := by
  simp [nextVariable]

@[simp] theorem frames_pushLambda (s : ScopeStack) (quantifier : Quantifier) :
    (s.pushLambda quantifier).frames = .lambda quantifier s.nextVariable :: s.frames := rfl

@[simp] theorem lambdasOpened_pushLambda (s : ScopeStack) (quantifier : Quantifier) :
    (s.pushLambda quantifier).lambdasOpened = s.lambdasOpened + 1 := rfl

@[simp] theorem bound?_pushLambda (s : ScopeStack) (quantifier : Quantifier) :
    (s.pushLambda quantifier).bound? = some s.nextVariable := rfl

@[simp] theorem settle_pushLambda (s : ScopeStack) (quantifier : Quantifier) :
    (s.pushLambda quantifier).settle = s.pushLambda quantifier := rfl

@[simp] theorem frames_pushCount (s : ScopeStack) : s.pushCount.frames = .count true :: s.frames :=
  rfl

@[simp] theorem lambdasOpened_pushCount (s : ScopeStack) :
    s.pushCount.lambdasOpened = s.lambdasOpened := rfl

@[simp] theorem bound?_pushCount (s : ScopeStack) : s.pushCount.bound? = none := rfl

@[simp] theorem frames_settle_pushCount (s : ScopeStack) :
    s.pushCount.settle.frames = .count false :: s.frames := rfl

theorem close_of_frame {s : ScopeStack} {frame : ScopeFrame} {frames : List ScopeFrame}
    (opened : s.frames = frame :: frames) :
    s.close frame.kind = .ok { s with frames := frames } := by
  simp [close, opened]

/-- A close succeeds exactly on an innermost scope of its kind. -/
theorem close_cases (s : ScopeStack) (kind : ScopeKind) :
    (∃ frame frames, s.frames = frame :: frames ∧ frame.kind = kind ∧
      s.close kind = .ok { s with frames := frames }) ∨
    ∃ error, s.close kind = .error error := by
  cases opened : s.frames with
  | nil => exact .inr ⟨.underflow kind, by simp [close, opened]⟩
  | cons frame frames =>
      by_cases same : frame.kind = kind
      · exact .inl ⟨frame, frames, rfl, same, same ▸ close_of_frame opened⟩
      · exact .inr ⟨.mismatch kind frame.kind, by simp [close, opened, same]⟩

end ScopeStack

theorem ScopeFrame.kind_eq_lambda_iff {frame : ScopeFrame} {quantifier : Quantifier} :
    frame.kind = .lambda quantifier ↔ ∃ bound, frame = .lambda quantifier bound := by
  cases frame <;> simp [ScopeFrame.kind]

theorem ScopeFrame.kind_eq_count_iff {frame : ScopeFrame} :
    frame.kind = .count ↔ ∃ pending, frame = .count pending := by
  cases frame <;> simp [ScopeFrame.kind]

namespace Filter

@[simp] theorem tokens_append (f : Filter) (token : Token) :
    (f.append token).tokens = f.tokens ++ [token] := rfl

@[simp] theorem scopes_append (f : Filter) (token : Token) :
    (f.append token).scopes = f.scopes := rfl

@[simp] theorem openGroups_append (f : Filter) (token : Token) :
    (f.append token).openGroups = f.openGroups := rfl

@[simp] theorem text_append (f : Filter) (token : Token) :
    (f.append token).text = f.text ++ token.text := by
  simp [text]

theorem introduce_of_pending {f : Filter} {frames : List ScopeFrame}
    (pending : f.scopes.frames = .count true :: frames) :
    f.introduce = { f.append .countFilter with
      scopes := { f.scopes with frames := .count false :: frames } } := by
  simp [introduce, ScopeStack.filterPending, pending, ScopeStack.settle_of_pending pending, append]

theorem introduce_of_settled {f : Filter} (settled : f.scopes.filterPending = false) :
    f.introduce = f := by
  simp [introduce, settled]

@[simp] theorem scopes_introduce (f : Filter) : f.introduce.scopes = f.scopes.settle := by
  cases pending : f.scopes.filterPending with
  | false => rw [introduce_of_settled pending, ScopeStack.settle_of_settled pending]
  | true => simp [introduce, pending]

theorem text_introduce (f : Filter) :
    f.introduce.text = f.text ++ if f.scopes.filterPending then "$filter=" else "" := by
  cases pending : f.scopes.filterPending with
  | false => simp [introduce_of_settled pending]
  | true => simp [introduce, pending, text, Token.text]

@[simp] theorem openGroups_introduce (f : Filter) : f.introduce.openGroups = f.openGroups := by
  unfold introduce
  split <;> rfl

@[simp] theorem scopes_compare (f : Filter) (comparison : Comparison) (negated : Bool) :
    (f.compare comparison negated).scopes = f.scopes.settle := by
  cases negated <;> simp [compare]

@[simp] theorem scopes_negateNext (f : Filter) : f.negateNext.scopes = f.scopes.settle :=
  scopes_introduce f

@[simp] theorem scopes_openGroup (f : Filter) : f.openGroup.scopes = f.scopes.settle :=
  scopes_introduce f

@[simp] theorem scopes_beginLambda (f : Filter) (quantifier : Quantifier) (relation : String) :
    (f.beginLambda quantifier relation).scopes = f.scopes.settle.pushLambda quantifier := by
  simp [beginLambda]

@[simp] theorem scopes_beginCount (f : Filter) (relation : String) :
    (f.beginCount relation).scopes = f.scopes.settle.pushCount := by
  simp [beginCount]

@[simp] theorem scopes_closeGroup (f : Filter) : f.closeGroup.scopes = f.scopes := rfl

@[simp] theorem openGroups_compare (f : Filter) (comparison : Comparison) (negated : Bool) :
    (f.compare comparison negated).openGroups = f.openGroups := by
  cases negated <;> simp [compare]

@[simp] theorem openGroups_negateNext (f : Filter) : f.negateNext.openGroups = f.openGroups :=
  openGroups_introduce f

@[simp] theorem openGroups_openGroup (f : Filter) :
    f.openGroup.openGroups = f.openGroups + 1 := by
  simp [openGroup]

@[simp] theorem openGroups_beginLambda (f : Filter) (quantifier : Quantifier)
    (relation : String) : (f.beginLambda quantifier relation).openGroups = f.openGroups :=
  openGroups_introduce f

@[simp] theorem openGroups_beginCount (f : Filter) (relation : String) :
    (f.beginCount relation).openGroups = f.openGroups :=
  openGroups_introduce f

@[simp] theorem openGroups_closeGroup (f : Filter) :
    f.closeGroup.openGroups = f.openGroups - 1 := rfl

/-- After a call that starts an operand nothing is owed, except inside a new count. -/
@[simp] theorem introduce_negateNext (f : Filter) : f.negateNext.introduce = f.negateNext :=
  introduce_of_settled (by simp)

@[simp] theorem introduce_openGroup (f : Filter) : f.openGroup.introduce = f.openGroup :=
  introduce_of_settled (by simp)

@[simp] theorem introduce_beginLambda (f : Filter) (quantifier : Quantifier) (relation : String) :
    (f.beginLambda quantifier relation).introduce = f.beginLambda quantifier relation :=
  introduce_of_settled rfl

theorem text_negateNext (f : Filter) : f.negateNext.text = f.introduce.text ++ "Not " :=
  text_append _ _

theorem text_openGroup (f : Filter) : f.openGroup.text = f.introduce.text ++ "(" :=
  text_append _ _

theorem text_closeGroup (f : Filter) : f.closeGroup.text = f.text ++ ")" := text_append _ _

theorem text_beginLambda (f : Filter) (quantifier : Quantifier) (relation : String) :
    (f.beginLambda quantifier relation).text = f.introduce.text ++
      (qualified f.scopes.bound? relation ++ "/" ++ quantifier.name ++ "(" ++
        variableName f.scopes.lambdasOpened ++ ":") :=
  text_append _ _

/-- The text of a new count together with the `$filter=` that it owes. -/
theorem text_introduce_beginCount (f : Filter) (relation : String) :
    (f.beginCount relation).introduce.text = f.introduce.text ++
      (qualified f.scopes.bound? relation ++ "/count($filter=") := by
  have opened : (f.beginCount relation).scopes.frames = .count true :: f.scopes.settle.frames := by
    simp
  have text : (f.beginCount relation).text =
      f.introduce.text ++ (qualified f.scopes.bound? relation ++ "/count(") := text_append _ _
  rw [introduce_of_pending opened]
  calc
    _ = (f.beginCount relation).text ++ "$filter=" := text_append _ _
    _ = _ := by simp [text, String.append_assoc]

/-- A combinator is merged into a comparison at the end, or appended after
anything else. -/
theorem combine_cases (f : Filter) (combinator : Combinator) :
    (∃ before comparison trailing,
      f.tokens = before ++ [.comparison comparison trailing] ∧
      f.combine combinator =
        { f with tokens := before ++ [.comparison comparison (some combinator)] }) ∨
    ((∀ before comparison trailing, f.tokens ≠ before ++ [.comparison comparison trailing]) ∧
      f.combine combinator = f.append (.combinator combinator)) := by
  unfold combine
  split
  next comparison trailing last =>
    obtain ⟨before, tokens⟩ := List.getLast?_eq_some_iff.mp last
    exact .inl ⟨before, comparison, trailing, tokens, by simp [tokens]⟩
  next structural =>
    refine .inr ⟨?_, rfl⟩
    intro before comparison trailing tokens
    exact structural comparison trailing (by simp [tokens])

/-- A filter after a close that leaves the given frames open. -/
def closing (f : Filter) (frames : List ScopeFrame) : Filter :=
  { f.append .scopeClose with scopes := { f.scopes with frames := frames } }

@[simp] theorem tokens_closing (f : Filter) (frames : List ScopeFrame) :
    (f.closing frames).tokens = f.tokens ++ [.scopeClose] := rfl

@[simp] theorem scopes_closing (f : Filter) (frames : List ScopeFrame) :
    (f.closing frames).scopes = { f.scopes with frames := frames } := rfl

@[simp] theorem openGroups_closing (f : Filter) (frames : List ScopeFrame) :
    (f.closing frames).openGroups = f.openGroups := rfl

@[simp] theorem text_closing (f : Filter) (frames : List ScopeFrame) :
    (f.closing frames).text = f.text ++ ")" :=
  text_append f .scopeClose

theorem closeScope_of_frame {f : Filter} {frame : ScopeFrame} {frames : List ScopeFrame}
    (opened : f.scopes.frames = frame :: frames) :
    f.closeScope frame.kind = .ok (f.closing frames) := by
  simp [closeScope, ScopeStack.close_of_frame opened, closing]

theorem closeScope_cases (f : Filter) (kind : ScopeKind) :
    (∃ frame frames, f.scopes.frames = frame :: frames ∧ frame.kind = kind ∧
      f.closeScope kind = .ok (f.closing frames)) ∨
    ∃ error, f.closeScope kind = .error error := by
  rcases f.scopes.close_cases kind with
    ⟨frame, frames, opened, same, closed⟩ | ⟨error, failed⟩
  · exact .inl ⟨frame, frames, opened, same, same ▸ closeScope_of_frame opened⟩
  · exact .inr ⟨error, by simp [closeScope, failed]⟩

/-- Makes a call regardless of its place; a close that fails leaves no trace. -/
def attempt (f : Filter) (call : FilterCall) : Filter :=
  match f.perform call with
  | .ok reached => reached
  | .error _ => f

/-- Makes calls one after another, whatever becomes of them. -/
def attempts (f : Filter) (calls : List FilterCall) : Filter := calls.foldl attempt f

end Filter

open QueryOptions.Filter

/-- How a filter comes about from the empty one, move by move, together with
the names that the callers have passed. -/
inductive Built : List String → Filter → Prop
  | empty : Built [] {}
  | introduce {names f frames} : Built names f → f.scopes.frames = .count true :: frames →
      Built names { f.append .countFilter with
        scopes := { f.scopes with frames := .count false :: frames } }
  | compare {names f} (comparison : Comparison) : Built names f →
      f.scopes.filterPending = false →
      Built (names ++ [comparison.field]) (f.append
        (.comparison { comparison with field := f.scopes.qualify comparison.field } none))
  | negate {names f} : Built names f → f.scopes.filterPending = false →
      Built names (f.append .negation)
  | openGroup {names f} : Built names f → f.scopes.filterPending = false →
      Built names { f.append .openGroup with openGroups := f.openGroups + 1 }
  | closeGroup {names f} : Built names f → Built names f.closeGroup
  | beginLambda {names f} (quantifier : Quantifier) (relation : String) : Built names f →
      f.scopes.filterPending = false →
      Built (names ++ [relation])
        { f.append (.lambdaOpen (f.scopes.qualify relation) quantifier f.scopes.nextVariable) with
          scopes := f.scopes.pushLambda quantifier }
  | beginCount {names f} (relation : String) : Built names f →
      f.scopes.filterPending = false →
      Built (names ++ [relation])
        { f.append (.countOpen (f.scopes.qualify relation)) with scopes := f.scopes.pushCount }
  | merge {names f before comparison trailing} (combinator : Combinator) : Built names f →
      f.tokens = before ++ [.comparison comparison trailing] →
      Built names { f with tokens := before ++ [.comparison comparison (some combinator)] }
  | join {names f} (combinator : Combinator) : Built names f →
      (∀ before comparison trailing, f.tokens ≠ before ++ [.comparison comparison trailing]) →
      Built names (f.append (.combinator combinator))
  | endLambda {names f quantifier bound frames} : Built names f →
      f.scopes.frames = .lambda quantifier bound :: frames →
      Built names (f.closing frames)
  | endCount {names f pending frames} (op : CompareOp) (value : Literal) : Built names f →
      f.scopes.frames = .count pending :: frames →
      Built names ((f.closing frames).append (.comparison ⟨"", op, value, .fieldFirst⟩ none))

namespace Built

variable {names : List String} {f : Filter}

/-- Introducing the condition of a count is a move where it is owed and none elsewhere. -/
theorem introduced (built : Built names f) : Built names f.introduce := by
  cases pending : f.scopes.filterPending with
  | false => rwa [introduce_of_settled pending]
  | true =>
      obtain ⟨frames, opened⟩ := f.scopes.filterPending_iff.mp pending
      rw [introduce_of_pending opened]
      exact .introduce built opened

theorem combined (built : Built names f) (combinator : Combinator) :
    Built names (f.combine combinator) := by
  rcases f.combine_cases combinator with
    ⟨before, comparison, trailing, last, merged⟩ | ⟨last, joined⟩
  · rw [merged]
    exact .merge combinator built last
  · rw [joined]
    exact .join combinator built last

theorem negated (built : Built names f) : Built names f.negateNext :=
  built.introduced.negate (by simp)

theorem compared (built : Built names f) (comparison : Comparison) (negated : Bool) :
    Built (names ++ [comparison.field]) (f.compare comparison negated) := by
  have settled : f.introduce.scopes.filterPending = false := by simp
  unfold Filter.compare
  rw [← ScopeStack.qualify_settle, ← scopes_introduce]
  cases negated with
  | false => exact built.introduced.compare comparison settled
  | true => exact (built.introduced.negate settled).compare comparison settled

theorem groupOpened (built : Built names f) : Built names f.openGroup :=
  built.introduced.openGroup (by simp)

theorem lambdaBegun (built : Built names f) (quantifier : Quantifier) (relation : String) :
    Built (names ++ [relation]) (f.beginLambda quantifier relation) := by
  unfold Filter.beginLambda
  rw [← ScopeStack.qualify_settle, ← ScopeStack.nextVariable_settle, ← scopes_introduce]
  exact built.introduced.beginLambda quantifier relation (by simp)

theorem countBegun (built : Built names f) (relation : String) :
    Built (names ++ [relation]) (f.beginCount relation) := by
  unfold Filter.beginCount
  rw [← ScopeStack.qualify_settle, ← scopes_introduce]
  exact built.introduced.beginCount relation (by simp)

/-- Any call takes a filter that came about by moves to another one. -/
theorem attempt (built : Built names f) (call : FilterCall) :
    Built (names ++ call.name?.toList) (f.attempt call) := by
  cases call with
  | compare comparison negated => exact built.compared comparison negated
  | negateNext => simpa [Filter.attempt, perform, FilterCall.name?] using built.negated
  | openGroup => simpa [Filter.attempt, perform, FilterCall.name?] using built.groupOpened
  | closeGroup => simpa [Filter.attempt, perform, FilterCall.name?] using built.closeGroup
  | endGroup => simpa [Filter.attempt, perform, FilterCall.name?] using built.closeGroup
  | beginLambda quantifier relation => exact built.lambdaBegun quantifier relation
  | beginCount relation => exact built.countBegun relation
  | combine combinator =>
      simpa [Filter.attempt, perform, FilterCall.name?] using built.combined combinator
  | endLambda quantifier =>
      rcases f.closeScope_cases (.lambda quantifier) with
        ⟨frame, frames, opened, same, closed⟩ | ⟨error, failed⟩
      · obtain ⟨bound, rfl⟩ := ScopeFrame.kind_eq_lambda_iff.mp same
        simpa [Filter.attempt, perform, closed, FilterCall.name?] using built.endLambda opened
      · simpa [Filter.attempt, perform, failed, FilterCall.name?] using built
  | endCount op value =>
      rcases f.closeScope_cases .count with
        ⟨frame, frames, opened, same, closed⟩ | ⟨error, failed⟩
      · obtain ⟨pending, rfl⟩ := ScopeFrame.kind_eq_count_iff.mp same
        simpa [Filter.attempt, perform, closeCount, closed, FilterCall.name?] using
          built.endCount op value opened
      · simpa [Filter.attempt, perform, closeCount, failed, FilterCall.name?] using built

theorem attempts (built : Built names f) (calls : List FilterCall) :
    Built (names ++ calls.filterMap FilterCall.name?) (f.attempts calls) := by
  induction calls generalizing names f with
  | nil => simpa [Filter.attempts] using built
  | cons call calls inductionHypothesis =>
      have reached := inductionHypothesis (built.attempt call)
      have named : (call :: calls).filterMap FilterCall.name? =
          call.name?.toList ++ calls.filterMap FilterCall.name? := by
        cases name : call.name? <;> simp [name]
      rw [named, ← List.append_assoc]
      exact reached

end Built

/-- Every filter that calls build comes about by moves. -/
theorem Filter.built_attempts (calls : List FilterCall) :
    Built (calls.filterMap FilterCall.name?) (attempts {} calls) :=
  Built.empty.attempts calls

end QueryOptions
