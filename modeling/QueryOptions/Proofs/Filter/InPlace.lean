import QueryOptions.Proofs.Filter.Building

/-!
# Filters changed in place

A filter may be built by changing it in place, piece by piece: a token is
written, a scope is taken off the stack, a group is counted. A call that stops
halfway would leave the pieces that it has changed so far. None does: a call
that fails has changed nothing, and it may as well not have been made.
-/

namespace QueryOptions

/-- A change of a filter in place. What was changed before a failure stays changed. -/
abbrev FilterEdit := EStateM CloseError Filter Unit

namespace FilterEdit

def write (token : Token) : FilterEdit := modify fun f => f.append token

def changeScopes (change : ScopeStack → ScopeStack) : FilterEdit :=
  modify fun f => { f with scopes := change f.scopes }

def countGroups (opened : Int) : FilterEdit :=
  modify fun f => { f with openGroups := f.openGroups + opened }

def introduce : FilterEdit := do
  let f ← get
  if f.scopes.filterPending then
    changeScopes .settle
    write .countFilter

def dropScope (kind : ScopeKind) : FilterEdit := do
  let f ← get
  match f.scopes.frames with
  | [] => throw (.underflow kind)
  | frame :: frames =>
    if frame.kind = kind then changeScopes fun s => { s with frames := frames }
    else throw (.mismatch kind frame.kind)

def closeScope (kind : ScopeKind) : FilterEdit := do
  dropScope kind
  write .scopeClose

end FilterEdit

open FilterEdit in
/-- The changes that a call makes, one after another. -/
def FilterCall.edit : FilterCall → FilterEdit
  | .compare comparison negated => do
    introduce
    if negated then write .negation
    let f ← get
    write (.comparison { comparison with field := f.scopes.qualify comparison.field } none)
  | .negateNext => do
    introduce
    write .negation
  | .openGroup => do
    introduce
    write .openGroup
    countGroups 1
  | .closeGroup | .endGroup => do
    write .closeGroup
    countGroups (-1)
  | .beginLambda quantifier relation => do
    introduce
    let f ← get
    changeScopes fun s => s.pushLambda quantifier
    write (.lambdaOpen (f.scopes.qualify relation) quantifier f.scopes.nextVariable)
  | .beginCount relation => do
    introduce
    let f ← get
    changeScopes .pushCount
    write (.countOpen (f.scopes.qualify relation))
  | .combine combinator => modify fun f => f.combine combinator
  | .endLambda quantifier => closeScope (.lambda quantifier)
  | .endCount op value => do
    closeScope .count
    write (.comparison ⟨"", op, value, .fieldFirst⟩ none)

/-- The kind of scope that a call closes. -/
def FilterCall.closes? : FilterCall → Option ScopeKind
  | .endLambda quantifier => some (.lambda quantifier)
  | .endCount .. => some .count
  | _ => none

namespace Filter

/-- A call closes a scope where none is open, or the innermost one is of another kind. -/
inductive Refuses (f : Filter) (call : FilterCall) : CloseError → Prop
  | underflow {kind} : call.closes? = some kind → f.scopes.frames = [] →
      Refuses f call (.underflow kind)
  | mismatch {kind frame frames} : call.closes? = some kind →
      f.scopes.frames = frame :: frames → frame.kind ≠ kind →
      Refuses f call (.mismatch kind frame.kind)

/-- A filter after a change that is made as a whole or not at all. -/
def changedTo (f : Filter) : Except CloseError Filter → EStateM.Result CloseError Filter Unit
  | .ok reached => .ok () reached
  | .error error => .error error f

section Edits

open FilterEdit

variable (f : Filter)

@[simp] theorem run_write (token : Token) : (write token).run f = .ok () (f.append token) := rfl

@[simp] theorem run_changeScopes (change : ScopeStack → ScopeStack) :
    (changeScopes change).run f = .ok () { f with scopes := change f.scopes } := rfl

@[simp] theorem run_countGroups (opened : Int) :
    (countGroups opened).run f = .ok () { f with openGroups := f.openGroups + opened } := rfl

@[simp] theorem run_introduce : FilterEdit.introduce.run f = .ok () f.introduce := by
  by_cases pending : f.scopes.filterPending = true
  · simp [FilterEdit.introduce, Filter.introduce, pending, append]
  · simp [FilterEdit.introduce, Filter.introduce, pending]

theorem run_closeScope (kind : ScopeKind) :
    (FilterEdit.closeScope kind).run f = f.changedTo (f.closeScope kind) := by
  cases opened : f.scopes.frames with
  | nil =>
      simp [FilterEdit.closeScope, dropScope, Filter.closeScope, ScopeStack.close, opened,
        changedTo]
  | cons frame frames =>
      by_cases same : frame.kind = kind
      · simp [FilterEdit.closeScope, dropScope, Filter.closeScope, ScopeStack.close, opened, same,
          changedTo, append]
      · simp [FilterEdit.closeScope, dropScope, Filter.closeScope, ScopeStack.close, opened, same,
          changedTo]

/-- Made in place, a call changes a filter as a whole or not at all. -/
theorem run_edit (call : FilterCall) : call.edit.run f = f.changedTo (f.perform call) := by
  cases call with
  | compare comparison negated =>
      cases negated <;> simp [FilterCall.edit, perform, compare, changedTo]
  | endLambda quantifier => exact f.run_closeScope (.lambda quantifier)
  | endCount op value =>
      simp only [FilterCall.edit, EStateM.run_bind, run_closeScope, perform, closeCount]
      cases f.closeScope .count <;> rfl
  | combine combinator => rfl
  | closeGroup => rfl
  | endGroup => rfl
  | negateNext => simp [FilterCall.edit, perform, negateNext, changedTo]
  | openGroup => simp [FilterCall.edit, perform, openGroup, changedTo]
  | beginLambda quantifier relation =>
      simp [FilterCall.edit, perform, beginLambda, changedTo, append]
  | beginCount relation => simp [FilterCall.edit, perform, beginCount, changedTo, append]

end Edits

theorem closeScope_eq_error_iff {f : Filter} {kind : ScopeKind} {error : CloseError} :
    f.closeScope kind = .error error ↔
      (f.scopes.frames = [] ∧ error = .underflow kind) ∨
        ∃ frame frames, f.scopes.frames = frame :: frames ∧ frame.kind ≠ kind ∧
          error = .mismatch kind frame.kind := by
  cases opened : f.scopes.frames with
  | nil => simp [closeScope, ScopeStack.close, opened, eq_comm]
  | cons frame frames =>
      by_cases same : frame.kind = kind
      · simp [closeScope, ScopeStack.close, opened, same]
      · have failed : f.closeScope kind = .error (.mismatch kind frame.kind) := by
          simp [closeScope, ScopeStack.close, opened, same]
        rw [failed, Except.error.injEq]
        constructor
        · rintro rfl
          exact .inr ⟨frame, frames, rfl, same, rfl⟩
        · rintro (⟨⟨⟩, -⟩ | ⟨_, _, ⟨⟩, -, rfl⟩)
          rfl

theorem perform_eq_error_iff {f : Filter} {call : FilterCall} {error : CloseError} :
    f.perform call = .error error ↔
      ∃ kind, call.closes? = some kind ∧ f.closeScope kind = .error error := by
  cases call with
  | endLambda quantifier => simp [perform, FilterCall.closes?]
  | endCount op value =>
      simp only [perform, closeCount, FilterCall.closes?, Option.some.injEq, exists_eq_left']
      cases f.closeScope .count <;> simp
  | _ => simp [perform, FilterCall.closes?]

/-- A call fails exactly if it closes a scope that is not the innermost one. -/
theorem perform_eq_error_iff_refuses {f : Filter} {call : FilterCall} {error : CloseError} :
    f.perform call = .error error ↔ f.Refuses call error := by
  rw [perform_eq_error_iff]
  constructor
  · rintro ⟨kind, closes, failed⟩
    rcases closeScope_eq_error_iff.mp failed with
      ⟨empty, rfl⟩ | ⟨frame, frames, opened, other, rfl⟩
    · exact .underflow closes empty
    · exact .mismatch closes opened other
  · rintro (⟨closes, empty⟩ | ⟨closes, opened, other⟩)
    · exact ⟨_, closes, closeScope_eq_error_iff.mpr (.inl ⟨empty, rfl⟩)⟩
    · exact ⟨_, closes, closeScope_eq_error_iff.mpr (.inr ⟨_, _, opened, other, rfl⟩)⟩

end Filter

/-- A call that was made, the error that it met if any, and the filter that it left. -/
structure MadeCall where
  call : FilterCall
  error? : Option CloseError
  left : Filter
  deriving DecidableEq, Repr

namespace MadeCall

def succeeded (made : MadeCall) : Bool := made.error?.isNone

@[simp] theorem succeeded_mk (call : FilterCall) (error? : Option CloseError) (left : Filter) :
    (mk call error? left).succeeded = error?.isNone := rfl

end MadeCall

def FilterCall.make (call : FilterCall) (f : Filter) : MadeCall :=
  match call.edit.run f with
  | .ok _ left => ⟨call, none, left⟩
  | .error error left => ⟨call, some error, left⟩

namespace Filter

/-- Makes calls in place, each on what the one before it has left, whether or not that failed. -/
def history : Filter → List FilterCall → List MadeCall
  | _, [] => []
  | f, call :: rest => call.make f :: (call.make f).left.history rest

/-- The filter that is left in the end. -/
def editAll (f : Filter) (calls : List FilterCall) : Filter :=
  calls.foldl (fun f call => (call.make f).left) f

theorem make_of_ok {f g : Filter} {call : FilterCall} (performed : f.perform call = .ok g) :
    call.make f = ⟨call, none, g⟩ := by
  simp [FilterCall.make, run_edit, performed, changedTo]

theorem make_of_error {f : Filter} {call : FilterCall} {error : CloseError}
    (failed : f.perform call = .error error) : call.make f = ⟨call, some error, f⟩ := by
  simp [FilterCall.make, run_edit, failed, changedTo]

theorem left_make (f : Filter) (call : FilterCall) : (call.make f).left = f.attempt call := by
  cases performed : f.perform call with
  | ok g => rw [make_of_ok performed, attempt, performed]
  | error error => rw [make_of_error performed, attempt, performed]

theorem editAll_eq_attempts (f : Filter) (calls : List FilterCall) :
    f.editAll calls = f.attempts calls := by
  simp only [editAll, attempts, left_make]

/-- The calls that succeed when all are made one after another. -/
def succeeding (f : Filter) (calls : List FilterCall) : List FilterCall :=
  ((f.history calls).filter MadeCall.succeeded).map MadeCall.call

theorem succeeding_cons_of_ok {f g : Filter} {call : FilterCall}
    (performed : f.perform call = .ok g) (rest : List FilterCall) :
    f.succeeding (call :: rest) = call :: g.succeeding rest := by
  simp [succeeding, history, make_of_ok performed, List.filter_cons]

theorem succeeding_cons_of_error {f : Filter} {call : FilterCall} {error : CloseError}
    (failed : f.perform call = .error error) (rest : List FilterCall) :
    f.succeeding (call :: rest) = f.succeeding rest := by
  simp [succeeding, history, make_of_error failed]

theorem history_succeeding (f : Filter) (calls : List FilterCall) :
    f.history (f.succeeding calls) = (f.history calls).filter MadeCall.succeeded := by
  induction calls generalizing f with
  | nil => rfl
  | cons call rest inductionHypothesis =>
      cases performed : f.perform call with
      | ok g =>
          rw [succeeding_cons_of_ok performed]
          simp [history, make_of_ok performed, List.filter_cons, inductionHypothesis]
      | error error =>
          rw [succeeding_cons_of_error performed, inductionHypothesis]
          simp [history, make_of_error performed]

theorem editAll_succeeding (f : Filter) (calls : List FilterCall) :
    f.editAll (f.succeeding calls) = f.editAll calls := by
  induction calls generalizing f with
  | nil => rfl
  | cons call rest inductionHypothesis =>
      cases performed : f.perform call with
      | ok g =>
          rw [succeeding_cons_of_ok performed]
          simpa [editAll, make_of_ok performed] using inductionHypothesis g
      | error error =>
          rw [succeeding_cons_of_error performed, inductionHypothesis]
          simp [editAll, make_of_error performed]

/-- Whatever calls are made on a filter, each of them takes effect as a whole or fails with nothing
changed, and it fails exactly if it closes a scope that is not the innermost one. Without the calls
that fail, every other call ends as before on the same filter, and the same filter is left. -/
theorem failed_closes_leave_no_trace (f : Filter) (calls : List FilterCall) :
    (∀ (g : Filter) (call : FilterCall), call.edit.run g = g.changedTo (g.perform call)) ∧
    (∀ (g : Filter) (call : FilterCall) (error : CloseError),
      (call.make g).error? = some error ↔ g.Refuses call error) ∧
    f.history (f.succeeding calls) = (f.history calls).filter MadeCall.succeeded ∧
    f.editAll (f.succeeding calls) = f.editAll calls ∧
    f.editAll calls = f.attempts calls := by
  refine ⟨run_edit, ?_, f.history_succeeding calls, f.editAll_succeeding calls,
    f.editAll_eq_attempts calls⟩
  intro g call error
  rw [← perform_eq_error_iff_refuses]
  cases performed : g.perform call with
  | ok reached => simp [make_of_ok performed]
  | error failure => simp [make_of_error performed]

end Filter

end QueryOptions
