import QueryOptions.Proofs.Filter.Building

/-!
# Scopes recovered from tokens

The tokens of a filter alone determine which scopes are open. A replay reads
them from left to right and keeps a stack: openers push, closes pop, and
`$filter=` marks the innermost scope. For every filter built by calls the
replay succeeds and ends in the frames that the filter keeps, so a filter can
be rendered exactly if all openers among its tokens are matched.
-/

namespace QueryOptions

/-- What a replay keeps for each open scope. -/
structure ScopeReplay (φ : Type) where
  lambda : Quantifier → String → φ
  count : φ
  /-- The effect of `$filter=` on the innermost scope. -/
  introduced : φ → φ

namespace ScopeReplay

variable {φ : Type}

/-- Reads one token; a close needs an open scope. -/
def step (replay : ScopeReplay φ) : List φ → Token → Option (List φ)
  | stack, .lambdaOpen _ quantifier bound => some (replay.lambda quantifier bound :: stack)
  | stack, .countOpen _ => some (replay.count :: stack)
  | stack, .countFilter => some (stack.modifyHead replay.introduced)
  | [], .scopeClose => none
  | _ :: stack, .scopeClose => some stack
  | stack, _ => some stack

def run (replay : ScopeReplay φ) (stack : List φ) (tokens : List Token) : Option (List φ) :=
  tokens.foldlM replay.step stack

@[simp] theorem run_nil (replay : ScopeReplay φ) (stack : List φ) :
    replay.run stack [] = some stack := rfl

@[simp] theorem run_cons (replay : ScopeReplay φ) (stack : List φ) (token : Token)
    (tokens : List Token) :
    replay.run stack (token :: tokens) =
      (replay.step stack token).bind fun reached => replay.run reached tokens := rfl

theorem run_append (replay : ScopeReplay φ) (stack : List φ) (first second : List Token) :
    replay.run stack (first ++ second) =
      (replay.run stack first).bind fun reached => replay.run reached second := by
  simp [run, List.foldlM_append, Option.bind_eq_bind]

theorem run_concat {replay : ScopeReplay φ} {stack reached : List φ} {tokens : List Token}
    (replayed : replay.run stack tokens = some reached) (token : Token) :
    replay.run stack (tokens ++ [token]) = replay.step reached token := by
  simp [run_append, replayed]

/-- A replay that keeps of each frame what a view shows of it. -/
structure Follows (replay : ScopeReplay φ) (view : ScopeFrame → φ) : Prop where
  lambda : ∀ quantifier bound, replay.lambda quantifier bound = view (.lambda quantifier bound)
  count : replay.count = view (.count true)
  introduced : replay.introduced (view (.count true)) = view (.count false)

/-- The replay that keeps the frames themselves. -/
def frames : ScopeReplay ScopeFrame where
  lambda := .lambda
  count := .count true
  introduced
    | .count _ => .count false
    | frame => frame

theorem frames_follows : frames.Follows id := ⟨fun _ _ => rfl, rfl, rfl⟩

/-- The replay that keeps the kinds of the open scopes. -/
def kinds : ScopeReplay ScopeKind where
  lambda quantifier _ := .lambda quantifier
  count := .count
  introduced kind := kind

theorem kinds_follows : kinds.Follows ScopeFrame.kind := ⟨fun _ _ => rfl, rfl, rfl⟩

/-- The replay that counts how often `$filter=` stands in each open scope. -/
def introductions : ScopeReplay Nat where
  lambda _ _ := 0
  count := 0
  introduced times := times + 1

end ScopeReplay

/-- How often `$filter=` has been written in an open scope, as its frame tells. -/
def ScopeFrame.introductions : ScopeFrame → Nat
  | .count false => 1
  | _ => 0

theorem ScopeFrame.introductions_le_one (frame : ScopeFrame) : frame.introductions ≤ 1 := by
  unfold introductions
  split <;> omega

theorem ScopeReplay.introductions_follows : introductions.Follows ScopeFrame.introductions :=
  ⟨fun _ _ => rfl, rfl, rfl⟩

/-- At no point of reading the tokens has an open scope more than one `$filter=`. -/
def IntroducedOnce (tokens : List Token) : Prop :=
  ∀ before, before <+: tokens →
    ∃ times, ScopeReplay.introductions.run [] before = some times ∧ ∀ n ∈ times, n ≤ 1

theorem IntroducedOnce.of_prefix {first second : List Token} (shorter : first <+: second)
    (once : IntroducedOnce second) : IntroducedOnce first :=
  fun before start => once before (start.trans shorter)

theorem IntroducedOnce.concat {tokens : List Token} {token : Token} {frames : List ScopeFrame}
    (once : IntroducedOnce tokens)
    (replayed : ScopeReplay.introductions.run [] (tokens ++ [token]) =
      some (frames.map ScopeFrame.introductions)) :
    IntroducedOnce (tokens ++ [token]) := by
  intro before start
  rcases List.prefix_concat_iff.mp start with rfl | shorter
  · refine ⟨_, replayed, ?_⟩
    intro n counted
    obtain ⟨frame, _, rfl⟩ := List.mem_map.mp counted
    exact frame.introductions_le_one
  · exact once before shorter

/-- The variable that a token binds. -/
def Token.bound? : Token → Option String
  | .lambdaOpen _ _ bound => some bound
  | _ => none

/-- The variables of all lambdas among the tokens, closed ones included. -/
def boundVariables (tokens : List Token) : List String := tokens.filterMap Token.bound?

@[simp] theorem boundVariables_append (first second : List Token) :
    boundVariables (first ++ second) = boundVariables first ++ boundVariables second := by
  simp [boundVariables]

@[simp] theorem boundVariables_nil : boundVariables [] = [] := rfl

@[simp] theorem boundVariables_cons (token : Token) (rest : List Token) :
    boundVariables (token :: rest) = token.bound?.toList ++ boundVariables rest := by
  cases bound : token.bound? <;> simp [boundVariables, bound]

/-- The kind of scope that a token opens. -/
def Token.opens? : Token → Option ScopeKind
  | .lambdaOpen _ quantifier _ => some (.lambda quantifier)
  | .countOpen _ => some .count
  | _ => none

/-- How many closes among the tokens belong to openers before them. -/
def surplusCloses : List Token → Nat
  | [] => 0
  | token :: rest =>
    if token.opens?.isSome then surplusCloses rest - 1
    else if token = .scopeClose then surplusCloses rest + 1
    else surplusCloses rest

/-- The kinds of the openers that no later close matches, in their order. -/
def unmatchedOpeners : List Token → List ScopeKind
  | [] => []
  | token :: rest =>
    if surplusCloses rest = 0 then token.opens?.toList ++ unmatchedOpeners rest
    else unmatchedOpeners rest

namespace ScopeReplay

theorem kinds_step_opener {token : Token} {kind : ScopeKind} (opens : token.opens? = some kind)
    (stack : List ScopeKind) : kinds.step stack token = some (kind :: stack) := by
  cases token <;> simp_all [Token.opens?, step, kinds]

theorem kinds_step_inert {token : Token} (opens : token.opens? = none)
    (stays : token ≠ .scopeClose) (stack : List ScopeKind) :
    kinds.step stack token = some stack := by
  cases token with
  | countFilter => cases stack <;> rfl
  | _ => simp_all [Token.opens?, step]

/-- A replay ends in the unmatched openers, on top of what the surplus closes
leave of the stack it started from. -/
theorem kinds_run {tokens : List Token} {stack reached : List ScopeKind}
    (replayed : kinds.run stack tokens = some reached) :
    reached = (unmatchedOpeners tokens).reverse ++ stack.drop (surplusCloses tokens) := by
  induction tokens generalizing stack with
  | nil => simp_all [unmatchedOpeners, surplusCloses]
  | cons token rest inductionHypothesis =>
      obtain ⟨next, stepped, continued⟩ := Option.bind_eq_some_iff.mp (run_cons .. ▸ replayed)
      rw [inductionHypothesis continued]
      cases opens : token.opens? with
      | some kind =>
          rw [kinds_step_opener opens] at stepped
          cases stepped
          -- The opener is matched exactly if the later closes are more than the later openers.
          cases surplus : surplusCloses rest with
          | zero => simp [unmatchedOpeners, surplusCloses, opens, surplus]
          | succ closes => simp [unmatchedOpeners, surplusCloses, opens, surplus]
      | none =>
          by_cases closes : token = .scopeClose
          · subst token
            cases stack with
            | nil => cases stepped
            | cons kind stack =>
                cases stepped
                simp [unmatchedOpeners, surplusCloses, Token.opens?]
          · rw [kinds_step_inert opens closes] at stepped
            cases stepped
            simp [unmatchedOpeners, surplusCloses, opens, closes]

end ScopeReplay

/-- A stack that owes no `$filter=` innermost owes none at all. -/
theorem ScopeStack.settled_of_tail {s : ScopeStack} (settled : s.filterPending = false)
    (below : .count true ∉ s.frames.tail) : .count true ∉ s.frames := by
  intro pending
  cases opened : s.frames with
  | nil => simp [opened] at pending
  | cons frame frames =>
      rw [opened] at pending below
      rcases List.mem_cons.mp pending with rfl | inside
      · simp [filterPending, opened] at settled
      · exact below inside

namespace Built

open ScopeReplay

variable {names : List String} {f : Filter}

/-- A replay reads off the tokens what its view shows of the frames. -/
theorem run_eq {φ : Type} {replay : ScopeReplay φ} {view : ScopeFrame → φ}
    (follows : replay.Follows view) (built : Built names f) :
    replay.run [] f.tokens = some (f.scopes.frames.map view) := by
  induction built with
  | empty => rfl
  | introduce _ opened inductionHypothesis =>
      simp [run_concat inductionHypothesis, step, opened, follows.introduced]
  | compare _ _ _ inductionHypothesis => simp [run_concat inductionHypothesis, step]
  | negate _ _ inductionHypothesis => simp [run_concat inductionHypothesis, step]
  | openGroup _ _ inductionHypothesis => simp [run_concat inductionHypothesis, step]
  | closeGroup _ inductionHypothesis =>
      simp [Filter.closeGroup, run_concat inductionHypothesis, step]
  | beginLambda _ _ _ _ inductionHypothesis =>
      simp [run_concat inductionHypothesis, step, ScopeStack.pushLambda, follows.lambda]
  | beginCount _ _ _ inductionHypothesis =>
      simp [run_concat inductionHypothesis, step, ScopeStack.pushCount, follows.count]
  | merge _ _ last inductionHypothesis =>
      -- A replay does not look at combinators.
      simp only [last, run_append] at inductionHypothesis ⊢
      exact inductionHypothesis
  | join _ _ _ inductionHypothesis => simp [run_concat inductionHypothesis, step]
  | endLambda _ opened inductionHypothesis =>
      simp [run_concat inductionHypothesis, step, opened]
  | endCount _ _ _ opened inductionHypothesis =>
      simp [run_append, inductionHypothesis, step, opened]

theorem run_frames (built : Built names f) :
    ScopeReplay.frames.run [] f.tokens = some f.scopes.frames := by
  simpa using built.run_eq frames_follows

theorem run_introductions (built : Built names f) :
    introductions.run [] f.tokens = some (f.scopes.frames.map ScopeFrame.introductions) :=
  built.run_eq introductions_follows

theorem introducedOnce (built : Built names f) : IntroducedOnce f.tokens := by
  induction built with
  | empty =>
      intro before start
      obtain rfl := List.prefix_nil.mp start
      exact ⟨[], rfl, by simp⟩
  | introduce built opened inductionHypothesis =>
      exact inductionHypothesis.concat (built.introduce opened).run_introductions
  | compare comparison built settled inductionHypothesis =>
      exact inductionHypothesis.concat (built.compare comparison settled).run_introductions
  | negate built settled inductionHypothesis =>
      exact inductionHypothesis.concat (built.negate settled).run_introductions
  | openGroup built settled inductionHypothesis =>
      exact inductionHypothesis.concat (built.openGroup settled).run_introductions
  | closeGroup built inductionHypothesis =>
      exact inductionHypothesis.concat built.closeGroup.run_introductions
  | beginLambda quantifier relation built settled inductionHypothesis =>
      exact inductionHypothesis.concat
        (built.beginLambda quantifier relation settled).run_introductions
  | beginCount relation built settled inductionHypothesis =>
      exact inductionHypothesis.concat (built.beginCount relation settled).run_introductions
  | merge combinator built last inductionHypothesis =>
      have before := inductionHypothesis.of_prefix (last ▸ List.prefix_append _ _)
      exact before.concat (built.merge combinator last).run_introductions
  | join combinator built structural inductionHypothesis =>
      exact inductionHypothesis.concat (built.join combinator structural).run_introductions
  | endLambda built opened inductionHypothesis =>
      exact inductionHypothesis.concat (built.endLambda opened).run_introductions
  | @endCount names f pending frames op value built opened inductionHypothesis =>
      have closed : introductions.run [] (f.tokens ++ [.scopeClose]) =
          some (frames.map ScopeFrame.introductions) := by
        simp [run_concat built.run_introductions, step, opened]
      exact (inductionHypothesis.concat closed).concat
        (built.endCount op value opened).run_introductions

/-- All frames but the innermost one are settled. -/
theorem settled_below (built : Built names f) : .count true ∉ f.scopes.frames.tail := by
  induction built with
  | empty => simp
  | introduce _ opened inductionHypothesis => simpa [opened] using inductionHypothesis
  | compare _ _ _ inductionHypothesis => exact inductionHypothesis
  | negate _ _ inductionHypothesis => exact inductionHypothesis
  | openGroup _ _ inductionHypothesis => exact inductionHypothesis
  | closeGroup _ inductionHypothesis => exact inductionHypothesis
  | beginLambda _ _ _ settled inductionHypothesis =>
      exact ScopeStack.settled_of_tail settled inductionHypothesis
  | beginCount _ _ settled inductionHypothesis =>
      exact ScopeStack.settled_of_tail settled inductionHypothesis
  | merge _ _ _ inductionHypothesis => exact inductionHypothesis
  | join _ _ _ inductionHypothesis => exact inductionHypothesis
  | endLambda _ opened inductionHypothesis =>
      rw [opened] at inductionHypothesis
      exact fun pending => inductionHypothesis (List.mem_of_mem_tail pending)
  | endCount _ _ _ opened inductionHypothesis =>
      rw [opened] at inductionHypothesis
      exact fun pending => inductionHypothesis (List.mem_of_mem_tail pending)

theorem openGroups_eq (built : Built names f) :
    f.openGroups = (f.tokens.count .openGroup : Int) - f.tokens.count .closeGroup := by
  induction built with
  | empty => rfl
  | openGroup _ _ inductionHypothesis =>
      simp [inductionHypothesis]
      omega
  | closeGroup _ inductionHypothesis =>
      simp [Filter.closeGroup, inductionHypothesis]
      omega
  | merge _ _ last inductionHypothesis => simpa [last] using inductionHypothesis
  | _ => simp_all

/-- The lambdas of a filter bind the variables in their order, one after another. -/
theorem boundVariables_eq (built : Built names f) :
    boundVariables f.tokens = (List.range f.scopes.lambdasOpened).map variableName := by
  induction built with
  | empty => rfl
  | beginLambda _ _ _ _ inductionHypothesis =>
      simp [inductionHypothesis, ScopeStack.pushLambda, ScopeStack.nextVariable, Token.bound?,
        List.range_succ]
  | merge _ _ last inductionHypothesis => simpa [last, Token.bound?] using inductionHypothesis
  | closeGroup _ inductionHypothesis =>
      simp [Filter.closeGroup, inductionHypothesis, Token.bound?]
  | endCount _ _ _ _ inductionHypothesis => simp [inductionHypothesis, Token.bound?]
  | _ => simp_all [Token.bound?, ScopeStack.pushCount]

/-- The open scopes, innermost first, are the unmatched openers from the last to the first. -/
theorem map_kind_frames (built : Built names f) :
    f.scopes.frames.map ScopeFrame.kind = (unmatchedOpeners f.tokens).reverse := by
  simpa using kinds_run (built.run_eq kinds_follows)

end Built

/-- Where the frames are the unmatched openers, rendering fails exactly if there
are any, and reports the last of them and their number. -/
theorem Filter.render_eq_error_iff {f : Filter}
    (left : f.scopes.frames.map ScopeFrame.kind = (unmatchedOpeners f.tokens).reverse)
    (error : UnterminatedScope) :
    f.render = .error error ↔
      (unmatchedOpeners f.tokens).getLast? = some error.innermost ∧
        error.depth = (unmatchedOpeners f.tokens).length := by
  have depth : f.scopes.frames.length = (unmatchedOpeners f.tokens).length := by
    simpa using congrArg List.length left
  have last : (unmatchedOpeners f.tokens).getLast? = f.scopes.frames.head?.map ScopeFrame.kind := by
    rw [← List.head?_reverse, ← left, List.head?_map]
  rw [last, ← depth]
  obtain ⟨innermost, levels⟩ := error
  cases opened : f.scopes.frames with
  | nil => simp [render, renderLogged, ScopeStack.innermost, opened]
  | cons frame frames =>
      have reported : f.render = .error ⟨frame.kind, frames.length + 1⟩ := by
        simp [render, renderLogged, ScopeStack.innermost, ScopeStack.depth, opened, Logged.fail]
      simp [reported, eq_comm]

/-- The scopes, groups and lambdas that a filter keeps count of are those among its
tokens, whatever calls have built it, and rendering fails exactly on unmatched openers. -/
theorem Filter.bookkeeping_eq_replay (calls : List FilterCall) :
    let f := attempts {} calls
    ScopeReplay.frames.run [] f.tokens = some f.scopes.frames ∧
    .count true ∉ f.scopes.frames.tail ∧
    IntroducedOnce f.tokens ∧
    f.openGroups = (f.tokens.count .openGroup : Int) - f.tokens.count .closeGroup ∧
    f.scopes.lambdasOpened = (boundVariables f.tokens).length ∧
    ((∃ error, f.render = .error error) ↔ unmatchedOpeners f.tokens ≠ []) ∧
    ∀ error, f.render = .error error →
      (unmatchedOpeners f.tokens).getLast? = some error.innermost ∧
      error.depth = (unmatchedOpeners f.tokens).length := by
  intro f
  have built : Built _ f := built_attempts calls
  clear_value f
  have rendered := render_eq_error_iff built.map_kind_frames
  refine ⟨built.run_frames, built.settled_below, built.introducedOnce, built.openGroups_eq,
    ?_, ?_, fun error => (rendered error).mp⟩
  · simp [built.boundVariables_eq]
  · constructor
    · rintro ⟨error, failed⟩ matched
      have last := ((rendered error).mp failed).1
      rw [matched] at last
      cases last
    · intro unmatched
      exact ⟨⟨(unmatchedOpeners f.tokens).getLast unmatched, _⟩,
        (rendered _).mpr ⟨List.getLast?_eq_some_getLast unmatched, rfl⟩⟩

end QueryOptions
