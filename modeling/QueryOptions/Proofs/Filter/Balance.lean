import QueryOptions.Proofs.Filter.Bracketing

/-!
# What a silent rendering tells

Open scopes are kept on a stack and open groups are only counted, apart from
each other. A filter that is rendered without a warning has therefore closed
whatever it opened, but a group may be closed before it is opened, or on the
other side of a scope. Its brackets are matched exactly if, besides, every
closing token meets a bracket of its own kind.
-/

namespace QueryOptions

/-- Every closing token closes the innermost open bracket, which is of its kind. -/
def ClosesFit (tokens : List Token) : Prop := ∃ stack, tokens.foldlM Token.nest [] = some stack

/-- Every closing token closes the innermost open bracket, which is of its kind, and no
bracket is left open. -/
def BracketsMatch (tokens : List Token) : Prop := tokens.foldlM Token.nest [] = some []

instance (tokens : List Token) : Decidable (BracketsMatch tokens) :=
  inferInstanceAs (Decidable (_ = _))

/-- With groups passed over, every close of a scope has one to close, and none is left open. -/
def ScopesMatch (tokens : List Token) : Prop := ScopeReplay.kinds.run [] tokens = some []

theorem BracketsMatch.closesFit {tokens : List Token} (matched : BracketsMatch tokens) :
    ClosesFit tokens :=
  ⟨[], matched⟩

theorem BracketsMatch.scopesMatch {tokens : List Token} (matched : BracketsMatch tokens) :
    ScopesMatch tokens :=
  kinds_run_of_nest matched

theorem Token.count_group_nest {token : Token} {stack reached : List Bracket}
    (nested : token.nest stack = some reached) :
    reached.count .group + [token].count .closeGroup =
      stack.count .group + [token].count .openGroup := by
  cases token with
  | closeGroup =>
      obtain rfl := Bracket.close_eq_some_iff.mp nested
      simp
  | scopeClose =>
      obtain ⟨kind, rfl⟩ := Token.nest_scopeClose_eq_some_iff.mp nested
      simp
  | _ =>
      cases nested
      simp

/-- Groups that are left open are opened and not closed. -/
theorem count_group_of_nest {tokens : List Token} {stack reached : List Bracket}
    (nested : tokens.foldlM Token.nest stack = some reached) :
    reached.count .group + tokens.count .closeGroup =
      stack.count .group + tokens.count .openGroup := by
  induction tokens generalizing stack with
  | nil =>
      cases nested
      rfl
  | cons token rest inductionHypothesis =>
      obtain ⟨next, here, later⟩ := Option.bind_eq_some_iff.mp nested
      have split (counted : Token) :
          (token :: rest).count counted = [token].count counted + rest.count counted := by
        rw [← List.count_append, List.singleton_append]
      have first := Token.count_group_nest here
      have others := inductionHypothesis later
      rw [split, split]
      omega

/-- Brackets of which none is a scope, and none is a group. -/
theorem Bracket.eq_nil_of_counts {stack : List Bracket}
    (scopes : stack.filterMap Bracket.scope? = []) (groups : stack.count .group = 0) :
    stack = [] := by
  refine List.eq_nil_iff_forall_not_mem.mpr fun bracket present => ?_
  cases bracket with
  | group => exact List.count_eq_zero.mp groups present
  | scope kind =>
      have shown := List.filterMap_eq_nil_iff.mp scopes (.scope kind) present
      cases shown

/-- Brackets that fit match exactly if the scopes do and groups are closed as often as opened. -/
theorem bracketsMatch_iff {tokens : List Token} :
    BracketsMatch tokens ↔
      (ScopesMatch tokens ∧ tokens.count .openGroup = tokens.count .closeGroup) ∧
        ClosesFit tokens := by
  constructor
  · intro matched
    have counted := count_group_of_nest matched
    refine ⟨⟨matched.scopesMatch, ?_⟩, matched.closesFit⟩
    simp only [List.count_nil] at counted
    omega
  · rintro ⟨⟨scopes, balanced⟩, stack, nested⟩
    have left : some (stack.filterMap Bracket.scope?) = some [] :=
      (kinds_run_of_nest nested).symm.trans scopes
    have counted := count_group_of_nest nested
    simp only [List.count_nil] at counted
    have closed : stack.count .group = 0 := by omega
    rw [BracketsMatch, nested, Bracket.eq_nil_of_counts (Option.some.inj left) closed]

namespace Filter

/-- Rendering gives a text and does not warn of unbalanced groups. -/
def RendersSilently (f : Filter) : Prop :=
  (∃ text, f.render = .ok text) ∧
    ∀ openGroups, .unbalancedGroups openGroups ∉ f.renderLogged.events

theorem rendersSilently_iff {f : Filter} :
    f.RendersSilently ↔ f.scopes.frames = [] ∧ f.openGroups = 0 := by
  cases opened : f.scopes.frames with
  | nil =>
      by_cases balanced : f.openGroups = 0 <;>
        simp [RendersSilently, render, renderLogged, ScopeStack.innermost, opened, balanced]
  | cons frame frames =>
      have failed : f.render = .error ⟨frame.kind, f.scopes.depth⟩ := by
        simp [render, renderLogged, ScopeStack.innermost, opened, Logged.fail]
      simp [RendersSilently, failed]

theorem IsBuilt.rendersSilently_iff {f : Filter} (built : f.IsBuilt) :
    f.RendersSilently ↔
      ScopesMatch f.tokens ∧ f.tokens.count .openGroup = f.tokens.count .closeGroup := by
  obtain ⟨names, built⟩ := built
  have replayed : ScopeReplay.kinds.run [] f.tokens = some (f.scopes.frames.map ScopeFrame.kind) :=
    built.run_eq ScopeReplay.kinds_follows
  have groups := built.openGroups_eq
  rw [Filter.rendersSilently_iff, ScopesMatch, replayed, Option.some_inj, List.map_eq_nil_iff]
  refine and_congr_right fun _ => ?_
  omega

/-- A filter that calls have built renders silently exactly if its scopes match among
themselves and as many groups are closed as opened. All of its brackets match exactly if,
besides, every closing token fits. -/
theorem rendersSilently_iff_counts (calls : List FilterCall) :
    let f := attempts {} calls
    (f.RendersSilently ↔
      ScopesMatch f.tokens ∧ f.tokens.count .openGroup = f.tokens.count .closeGroup) ∧
    (BracketsMatch f.tokens ↔ f.RendersSilently ∧ ClosesFit f.tokens) := by
  intro f
  have silent := IsBuilt.rendersSilently_iff ⟨_, built_attempts calls⟩
  refine ⟨silent, ?_⟩
  rw [silent]
  exact bracketsMatch_iff

/-- A group that opens inside a lambda and closes after it: the chain goes through, the
text is rendered silently, and its brackets do not match. -/
theorem rendersSilently_of_crossing :
    let calls : List FilterCall :=
      [.beginLambda .any "Posts", .openGroup, .compare ⟨"Id", .eq, .ofInt 1, .fieldFirst⟩ false,
        .endLambda .any, .endGroup]
    let f := attempts {} calls
    Chain.run ⟨.clause, {}⟩ calls = .ok ⟨.operator, f⟩ ∧ f.RendersSilently ∧
      ¬ BracketsMatch f.tokens := by
  intro calls f
  refine ⟨rfl, rendersSilently_iff.mpr ⟨rfl, rfl⟩, by decide⟩

end Filter

end QueryOptions
