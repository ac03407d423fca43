import Mathlib.Data.List.Basic
import QueryOptions.Defaults.Layer

/-!
# Which layer wins

A name has the value that the highest layer with this name gives it, and the
names of all layers are listed once each, in ascending order.
-/

namespace QueryOptions.Layer

def Mentions (layer : Layer) (name : String) : Prop := ∃ setting ∈ layer, setting.1 = name

/-- The last setting of a name in a layer counts. -/
def Gives (layer : Layer) (name : String) (value : SettingValue) : Prop :=
  ∃ before after, layer = before ++ (name, value) :: after ∧ ∀ setting ∈ after, setting.1 ≠ name

/-- The highest layer that mentions a name gives it its value. -/
inductive Wins : List Layer → String → SettingValue → Prop
  | here {layer : Layer} {higher : List Layer} {name : String} {value : SettingValue}
      (given : layer.Gives name value) (highest : ∀ above ∈ higher, ¬ Mentions above name) :
      Wins (layer :: higher) name value
  | above {layer : Layer} {higher : List Layer} {name : String} {value : SettingValue}
      (wins : Wins higher name value) : Wins (layer :: higher) name value

variable {layer : Layer} {layers : List Layer} {name : String} {value : SettingValue}

theorem Gives.mem (given : layer.Gives name value) : (name, value) ∈ layer := by
  obtain ⟨before, after, rfl, -⟩ := given
  simp

theorem mentions_append {other : Layer} :
    Mentions (layer ++ other) name ↔ layer.Mentions name ∨ other.Mentions name := by
  simp only [Mentions, List.mem_append, or_and_right, exists_or]

theorem mentions_flatten :
    Mentions layers.flatten name ↔ ∃ layer ∈ layers, Mentions layer name := by
  induction layers with
  | nil => simp [Mentions]
  | cons layer rest inductionHypothesis =>
      rw [List.flatten_cons, mentions_append, inductionHypothesis, List.exists_mem_cons_iff]

theorem lookup_reverse_eq_some_iff :
    layer.reverse.lookup name = some value ↔ layer.Gives name value := by
  rw [List.lookup_eq_some_iff]
  constructor
  · rintro ⟨later, earlier, split, others⟩
    refine ⟨earlier.reverse, later.reverse, ?_, ?_⟩
    · rw [← List.reverse_eq_iff.mpr split.symm]
      simp
    · intro setting present same
      have other := others setting (List.mem_reverse.mp present)
      simp [same] at other
  · rintro ⟨before, after, rfl, others⟩
    refine ⟨after.reverse, before.reverse, by simp, ?_⟩
    intro setting present
    simpa using (others setting (List.mem_reverse.mp present)).symm

theorem lookup_reverse_eq_none_iff :
    layer.reverse.lookup name = none ↔ ¬ layer.Mentions name := by
  rw [List.lookup_eq_none_iff]
  constructor
  · rintro others ⟨setting, present, rfl⟩
    simpa using others setting (List.mem_reverse.mpr present)
  · intro unmentioned setting present
    have other : setting.1 ≠ name := fun same =>
      unmentioned ⟨setting, List.mem_reverse.mp present, same⟩
    simpa using other.symm

theorem valueOf?_cons (layer : Layer) (higher : List Layer) (name : String) :
    valueOf? (layer :: higher) name =
      (valueOf? higher name).or (layer.reverse.lookup name) := by
  rw [valueOf?, List.flatten_cons, List.reverse_append, List.lookup_append, valueOf?]

theorem valueOf?_eq_none_iff :
    valueOf? layers name = none ↔ ∀ layer ∈ layers, ¬ Mentions layer name := by
  rw [valueOf?, lookup_reverse_eq_none_iff, mentions_flatten]
  simp

theorem valueOf?_eq_some_iff : valueOf? layers name = some value ↔ Wins layers name value := by
  induction layers with
  | nil =>
      constructor
      · intro found
        cases found
      · rintro ⟨⟩
  | cons layer higher inductionHypothesis =>
      rw [valueOf?_cons, Option.or_eq_some_iff, inductionHypothesis, valueOf?_eq_none_iff,
        lookup_reverse_eq_some_iff]
      constructor
      · rintro (wins | ⟨highest, given⟩)
        · exact .above wins
        · exact .here given highest
      · rintro (⟨given, highest⟩ | wins)
        · exact .inr ⟨highest, given⟩
        · exact .inl wins

theorem Wins.unique {other : SettingValue} (wins : Wins layers name value)
    (otherWins : Wins layers name other) : value = other := by
  rw [← valueOf?_eq_some_iff] at wins otherWins
  exact Option.some.inj (wins.symm.trans otherWins)

theorem Wins.mem (wins : Wins layers name value) :
    ∃ layer ∈ layers, (name, value) ∈ layer := by
  induction wins with
  | here given _ => exact ⟨_, List.mem_cons_self, given.mem⟩
  | above _ inductionHypothesis =>
      obtain ⟨layer, present, inside⟩ := inductionHypothesis
      exact ⟨layer, .tail _ present, inside⟩

theorem exists_wins_iff :
    (∃ value, Wins layers name value) ↔ ∃ layer ∈ layers, Mentions layer name := by
  constructor
  · rintro ⟨value, wins⟩
    obtain ⟨layer, present, inside⟩ := wins.mem
    exact ⟨layer, present, (name, value), inside, rfl⟩
  · rintro ⟨layer, present, mentioned⟩
    cases found : valueOf? layers name with
    | none => exact absurd mentioned (valueOf?_eq_none_iff.mp found layer present)
    | some value => exact ⟨value, valueOf?_eq_some_iff.mp found⟩

theorem wins_cons_iff_of_mentioned {higher : List Layer}
    (mentioned : ∃ above ∈ higher, Mentions above name) :
    Wins (layer :: higher) name value ↔ Wins higher name value := by
  constructor
  · rintro (⟨_, highest⟩ | wins)
    · obtain ⟨above, present, mentions⟩ := mentioned
      exact absurd mentions (highest above present)
    · exact wins
  · exact .above

theorem wins_congr {builtIn file other environment : Layer}
    (same : ¬ environment.Mentions name → ∀ value, file.Gives name value ↔ other.Gives name value) :
    Wins [builtIn, file, environment] name value ↔
      Wins [builtIn, other, environment] name value := by
  by_cases overridden : environment.Mentions name
  · have above : ∀ layer : Layer, ∃ above ∈ [layer, environment], Mentions above name :=
      fun _ => ⟨environment, by simp, overridden⟩
    have top : ∃ above ∈ [environment], Mentions above name :=
      ⟨environment, by simp, overridden⟩
    rw [wins_cons_iff_of_mentioned (above file), wins_cons_iff_of_mentioned top,
      wins_cons_iff_of_mentioned (above other), wins_cons_iff_of_mentioned top]
  · have given : file.reverse.lookup name = other.reverse.lookup name := by
      ext found
      rw [lookup_reverse_eq_some_iff, lookup_reverse_eq_some_iff, same overridden]
    rw [← valueOf?_eq_some_iff, ← valueOf?_eq_some_iff]
    simp only [valueOf?_cons, given]

theorem mem_insertName {other : String} {names : List String} :
    other ∈ insertName name names ↔ other = name ∨ other ∈ names := by
  induction names with
  | nil => simp [insertName]
  | cons next rest inductionHypothesis =>
      unfold insertName
      split
      · rw [List.mem_cons]
      · split
        next same =>
          rw [same, List.mem_cons, ← or_assoc, or_self]
        next =>
          rw [List.mem_cons, inductionHypothesis, List.mem_cons, or_left_comm]

theorem pairwise_insertName {names : List String} (ascending : names.Pairwise (· < ·)) :
    (insertName name names).Pairwise (· < ·) := by
  induction ascending with
  | nil => exact List.pairwise_singleton _ _
  | @cons next rest below ascending inductionHypothesis =>
      unfold insertName
      split
      next less =>
        refine .cons ?_ (.cons below ascending)
        intro other present
        rcases List.mem_cons.mp present with rfl | later
        · exact less
        · exact String.lt_trans less (below other later)
      next notLess =>
        split
        next => exact .cons below ascending
        next differs =>
          refine .cons ?_ inductionHypothesis
          intro other present
          rcases mem_insertName.mp present with rfl | later
          · exact Std.lt_of_le_of_ne (String.not_lt.mp notLess) (Ne.symm differs)
          · exact below other later

theorem mem_names : name ∈ names layers ↔ ∃ layer ∈ layers, Mentions layer name := by
  rw [← mentions_flatten, names]
  induction layers.flatten with
  | nil => simp [Mentions]
  | cons setting rest inductionHypothesis =>
      rw [List.foldr_cons, mem_insertName, inductionHypothesis]
      simp [Mentions, eq_comm]

theorem pairwise_names (layers : List Layer) : (names layers).Pairwise (· < ·) := by
  unfold names
  induction layers.flatten with
  | nil => exact .nil
  | cons setting rest inductionHypothesis => exact pairwise_insertName inductionHypothesis

end QueryOptions.Layer
