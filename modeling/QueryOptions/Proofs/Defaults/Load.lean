import QueryOptions.Proofs.Defaults.Layers
import QueryOptions.Proofs.Defaults.Settings

/-!
# Loading in layers

Every name that any layer mentions is set to its winning value, in ascending
order of the names, and loading stops at the first value that is out of place.
-/

namespace QueryOptions

namespace Defaults

variable {layers : List Layer} {name : String} {value : SettingValue} {pending : List String}
  {d next result : Defaults}

/-- The named settings have the values that win, and the others are as they were. -/
structure SetsAll (layers : List Layer) (pending : List String) (d result : Defaults) : Prop where
  shows : ∀ name ∈ pending, ∀ value, Layer.Wins layers name value → result.Shows name value
  others : ∀ name value, name ∉ pending → (result.Shows name value ↔ d.Shows name value)

/-- A value that wins is at fault, and no name before it has a value at fault. -/
structure FailsFirst (layers : List Layer) (pending : List String) (error : SettingError) :
    Prop where
  wrong : ∃ value, Layer.Wins layers error.name value ∧ error.fault.Concerns error.name value
  before : ∀ name ∈ pending, name < error.name → ∀ value, Layer.Wins layers name value →
    value.Fits name

theorem SetsAll.cons (wins : Layer.Wins layers name value) (set : SetsOnly name value d next)
    (absent : name ∉ pending) (run : SetsAll layers pending next result) :
    SetsAll layers (name :: pending) d result where
  shows := by
    intro other present given otherWins
    rcases List.mem_cons.mp present with rfl | later
    · rw [run.others other given absent, ← wins.unique otherWins]
      exact set.shows
    · exact run.shows other later given otherWins
  others := by
    intro other given elsewhere
    rw [List.mem_cons, not_or] at elsewhere
    rw [run.others other given elsewhere.2, set.others other given elsewhere.1]

theorem FailsFirst.cons {error : SettingError} (wins : Layer.Wins layers name value)
    (fits : value.Fits name) (fails : FailsFirst layers pending error) :
    FailsFirst layers (name :: pending) error where
  wrong := fails.wrong
  before := by
    intro other present less given otherWins
    rcases List.mem_cons.mp present with rfl | later
    · exact wins.unique otherWins ▸ fits
    · exact fails.before other later less given otherWins

theorem FailsFirst.here {fault : SettingFault} (wins : Layer.Wins layers name value)
    (concerns : fault.Concerns name value) (below : ∀ later ∈ pending, name < later) :
    FailsFirst layers (name :: pending) ⟨name, fault⟩ where
  wrong := ⟨value, wins, concerns⟩
  before := by
    intro other present less
    rcases List.mem_cons.mp present with rfl | later
    · exact absurd less (String.lt_irrefl other)
    · exact absurd (below other later) (String.lt_asymm less)

theorem setAll_cases (ascending : pending.Pairwise (· < ·))
    (mentioned : ∀ name ∈ pending, ∃ layer ∈ layers, Layer.Mentions layer name) (d : Defaults) :
    (∃ result, setAll layers pending d = .ok result ∧ SetsAll layers pending d result) ∨
      ∃ error, setAll layers pending d = .error error ∧ FailsFirst layers pending error := by
  induction ascending generalizing d with
  | nil => exact .inl ⟨d, rfl, by simp, by simp⟩
  | @cons name rest below _ inductionHypothesis =>
      obtain ⟨value, wins⟩ := Layer.exists_wins_iff.mpr (mentioned name List.mem_cons_self)
      have given : (Layer.valueOf? layers name).getD .null = value := by
        rw [Layer.valueOf?_eq_some_iff.mpr wins, Option.getD_some]
      have absent : name ∉ rest := fun again => String.lt_irrefl name (below name again)
      have restMentioned := fun other later => mentioned other (.tail name later)
      rw [setAll, given]
      rcases set_cases d name value with ⟨next, set, only⟩ | ⟨fault, fails, concerns⟩
      · rw [set]
        rcases inductionHypothesis restMentioned next with ⟨result, run, all⟩ | ⟨error, run, first⟩
        · exact .inl ⟨result, run, .cons wins only absent all⟩
        · exact .inr ⟨error, run, .cons wins ⟨next, only.shows⟩ first⟩
      · rw [fails]
        exact .inr ⟨⟨name, fault⟩, rfl, .here wins concerns below⟩

end Defaults

/-- Every name that layers mention is that of a setting, and each setting has the value that
wins, which is of its type. -/
structure Defaults.Follows (layers : List Layer) (d : Defaults) : Prop where
  known : ∀ name value, Layer.Wins layers name value → name ∈ Defaults.names
  shows : ∀ name ∈ Defaults.names, ∃ value, Layer.Wins layers name value ∧ d.Shows name value

/-- The fault is that of the alphabetically first name with a value that does not fit. -/
structure SettingError.IsFirst (layers : List Layer) (error : SettingError) : Prop where
  wrong : ∃ value, Layer.Wins layers error.name value ∧ error.fault.Concerns error.name value
  before : ∀ name value, Layer.Wins layers name value → name < error.name → value.Fits name

section Outcome

variable {layers : List Layer} {d result : Defaults} {error found : SettingError}

theorem Defaults.Follows.unique (follows : d.Follows layers) (also : result.Follows layers) :
    d = result := by
  have same : ∀ name ∈ Defaults.names, ∃ value, d.Shows name value ∧ result.Shows name value := by
    intro name known
    obtain ⟨value, wins, shows⟩ := follows.shows name known
    obtain ⟨other, otherWins, alsoShows⟩ := also.shows name known
    exact ⟨value, shows, wins.unique otherWins ▸ alsoShows⟩
  obtain ⟨top, ofTop, alsoTop⟩ := same "default_top" (by decide)
  obtain ⟨skip, ofSkip, alsoSkip⟩ := same "default_skip" (by decide)
  obtain ⟨pagination, ofPagination, alsoPagination⟩ := same "pagination_enabled" (by decide)
  obtain ⟨showCount, ofShowCount, alsoShowCount⟩ := same "default_show_count" (by decide)
  have tops := (ofTop.top rfl).unique (alsoTop.top rfl)
  have skips := (ofSkip.skip rfl).unique (alsoSkip.skip rfl)
  have paginations := (ofPagination.pagination rfl).symm.trans (alsoPagination.pagination rfl)
  have showCounts := (ofShowCount.showCount rfl).symm.trans (alsoShowCount.showCount rfl)
  cases d
  cases result
  simp_all

theorem SettingError.IsFirst.not_follows (first : error.IsFirst layers) : ¬ d.Follows layers := by
  intro follows
  obtain ⟨value, wins, concerns⟩ := first.wrong
  obtain ⟨other, otherWins, shows⟩ := follows.shows error.name (follows.known error.name value wins)
  exact concerns.not_fits ⟨d, wins.unique otherWins ▸ shows⟩

theorem SettingError.IsFirst.not_lt (first : error.IsFirst layers) (also : found.IsFirst layers) :
    ¬ error.name < found.name := by
  intro less
  obtain ⟨value, wins, concerns⟩ := first.wrong
  exact concerns.not_fits (also.before error.name value wins less)

theorem SettingError.IsFirst.unique (first : error.IsFirst layers) (also : found.IsFirst layers) :
    error = found := by
  have names : error.name = found.name :=
    String.le_antisymm (String.not_lt.mp (also.not_lt first)) (String.not_lt.mp (first.not_lt also))
  obtain ⟨value, wins, concerns⟩ := first.wrong
  obtain ⟨other, otherWins, alsoConcerns⟩ := also.wrong
  cases error
  cases found
  cases names
  cases wins.unique otherWins
  exact congrArg (SettingError.mk _) (concerns.unique alsoConcerns)

variable (settings : ∀ name ∈ Defaults.names, ∃ layer ∈ layers, Layer.Mentions layer name)

include settings

theorem Defaults.ofLayers_cases :
    (∃ d, ofLayers layers = .ok d ∧ d.Follows layers) ∨
      ∃ error, ofLayers layers = .error error ∧ error.IsFirst layers := by
  have listed : ∀ name value, Layer.Wins layers name value → name ∈ Layer.names layers :=
    fun name value wins => Layer.mem_names.mpr (Layer.exists_wins_iff.mp ⟨value, wins⟩)
  rcases setAll_cases (Layer.pairwise_names layers) (fun _ => Layer.mem_names.mp) {} with
    ⟨d, run, all⟩ | ⟨error, run, first⟩
  · refine .inl ⟨d, run, ?_, ?_⟩
    · intro name value wins
      exact (all.shows name (listed name value wins) value wins).known
    · intro name known
      obtain ⟨value, wins⟩ := Layer.exists_wins_iff.mpr (settings name known)
      exact ⟨value, wins, all.shows name (listed name value wins) value wins⟩
  · refine .inr ⟨error, run, first.wrong, ?_⟩
    intro name value wins less
    exact first.before name (listed name value wins) less value wins

theorem Defaults.ofLayers_eq_ok_iff : ofLayers layers = .ok d ↔ d.Follows layers := by
  constructor
  · intro loads
    rcases ofLayers_cases settings with ⟨found, run, follows⟩ | ⟨error, run, _⟩
    · cases loads.symm.trans run
      exact follows
    · cases loads.symm.trans run
  · intro follows
    rcases ofLayers_cases settings with ⟨found, run, also⟩ | ⟨error, run, first⟩
    · rw [run, follows.unique also]
    · exact absurd follows first.not_follows

theorem Defaults.ofLayers_eq_error_iff : ofLayers layers = .error error ↔ error.IsFirst layers := by
  constructor
  · intro fails
    rcases ofLayers_cases settings with ⟨d, run, _⟩ | ⟨found, run, first⟩
    · cases fails.symm.trans run
    · cases fails.symm.trans run
      exact first
  · intro first
    rcases ofLayers_cases settings with ⟨d, run, follows⟩ | ⟨found, run, also⟩
    · exact absurd follows first.not_follows
    · rw [run, first.unique also]

end Outcome

theorem Layer.mentions_builtIn : ∀ name ∈ Defaults.names, builtIn.Mentions name := by
  simp [Mentions, builtIn, Defaults.names]

namespace Defaults

variable {read : String → Option Layer} {file : SettingsFile} {layer : Layer} {d : Defaults}
  {error : LoadError}

theorem loadBy_eq (read : String → Option Layer) (file : SettingsFile)
    (environment : List (String × String)) :
    loadBy read file environment = (file.layerBy read).bind fun layer =>
      (ofLayers [.builtIn, layer, .ofEnvironment environment]).mapError .setting := by
  unfold loadBy
  cases file.layerBy read with
  | error error => rfl
  | ok layer =>
      simp only [bind, Except.bind]
      cases ofLayers [.builtIn, layer, .ofEnvironment environment] <;> rfl

theorem loadBy_eq_error (failed : file.layerBy read = .error error)
    (environment : List (String × String)) : loadBy read file environment = .error error := by
  rw [loadBy_eq, failed]
  rfl

theorem mentions_of_name (higher : List Layer) :
    ∀ name ∈ names, ∃ source ∈ .builtIn :: higher, Layer.Mentions source name :=
  fun name known => ⟨.builtIn, List.mem_cons_self, Layer.mentions_builtIn name known⟩

theorem loadBy_eq_ok_iff (taken : file.layerBy read = .ok layer)
    (environment : List (String × String)) :
    loadBy read file environment = .ok d ↔
      d.Follows [.builtIn, layer, .ofEnvironment environment] := by
  rw [← ofLayers_eq_ok_iff (mentions_of_name _), loadBy_eq, taken, Except.bind]
  cases ofLayers [.builtIn, layer, .ofEnvironment environment] <;> simp [Except.mapError]

theorem loadBy_eq_error_iff (taken : file.layerBy read = .ok layer)
    (environment : List (String × String)) :
    loadBy read file environment = .error error ↔
      ∃ found : SettingError, error = .setting found ∧
        found.IsFirst [.builtIn, layer, .ofEnvironment environment] := by
  simp only [← ofLayers_eq_error_iff (mentions_of_name _)]
  rw [loadBy_eq, taken, Except.bind]
  cases ofLayers [.builtIn, layer, .ofEnvironment environment] <;> simp [Except.mapError, eq_comm]

theorem loadBy_congr {other : SettingsFile} {otherLayer : Layer}
    (taken : file.layerBy read = .ok layer) (otherTaken : other.layerBy read = .ok otherLayer)
    (environment : List (String × String))
    (same : ∀ name, ¬ Layer.Mentions (.ofEnvironment environment) name →
      ∀ value, layer.Gives name value ↔ otherLayer.Gives name value) :
    loadBy read other environment = loadBy read file environment := by
  have wins : ∀ name value,
      Layer.Wins [.builtIn, layer, .ofEnvironment environment] name value ↔
        Layer.Wins [.builtIn, otherLayer, .ofEnvironment environment] name value :=
    fun name value => Layer.wins_congr (same name)
  cases loads : loadBy read file environment with
  | ok d =>
      obtain ⟨known, shows⟩ := (loadBy_eq_ok_iff taken environment).mp loads
      simp only [wins] at known shows
      exact (loadBy_eq_ok_iff otherTaken environment).mpr ⟨known, shows⟩
  | error error =>
      obtain ⟨found, kind, wrong, before⟩ := (loadBy_eq_error_iff taken environment).mp loads
      simp only [wins] at wrong before
      exact (loadBy_eq_error_iff otherTaken environment).mpr ⟨found, kind, wrong, before⟩

/-- Whatever reads the text of the file: a file that does not exist, or that cannot be read, is
reported whatever the environment holds. With the settings of any other file, or without a file,
loading gives each setting the value of the highest layer that mentions it, as long as all names
are those of settings and all values that win are of their types; otherwise it fails at the
alphabetically first name for which this is not so. So settings of the file that the environment
overrides make no difference, and the built-in layer has no say about names that the file or the
environment mentions. -/
theorem load_layered (read : String → Option Layer) :
    (∀ file environment, load file environment = loadBy Layer.ofFile? file environment) ∧
    (∀ environment, loadBy read .missing environment = .error .missingFile) ∧
    (∀ text, read text = none → ∀ environment,
      loadBy read (.found text) environment = .error .unreadableFile) ∧
    ∀ (file : SettingsFile) (layer : Layer), file.layerBy read = .ok layer →
      ∀ environment : List (String × String),
        let layers := [.builtIn, layer, .ofEnvironment environment]
        (∀ d, loadBy read file environment = .ok d ↔ d.Follows layers) ∧
        (∀ error, loadBy read file environment = .error error ↔
          ∃ found : SettingError, error = .setting found ∧ found.IsFirst layers) ∧
        (∀ (other : SettingsFile) (otherLayer : Layer), other.layerBy read = .ok otherLayer →
          (∀ name, ¬ Layer.Mentions (.ofEnvironment environment) name →
            ∀ value, layer.Gives name value ↔ otherLayer.Gives name value) →
          loadBy read other environment = loadBy read file environment) ∧
        ∀ name value, (∃ above ∈ [layer, .ofEnvironment environment], Layer.Mentions above name) →
          (Layer.Wins layers name value ↔
            Layer.Wins [layer, .ofEnvironment environment] name value) := by
  refine ⟨fun _ _ => rfl, loadBy_eq_error rfl, ?_, ?_⟩
  · intro text unread environment
    exact loadBy_eq_error (by rw [SettingsFile.layerBy, unread]) environment
  · intro file layer taken environment layers
    refine ⟨fun d => loadBy_eq_ok_iff taken environment,
      fun error => loadBy_eq_error_iff taken environment, ?_, ?_⟩
    · exact fun other otherLayer otherTaken same => loadBy_congr taken otherTaken environment same
    · exact fun name value mentioned => Layer.wins_cons_iff_of_mentioned mentioned

/-- The text that the file gives for a number does no harm as the environment overrides it. A
name of no setting is not reported where a wrong value comes before it. -/
theorem load_layered_overridden :
    let file := SettingsFile.found "default_top: !!str 25\npagination_enabled: !!bool true\n"
    let layer : Layer := [("default_top", .text "25"), ("pagination_enabled", .bool true)]
    let overriding := [("odata_query_DEFAULT_TOP", "25")]
    let d : Defaults := { top := some 25, pagination := true }
    let mistaken := [("odata_query_DEFAULT_TOP", "25"), ("ODATA_QUERY_limit", "10"),
      ("ODATA_QUERY_default_skip", "-1")]
    let error : SettingError := ⟨"default_skip", .negative (-1)⟩
    file.layerBy Layer.ofFile? = .ok layer ∧
      load file overriding = .ok d ∧ d.Follows [.builtIn, layer, .ofEnvironment overriding] ∧
      load file mistaken = .error (.setting error) ∧
      error.IsFirst [.builtIn, layer, .ofEnvironment mistaken] := by
  intro file layer overriding d mistaken error
  have taken : file.layerBy Layer.ofFile? = .ok layer := by decide +kernel
  have loads : load file overriding = .ok d := by decide +kernel
  have fails : load file mistaken = .error (.setting error) := by decide +kernel
  obtain ⟨-, -, -, layered⟩ := load_layered Layer.ofFile?
  obtain ⟨loadsIff, -, -, -⟩ := layered file layer taken overriding
  obtain ⟨-, failsIff, -, -⟩ := layered file layer taken mistaken
  obtain ⟨found, same, first⟩ := (failsIff (.setting error)).mp fails
  cases same
  exact ⟨taken, loads, (loadsIff d).mp loads, fails, first⟩

end Defaults

end QueryOptions
