import QueryOptions.Defaults.Load

/-!
# What settings accept

Two settings are numbers that may be left open, and two are truth values. To
set a name changes the setting of this name alone, and a value that does not
fit the name is reported instead.
-/

namespace QueryOptions

/-- A number of at most 64 bits, or none. -/
inductive SettingValue.IsNumber : SettingValue → Option Nat → Prop
  | null : IsNumber .null none
  | unsigned {n : Nat} (bounded : n ≤ Decimal.greatestUnsigned) : IsNumber (.unsigned n) (some n)
  | signed {n : Int} (nonneg : 0 ≤ n) (bounded : n ≤ Decimal.greatestSigned) :
      IsNumber (.signed n) (some n.toNat)

/-- The setting of a name has the value that is given for it. -/
structure Defaults.Shows (d : Defaults) (name : String) (value : SettingValue) : Prop where
  known : name ∈ Defaults.names
  top : name = "default_top" → value.IsNumber d.top
  skip : name = "default_skip" → value.IsNumber d.skip
  pagination : name = "pagination_enabled" → value = .bool d.pagination
  showCount : name = "default_show_count" → value = .bool d.showCount

/-- Some setting has this name, and the value is of its type. -/
def SettingValue.Fits (value : SettingValue) (name : String) : Prop :=
  ∃ d : Defaults, d.Shows name value

def Defaults.numberNames : List String := ["default_top", "default_skip"]

def Defaults.flagNames : List String := ["pagination_enabled", "default_show_count"]

theorem Defaults.mem_numberNames {name : String} :
    name ∈ numberNames ↔ name = "default_top" ∨ name = "default_skip" := by
  simp [numberNames]

theorem Defaults.mem_flagNames {name : String} :
    name ∈ flagNames ↔ name = "pagination_enabled" ∨ name = "default_show_count" := by
  simp [flagNames]

/-- What is wrong with a value that does not fit its name. -/
inductive SettingFault.Concerns (name : String) : SettingValue → SettingFault → Prop
  | unknownName {value : SettingValue} (unknown : name ∉ Defaults.names) :
      Concerns name value (.unknownName name)
  | negative {n : Int} (number : name ∈ Defaults.numberNames) (below : n < 0)
      (bounded : Decimal.leastSigned ≤ n) : Concerns name (.signed n) (.negative n)
  | noNumber {value : SettingValue} (number : name ∈ Defaults.numberNames)
      (wrong : ∀ number, ¬ value.IsNumber number)
      (unbounded : ∀ n < 0, value = .signed n → n < Decimal.leastSigned) :
      Concerns name value (.wrongKind value "u64")
  | noFlag {value : SettingValue} (flag : name ∈ Defaults.flagNames)
      (wrong : ∀ flag, value ≠ .bool flag) : Concerns name value (.wrongKind value "a boolean")

namespace SettingValue

variable {value : SettingValue} {name : String}

theorem IsNumber.unique {first second : Option Nat} (is : value.IsNumber first)
    (also : value.IsNumber second) : first = second := by
  cases is <;> cases also <;> rfl

theorem IsNumber.nonneg_of_signed {n : Int} {number : Option Nat}
    (is : IsNumber (.signed n) number) : 0 ≤ n := by
  cases is
  assumption

theorem fault_of_asNumber (fails : value.asNumber = .error (.wrongKind value "u64"))
    (wrong : ∀ number, ¬ value.IsNumber number)
    (unbounded : ∀ n < 0, value = .signed n → n < Decimal.leastSigned) :
    ∃ fault, value.asNumber = .error fault ∧
      ∀ name ∈ Defaults.numberNames, fault.Concerns name value :=
  ⟨_, fails, fun _ number => .noNumber number wrong unbounded⟩

theorem asNumber_cases (value : SettingValue) :
    (∃ number, value.asNumber = .ok number ∧ value.IsNumber number) ∨
    ∃ fault, value.asNumber = .error fault ∧
      ∀ name ∈ Defaults.numberNames, fault.Concerns name value := by
  cases value with
  | null => exact .inl ⟨none, rfl, .null⟩
  | unsigned n =>
      by_cases bounded : n ≤ Decimal.greatestUnsigned
      · exact .inl ⟨some n, if_pos bounded, .unsigned bounded⟩
      · refine .inr (fault_of_asNumber (if_neg bounded) ?_ nofun)
        rintro number ⟨⟩
        contradiction
  | signed n =>
      by_cases long : n < Decimal.leastSigned ∨ Decimal.greatestSigned < n
      · refine .inr (fault_of_asNumber (if_pos long) ?_ ?_)
        · rintro number ⟨⟩
          unfold Decimal.leastSigned at long
          omega
        · rintro m negative ⟨⟩
          unfold Decimal.greatestSigned at long
          omega
      · obtain ⟨least, most⟩ := not_or.mp long
        by_cases negative : n < 0
        · refine .inr ⟨.negative n, ?_, ?_⟩
          · rw [asNumber, if_neg long, if_pos negative]
          · exact fun name number => .negative number negative (Int.not_lt.mp least)
        · refine .inl ⟨some n.toNat, ?_, .signed (Int.not_lt.mp negative) (Int.not_lt.mp most)⟩
          rw [asNumber, if_neg long, if_neg negative]
  | bool _ | float _ | text _ | sequence | map => exact .inr (fault_of_asNumber rfl nofun nofun)

theorem asFlag_cases (value : SettingValue) :
    (∃ flag, value.asFlag = .ok flag ∧ value = .bool flag) ∨
    ∃ fault, value.asFlag = .error fault ∧
      ∀ name ∈ Defaults.flagNames, fault.Concerns name value := by
  cases value with
  | bool flag => exact .inl ⟨flag, rfl, rfl⟩
  | _ => exact .inr ⟨_, rfl, fun name flag => .noFlag flag nofun⟩

end SettingValue

namespace SettingFault.Concerns

variable {name : String} {value : SettingValue} {fault other : SettingFault}

theorem not_fits (concerns : fault.Concerns name value) : ¬ value.Fits name := by
  rintro ⟨d, shows⟩
  cases concerns with
  | unknownName unknown => exact unknown shows.known
  | negative number below _ =>
      rcases Defaults.mem_numberNames.mp number with same | same
      · exact Int.not_le.mpr below (shows.top same).nonneg_of_signed
      · exact Int.not_le.mpr below (shows.skip same).nonneg_of_signed
  | noNumber number wrong _ =>
      rcases Defaults.mem_numberNames.mp number with same | same
      · exact wrong _ (shows.top same)
      · exact wrong _ (shows.skip same)
  | noFlag flag wrong =>
      rcases Defaults.mem_flagNames.mp flag with same | same
      · exact wrong _ (shows.pagination same)
      · exact wrong _ (shows.showCount same)

theorem known_of_number : ∀ name ∈ Defaults.numberNames, name ∈ Defaults.names := by decide

theorem known_of_flag : ∀ name ∈ Defaults.flagNames, name ∈ Defaults.names := by decide

theorem not_flag_of_number : ∀ name ∈ Defaults.numberNames, name ∉ Defaults.flagNames := by decide

theorem unique (concerns : fault.Concerns name value) (also : other.Concerns name value) :
    fault = other := by
  cases concerns with
  | unknownName unknown =>
      cases also with
      | unknownName => rfl
      | negative number => exact absurd (known_of_number name number) unknown
      | noNumber number => exact absurd (known_of_number name number) unknown
      | noFlag flag => exact absurd (known_of_flag name flag) unknown
  | negative number below bounded =>
      cases also with
      | unknownName unknown => exact absurd (known_of_number name number) unknown
      | negative => rfl
      | noNumber _ _ unbounded => exact absurd (unbounded _ below rfl) (Int.not_lt.mpr bounded)
      | noFlag flag => exact absurd flag (not_flag_of_number name number)
  | noNumber number _ unbounded =>
      cases also with
      | unknownName unknown => exact absurd (known_of_number name number) unknown
      | negative _ below bounded => exact absurd (unbounded _ below rfl) (Int.not_lt.mpr bounded)
      | noNumber => rfl
      | noFlag flag => exact absurd flag (not_flag_of_number name number)
  | noFlag flag =>
      cases also with
      | unknownName unknown => exact absurd (known_of_flag name flag) unknown
      | negative number => exact absurd flag (not_flag_of_number name number)
      | noNumber number => exact absurd flag (not_flag_of_number name number)
      | noFlag => rfl

end SettingFault.Concerns

namespace Defaults

/-- One setting has the value of its name, and the others are as they were. -/
structure SetsOnly (name : String) (value : SettingValue) (d result : Defaults) : Prop where
  shows : result.Shows name value
  others : ∀ other given, other ≠ name → (result.Shows other given ↔ d.Shows other given)

variable {d : Defaults} {name : String} {value : SettingValue}

theorem setsOnly_top {number : Option Nat} (is : value.IsNumber number) :
    SetsOnly "default_top" value d { d with top := number } where
  shows := ⟨by decide, fun _ => is, by simp, by simp, by simp⟩
  others _ _ other :=
    ⟨fun shows => { shows with top := fun same => absurd same other },
      fun shows => { shows with top := fun same => absurd same other }⟩

theorem setsOnly_skip {number : Option Nat} (is : value.IsNumber number) :
    SetsOnly "default_skip" value d { d with skip := number } where
  shows := ⟨by decide, by simp, fun _ => is, by simp, by simp⟩
  others _ _ other :=
    ⟨fun shows => { shows with skip := fun same => absurd same other },
      fun shows => { shows with skip := fun same => absurd same other }⟩

theorem setsOnly_pagination {flag : Bool} (is : value = .bool flag) :
    SetsOnly "pagination_enabled" value d { d with pagination := flag } where
  shows := ⟨by decide, by simp, by simp, fun _ => is, by simp⟩
  others _ _ other :=
    ⟨fun shows => { shows with pagination := fun same => absurd same other },
      fun shows => { shows with pagination := fun same => absurd same other }⟩

theorem setsOnly_showCount {flag : Bool} (is : value = .bool flag) :
    SetsOnly "default_show_count" value d { d with showCount := flag } where
  shows := ⟨by decide, by simp, by simp, by simp, fun _ => is⟩
  others _ _ other :=
    ⟨fun shows => { shows with showCount := fun same => absurd same other },
      fun shows => { shows with showCount := fun same => absurd same other }⟩

theorem map_asNumber_cases {set : Option Nat → Defaults} (number : name ∈ numberNames)
    (only : ∀ number, value.IsNumber number → SetsOnly name value d (set number)) :
    (∃ result, value.asNumber.map set = .ok result ∧ SetsOnly name value d result) ∨
      ∃ fault, value.asNumber.map set = .error fault ∧ fault.Concerns name value := by
  rcases value.asNumber_cases with ⟨found, read, is⟩ | ⟨fault, read, concerns⟩
  · exact .inl ⟨set found, by rw [read, Except.map], only found is⟩
  · exact .inr ⟨fault, by rw [read, Except.map], concerns name number⟩

theorem map_asFlag_cases {set : Bool → Defaults} (flag : name ∈ flagNames)
    (only : ∀ flag, value = .bool flag → SetsOnly name value d (set flag)) :
    (∃ result, value.asFlag.map set = .ok result ∧ SetsOnly name value d result) ∨
      ∃ fault, value.asFlag.map set = .error fault ∧ fault.Concerns name value := by
  rcases value.asFlag_cases with ⟨found, read, is⟩ | ⟨fault, read, concerns⟩
  · exact .inl ⟨set found, by rw [read, Except.map], only found is⟩
  · exact .inr ⟨fault, by rw [read, Except.map], concerns name flag⟩

/-- A value that fits its name is set, and any other one is reported. -/
theorem set_cases (d : Defaults) (name : String) (value : SettingValue) :
    (∃ result, d.set name value = .ok result ∧ SetsOnly name value d result) ∨
      ∃ fault, d.set name value = .error fault ∧ fault.Concerns name value := by
  unfold set
  split
  next => exact map_asNumber_cases (by decide) fun _ => setsOnly_top
  next => exact map_asNumber_cases (by decide) fun _ => setsOnly_skip
  next => exact map_asFlag_cases (by decide) fun _ => setsOnly_pagination
  next => exact map_asFlag_cases (by decide) fun _ => setsOnly_showCount
  next notTop notSkip notPagination notShowCount =>
    have unknown : name ∉ names := by
      simpa [names] using And.intro notTop ⟨notSkip, notPagination, notShowCount⟩
    exact .inr ⟨_, rfl, .unknownName unknown⟩

end Defaults

end QueryOptions
