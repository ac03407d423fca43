import Mathlib.Data.List.Basic
import QueryOptions.Calendar.Date

/-!
# Days and dates

Every day has one date: its year is the one whose days include it, and within
the year the lengths of the months are used up one after another. The numbers
of days have the order of their dates, compared by year, month and day.
-/

namespace QueryOptions.Calendar

theorem daysBeforeYear_succ (year : Int) :
    daysBeforeYear (year + 1) = daysBeforeYear year + if isLeapYear year then 366 else 365 := by
  simp only [daysBeforeYear, isLeapYear, Bool.and_eq_true, Bool.or_eq_true, decide_eq_true_eq]
  split <;> omega

theorem daysBeforeYear_mono {first second : Int} (le : first ≤ second) :
    daysBeforeYear first ≤ daysBeforeYear second := by
  unfold daysBeforeYear
  omega

/-- The number of days in some months. -/
def totalDays (lengths : List Nat) : Nat := lengths.foldl (· + ·) 0

@[simp] theorem totalDays_nil : totalDays [] = 0 := rfl

@[simp] theorem totalDays_cons (length : Nat) (lengths : List Nat) :
    totalDays (length :: lengths) = length + totalDays lengths := by
  have shifted (start : Nat) : lengths.foldl (· + ·) start = start + totalDays lengths := by
    induction lengths generalizing start with
    | nil => rfl
    | cons next rest inductionHypothesis =>
        simp only [totalDays, List.foldl_cons, inductionHypothesis (start + next),
          inductionHypothesis (0 + next)]
        omega
  simp only [totalDays, List.foldl_cons, shifted (0 + length)]
  omega

@[simp] theorem length_monthLengths (leap : Bool) : (monthLengths leap).length = 12 := rfl

theorem totalDays_monthLengths (leap : Bool) :
    totalDays (monthLengths leap) = if leap then 366 else 365 := by
  cases leap <;> rfl

theorem totalDays_take_lt (leap : Bool) {first second : Nat} (lt : first < second)
    (within : second ≤ 12) :
    totalDays ((monthLengths leap).take first) + (monthLengths leap).getD first 0 ≤
      totalDays ((monthLengths leap).take second) := by
  have all : ∀ leap : Bool, ∀ second < 13, ∀ first < second,
      totalDays ((monthLengths leap).take first) + (monthLengths leap).getD first 0 ≤
        totalDays ((monthLengths leap).take second) := by decide
  exact all leap second (by omega) first lt

namespace Date

/-- The days of a year before a month. -/
def daysBeforeMonth (d : Date) : Nat :=
  totalDays ((monthLengths (isLeapYear d.year)).take (d.month - 1))

theorem dayNumber_eq (d : Date) :
    d.dayNumber = daysBeforeYear d.year + d.daysBeforeMonth + d.day - 1 := rfl

theorem valid_iff {d : Date} :
    d.valid = true ↔
      (1 ≤ d.month ∧ d.month ≤ 12) ∧ 1 ≤ d.day ∧ d.day ≤ monthLength d.year d.month := by
  simp [valid, and_assoc]

theorem dayNumber_bounds {d : Date} (valid : d.valid = true) :
    daysBeforeYear d.year ≤ d.dayNumber ∧ d.dayNumber < daysBeforeYear (d.year + 1) := by
  obtain ⟨⟨monthPositive, monthLe⟩, dayPositive, dayLe⟩ := valid_iff.mp valid
  have used := totalDays_take_lt (isLeapYear d.year) (show d.month - 1 < 12 by omega) (Nat.le_refl 12)
  have whole := totalDays_monthLengths (isLeapYear d.year)
  rw [← length_monthLengths (isLeapYear d.year), List.take_length] at used
  rw [dayNumber_eq, daysBeforeYear_succ]
  unfold daysBeforeMonth
  unfold monthLength at dayLe
  split at whole <;> simp_all <;> omega

/-- A later day has a later date. -/
theorem lt_of_dayNumber_lt {first second : Date} (firstValid : first.valid = true)
    (secondValid : second.valid = true) (lt : first.dayNumber < second.dayNumber) :
    first.year < second.year ∨ first.year = second.year ∧
      (first.month < second.month ∨ first.month = second.month ∧ first.day < second.day) := by
  obtain ⟨firstFrom, firstTo⟩ := dayNumber_bounds firstValid
  obtain ⟨secondFrom, secondTo⟩ := dayNumber_bounds secondValid
  rcases Int.lt_trichotomy first.year second.year with before | same | after
  · exact .inl before
  · refine .inr ⟨same, ?_⟩
    obtain ⟨⟨_, firstMonth⟩, firstDay, _⟩ := valid_iff.mp firstValid
    obtain ⟨⟨_, secondMonth⟩, _, secondDay⟩ := valid_iff.mp secondValid
    rw [dayNumber_eq, dayNumber_eq, same] at lt
    unfold daysBeforeMonth at lt
    rw [same] at lt
    rcases Nat.lt_trichotomy first.month second.month with before | sameMonth | after
    · exact .inl before
    · rw [sameMonth] at lt
      exact .inr ⟨sameMonth, by omega⟩
    · have used := totalDays_take_lt (isLeapYear second.year)
        (show second.month - 1 < first.month - 1 by omega) (by omega)
      unfold monthLength at secondDay
      omega
  · have ordered := daysBeforeYear_mono (show second.year + 1 ≤ first.year by omega)
    omega

/-- The estimate is never off by more than one year. -/
theorem yearOfDay_spec (day : Int) :
    daysBeforeYear (yearOfDay day) ≤ day ∧ day < daysBeforeYear (yearOfDay day + 1) := by
  have low : daysBeforeYear (day * 400 / 146097 - 1) ≤ day := by
    unfold daysBeforeYear
    omega
  have high : day < daysBeforeYear (day * 400 / 146097 + 1 + 1) := by
    unfold daysBeforeYear
    omega
  unfold yearOfDay
  simp only
  split_ifs with early late
  · exact ⟨low, by simpa using early⟩
  · exact ⟨late, high⟩
  · omega

/-- Walking through the months stops in the one that the rest of the days falls into. -/
theorem monthAndDay_spec {lengths : List Nat} {rest : Nat} (inside : rest < totalDays lengths)
    (month : Nat) :
    ∃ before length after, lengths = before ++ length :: after ∧
      totalDays before ≤ rest ∧ rest < totalDays before + length ∧
      monthAndDay month lengths rest = (month + before.length, rest - totalDays before + 1) := by
  induction lengths generalizing month rest with
  | nil => simp at inside
  | cons length lengths inductionHypothesis =>
      rw [totalDays_cons] at inside
      by_cases here : rest < length
      · exact ⟨[], length, lengths, rfl, by simp, by simpa using here, by simp [monthAndDay, here]⟩
      · obtain ⟨before, found, after, split, started, unfinished, walked⟩ :=
          inductionHypothesis (show rest - length < totalDays lengths by omega) (month + 1)
        refine ⟨length :: before, found, after, by rw [split]; rfl, ?_, ?_, ?_⟩
        · rw [totalDays_cons]
          omega
        · rw [totalDays_cons]
          omega
        · rw [monthAndDay, if_neg here, walked, totalDays_cons, List.length_cons, Prod.mk.injEq]
          omega

/-- The date of a day is a date of the calendar, and the day is recovered from it. -/
theorem ofDayNumber_spec (day : Int) :
    (ofDayNumber day).valid = true ∧ (ofDayNumber day).dayNumber = day := by
  obtain ⟨yearFrom, yearTo⟩ := yearOfDay_spec day
  rw [daysBeforeYear_succ] at yearTo
  have whole := totalDays_monthLengths (isLeapYear (yearOfDay day))
  have inside : (day - daysBeforeYear (yearOfDay day)).toNat <
      totalDays (monthLengths (isLeapYear (yearOfDay day))) := by
    split at whole <;> simp_all <;> omega
  obtain ⟨before, length, after, split, started, unfinished, walked⟩ := monthAndDay_spec inside 1
  have date : ofDayNumber day = ⟨yearOfDay day, 1 + before.length,
      (day - daysBeforeYear (yearOfDay day)).toNat - totalDays before + 1⟩ := by
    simp only [ofDayNumber, walked]
  have counted := congrArg List.length split
  rw [length_monthLengths, List.length_append, List.length_cons] at counted
  rw [date]
  constructor
  · rw [valid_iff]
    simp [monthLength, split]
    omega
  · rw [dayNumber_eq]
    simp [daysBeforeMonth, split]
    omega

end Date

end QueryOptions.Calendar
