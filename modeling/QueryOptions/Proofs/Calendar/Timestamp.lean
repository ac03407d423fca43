import Mathlib.Data.List.Forall2
import QueryOptions.Calendar.Reader
import QueryOptions.Proofs.Calendar.Days
import QueryOptions.Proofs.Decimal.Padded

/-!
# Instants and their timestamps

The text of an instant is a row of numerals of fixed widths with marks between
them. Reading it gives back the instant to the millisecond, and texts are
ordered like the instants in time, because the fields of an instant are: a
later day has a later date, and a later second a later time of day.
-/

namespace QueryOptions

namespace Calendar

open Decimal

/-- Widths of the fields and the marks behind them. -/
def timestampLayout : List (Nat × Char) :=
  [(4, '-'), (2, '-'), (2, 'T'), (2, ':'), (2, ':'), (2, '.'), (3, 'Z')]

/-- Numbers as numerals of their widths, with marks. -/
def fieldsText : List (Nat × Char) → List Nat → List Char
  | (width, mark) :: layout, n :: values =>
    padLeft width '0' (digits n) ++ mark :: fieldsText layout values
  | _, _ => []

/-- Every number has a numeral of its width. -/
def Fits (layout : List (Nat × Char)) (values : List Nat) : Prop :=
  List.Forall₂ (fun field n => 0 < field.1 ∧ n < 10 ^ field.1) layout values

theorem drop_fieldsText {width n : Nat} {mark : Char} {layout : List (Nat × Char)}
    {values : List Nat} (fits : 0 < width ∧ n < 10 ^ width) :
    (fieldsText ((width, mark) :: layout) (n :: values)).drop (width + 1) =
      fieldsText layout values := by
  have spelled := spells_padLeft fits.1 fits.2
  rw [fieldsText, ← List.drop_drop, List.drop_left' spelled.length]
  rfl

theorem append_lt_append {first second others more : List Char}
    (sameLength : first.length = second.length) (lt : first < second) :
    first ++ others < second ++ more := by
  induction first generalizing second with
  | nil =>
      obtain rfl := List.eq_nil_of_length_eq_zero sameLength.symm
      exact absurd lt (List.lt_irrefl _)
  | cons c first inductionHypothesis =>
      cases second with
      | nil => simp at sameLength
      | cons d second =>
          rw [List.cons_append, List.cons_append, List.cons_lt_cons_iff]
          rcases List.cons_lt_cons_iff.mp lt with less | ⟨same, rest⟩
          · exact .inl less
          · exact .inr ⟨same, inductionHypothesis (Nat.succ_inj.mp sameLength) rest⟩

/-- Numerals of fixed widths are ordered like the numbers, field by field. -/
theorem fieldsText_lt {layout : List (Nat × Char)} {first second : List Nat}
    (firstFits : Fits layout first) (secondFits : Fits layout second) (lt : first < second) :
    fieldsText layout first < fieldsText layout second := by
  induction firstFits generalizing second with
  | nil =>
      cases secondFits
      exact absurd lt (List.lt_irrefl _)
  | cons fits _ inductionHypothesis =>
      cases secondFits with
      | cons otherFits restFits =>
          have spelled := spells_padLeft fits.1 fits.2
          have otherSpelled := spells_padLeft otherFits.1 otherFits.2
          rcases List.cons_lt_cons_iff.mp lt with less | ⟨rfl, rest⟩
          · exact append_lt_append (spelled.length.trans otherSpelled.length.symm)
              (spelled.lt otherSpelled less)
          · refine List.append_left_lt (List.cons_lt_cons_iff.mpr (.inr ⟨rfl, ?_⟩))
            exact inductionHypothesis restFits rest

/-- Whether a text has the form of another one, in which zeros stand for digits. -/
def hasForm : List Char → List Char → Bool
  | [], [] => true
  | shape :: form, c :: text => (if shape = '0' then c.isDigit else c = shape) && hasForm form text
  | _, _ => false

theorem hasForm_append {form others text more : List Char} (first : hasForm form text = true)
    (second : hasForm others more = true) : hasForm (form ++ others) (text ++ more) = true := by
  induction form generalizing text with
  | nil => cases text <;> simp_all [hasForm]
  | cons shape form inductionHypothesis =>
      cases text with
      | nil => simp [hasForm] at first
      | cons c text =>
          rw [hasForm, Bool.and_eq_true] at first
          rw [List.cons_append, List.cons_append, hasForm, Bool.and_eq_true]
          exact ⟨first.1, inductionHypothesis first.2⟩

theorem hasForm_digits {text : List Char} (digits : ∀ c ∈ text, c.isDigit = true) :
    hasForm (List.replicate text.length '0') text = true := by
  induction text with
  | nil => rfl
  | cons c text inductionHypothesis =>
      rw [List.length_cons, List.replicate_succ, hasForm]
      simpa [digits c List.mem_cons_self] using
        inductionHypothesis fun d written => digits d (.tail c written)

theorem hasForm_fieldsText {layout : List (Nat × Char)} {values : List Nat}
    (fits : Fits layout values) :
    hasForm (layout.flatMap fun field => List.replicate field.1 '0' ++ [field.2])
      (fieldsText layout values) = true := by
  induction fits with
  | nil => rfl
  | @cons field n layout values fits _ inductionHypothesis =>
      have spelled := spells_padLeft fits.1 fits.2
      have numeral := hasForm_digits spelled.digits
      rw [spelled.length] at numeral
      rw [List.flatMap_cons, List.append_assoc]
      refine hasForm_append numeral ?_
      by_cases zero : field.2 = '0' <;> simp [hasForm, zero, inductionHypothesis]

/-! ## The fields of an instant -/

namespace Instant

/-- A leap second has a thousand million nanoseconds more than the second before it. -/
def IsLeap (i : Instant) : Prop := nanosPerSecond ≤ i.nanos

instance (i : Instant) : Decidable i.IsLeap := Nat.decLe _ _

/-- Instants are ordered in time. -/
instance : LE Instant where
  le first second :=
    first.seconds < second.seconds ∨
      first.seconds = second.seconds ∧ first.nanos ≤ second.nanos

/-- What clocks and calendars show in a year of four digits. -/
structure IsShowable (i : Instant) : Prop where
  nanos : i.nanos < 2 * nanosPerSecond
  year : 0 ≤ i.date.year ∧ i.date.year ≤ 9999

/-- Year, month, day, hour, minute, second and millisecond. -/
def fields (i : Instant) : List Nat :=
  [i.date.year.toNat, i.date.month, i.date.day, i.secondOfDay / 3600, i.secondOfDay / 60 % 60,
    i.secondOfDay % 60 + i.nanos / nanosPerSecond, i.nanos % nanosPerSecond / 1000000]

variable {i j : Instant}

theorem date_valid (i : Instant) : i.date.valid = true := (Date.ofDayNumber_spec _).1

theorem dayNumber_date (i : Instant) :
    i.date.dayNumber = i.seconds / secondsPerDay + epochDay := (Date.ofDayNumber_spec _).2

theorem secondOfDay_lt (i : Instant) : i.secondOfDay < 86400 := by
  unfold secondOfDay secondsPerDay
  omega

theorem monthLength_le (year : Int) (month : Nat) : monthLength year month ≤ 31 := by
  have all : ∀ leap : Bool, ∀ length ∈ monthLengths leap, length ≤ 31 := by decide
  rw [monthLength, List.getD_eq_getElem?_getD]
  cases found : (monthLengths (isLeapYear year))[month - 1]? with
  | none => simp
  | some length => exact all _ length (List.mem_of_getElem? found)

theorem fits_fields (showable : i.IsShowable) : Fits timestampLayout i.fields := by
  obtain ⟨⟨_, monthLe⟩, _, dayLe⟩ := Date.valid_iff.mp i.date_valid
  have longest := monthLength_le i.date.year i.date.month
  have within := i.secondOfDay_lt
  have nanos := showable.nanos
  have year := showable.year
  unfold nanosPerSecond at nanos
  simp only [Fits, timestampLayout, fields, nanosPerSecond, List.forall₂_cons, List.Forall₂.nil,
    and_true]
  omega

theorem text_eq_fieldsText (showable : i.IsShowable) :
    i.text.toList = fieldsText timestampLayout i.fields := by
  have year := showable.year
  simp [text, yearText, year, fieldsText, timestampLayout, fields, paddedText]

/-- Away from leap seconds a later instant has later fields, or the same ones within a
millisecond. -/
theorem fields_le (showable : i.IsShowable) (later : j.IsShowable) (regular : ¬ i.IsLeap)
    (laterRegular : ¬ j.IsLeap) (le : i ≤ j) : i.fields = j.fields ∨ i.fields < j.fields := by
  obtain ⟨⟨month, _⟩, day, _⟩ := Date.valid_iff.mp i.date_valid
  have nanos := showable.nanos
  have laterNanos := later.nanos
  unfold IsLeap at regular laterRegular
  unfold nanosPerSecond at *
  have dayLe : i.seconds / secondsPerDay ≤ j.seconds / secondsPerDay := by
    unfold secondsPerDay
    rcases le with earlier | ⟨same, -⟩ <;> omega
  rcases Int.lt_or_eq_of_le dayLe with lessDay | sameDay
  · -- The dates differ already.
    right
    have dayNumbers : i.date.dayNumber < j.date.dayNumber := by
      rw [dayNumber_date, dayNumber_date]
      omega
    have dates := Date.lt_of_dayNumber_lt i.date_valid j.date_valid dayNumbers
    have year := showable.year
    have laterYear := later.year
    simp only [fields, List.cons_lt_cons_iff]
    omega
  · have sameDate : i.date = j.date := by rw [date, date, sameDay]
    have seconds : i.secondOfDay ≤ j.secondOfDay := by
      unfold secondOfDay secondsPerDay at *
      rcases le with earlier | ⟨same, -⟩ <;> omega
    rcases Nat.lt_or_eq_of_le seconds with lessSecond | sameSecond
    · right
      simp only [fields, sameDate, List.cons_lt_cons_self, List.cons_lt_cons_iff,
        List.not_lt_nil, and_false, or_false, nanosPerSecond]
      omega
    · have order : i.nanos ≤ j.nanos := by
        unfold secondOfDay secondsPerDay at *
        rcases le with earlier | ⟨-, ordered⟩
        · omega
        · exact ordered
      simp only [fields, sameDate, sameSecond, List.cons.injEq, true_and, and_true,
        List.cons_lt_cons_self, List.cons_lt_cons_iff, List.not_lt_nil, and_false, or_false,
        nanosPerSecond]
      omega

end Instant

/-! ## Reading fields -/

section Reading

variable {text rest : List Char} {width n : Nat}

theorem not_isBlank_of_isDigit {c : Char} (digit : c.isDigit = true) : Text.isBlank c = false := by
  have bounds : 48 ≤ c.toNat ∧ c.toNat ≤ 57 := Char.isDigit_iff_toNat.mp digit
  simp [Text.isBlank, Text.blankRanges]
  omega

theorem isDigit_iff {c : Char} : isDigit c = c.isDigit := by
  simp [isDigit, Char.isDigit, Char.le_def]

theorem skipBlank_digits (spelled : Spells text (width + 1) n) :
    skipBlank (text ++ rest) = text ++ rest := by
  cases text with
  | nil => exact absurd spelled.length (by simp)
  | cons c text =>
      simp [skipBlank, not_isBlank_of_isDigit (spelled.digits c List.mem_cons_self)]

theorem takeWhile_digits (spelled : Spells text width n) :
    (text ++ rest).takeWhile isDigit = text ++ rest.takeWhile isDigit :=
  List.takeWhile_append_of_pos fun c written => isDigit_iff.trans (spelled.digits c written)

theorem ne_nil_of_spells (spelled : Spells text (width + 1) n) : text ≠ [] := by
  rintro rfl
  exact absurd spelled.length (by simp)

theorem takeDigits_digits (spelled : Spells text (width + 1) n) :
    takeDigits (width + 1) (text ++ rest) = some (text, rest) := by
  have taken : (text ++ rest).take (width + 1) = text ++ [] := by
    rw [List.take_left' spelled.length, List.append_nil]
  rw [takeDigits, taken, takeWhile_digits spelled]
  simp [ne_nil_of_spells spelled]

theorem takeDigits_length {mark : Char} (spelled : Spells text (width + 1) n)
    (marked : mark.isDigit = false) :
    takeDigits (text ++ mark :: rest).length (text ++ mark :: rest) = some (text, mark :: rest) := by
  have shown : isDigit mark = false := isDigit_iff.trans marked
  rw [takeDigits, List.take_length, takeWhile_digits spelled]
  simp [shown, ne_nil_of_spells spelled]

theorem readField_digits (spelled : Spells text 2 n) : readField (text ++ rest) = some (n, rest) := by
  simp [readField, skipBlank_digits spelled, takeDigits_digits spelled, spelled.value]

theorem readYear_digits (spelled : Spells text 4 n) :
    readYear (text ++ rest) = some ((n : Int), rest) := by
  have taken := @takeDigits_digits _ rest _ _ spelled
  have skipped := @skipBlank_digits _ rest _ _ spelled
  cases text with
  | nil => exact absurd spelled.length (by simp)
  | cons c text =>
      have digit := spelled.digits c List.mem_cons_self
      rw [List.cons_append] at skipped taken
      rw [readYear, List.cons_append, skipped]
      split
      next minus => exact absurd digit (by simp [(List.cons.inj minus).1])
      next plus => exact absurd digit (by simp [(List.cons.inj plus).1])
      next => simp [taken, spelled.value]

theorem readMark_self {mark : Char} (shown : Text.isBlank mark = false) :
    readMark mark (mark :: rest) = some rest := by
  simp [readMark, skipBlank, shown]

theorem readFraction_digits {mark : Char} (spelled : Spells text 3 n)
    (marked : mark.isDigit = false) :
    readFraction ('.' :: (text ++ mark :: rest)) = some (n * 1000000, mark :: rest) := by
  have kept : text.take 9 = text := List.take_of_length_le (by rw [spelled.length]; decide)
  rw [readFraction, takeDigits_length spelled marked]
  simp [kept, spelled.length, spelled.value, tenTo]

theorem bind_of_eq_some {α β : Type} {first : Option α} {value : α} {next : α → Option β}
    (read : first = some value) : (first >>= next) = next value := by
  rw [read]
  rfl

theorem read?_row {yearText monthText dayText hourText minuteText secondText millisText : List Char}
    {year month day hour minute second millis : Nat} (yearRead : Spells yearText 4 year)
    (monthRead : Spells monthText 2 month) (dayRead : Spells dayText 2 day)
    (hourRead : Spells hourText 2 hour) (minuteRead : Spells minuteText 2 minute)
    (secondRead : Spells secondText 2 second) (millisRead : Spells millisText 3 millis)
    (valid : Date.valid ⟨year, month, day⟩ = true) (years : year ≤ 9999) (hours : hour < 24)
    (minutes : minute < 60) (seconds : second ≤ 60) :
    ZonedTime.read? (yearText ++ '-' :: (monthText ++ '-' :: (dayText ++ 'T' :: (hourText ++
        ':' :: (minuteText ++ ':' :: (secondText ++ '.' :: (millisText ++ ['Z']))))))) =
      some ⟨(Date.dayNumber ⟨year, month, day⟩ - epochDay) * secondsPerDay +
          (hour * 3600 + minute * 60 + if second = 60 then 59 else second : Nat),
        if second = 60 then nanosPerSecond + millis * 1000000 else millis * 1000000, 0⟩ := by
  have within : daysBeforeYear year ≤ Date.dayNumber ⟨year, month, day⟩ ∧
      Date.dayNumber ⟨year, month, day⟩ < daysBeforeYear (year + 1) := Date.dayNumber_bounds valid
  have first := daysBeforeYear_mono (show firstYear ≤ year by unfold firstYear; omega)
  have last := daysBeforeYear_mono (show (year : Int) + 1 ≤ lastYear + 1 by unfold lastYear; omega)
  have hyphen (rest : List Char) : readMark '-' ('-' :: rest) = some rest := readMark_self rfl
  have colon (rest : List Char) : readMark ':' (':' :: rest) = some rest := readMark_self rfl
  have fraction := @readFraction_digits _ [] _ 'Z' millisRead rfl
  have offset : readOffset (skipBlank ['Z']) = some (0, []) := by decide
  rw [ZonedTime.read?]
  refine (bind_of_eq_some (readYear_digits yearRead)).trans ?_
  refine (bind_of_eq_some (hyphen _)).trans ?_
  refine (bind_of_eq_some (readField_digits monthRead)).trans ?_
  refine (bind_of_eq_some (hyphen _)).trans ?_
  refine (bind_of_eq_some (readField_digits dayRead)).trans ?_
  refine (if_pos (by rfl)).trans ((bind_of_eq_some rfl).trans ?_)
  refine (bind_of_eq_some (readField_digits hourRead)).trans ?_
  refine (bind_of_eq_some (colon _)).trans ?_
  refine (bind_of_eq_some (readField_digits minuteRead)).trans ?_
  refine (bind_of_eq_some (colon _)).trans ?_
  refine (bind_of_eq_some (readField_digits secondRead)).trans ?_
  refine (bind_of_eq_some fraction).trans ?_
  refine (bind_of_eq_some offset).trans ?_
  dsimp only
  rw [if_neg, if_pos]
  · simp only [inCalendar, Bool.and_eq_true, decide_eq_true_eq]
    simp only [ZonedTime.instant, secondsPerDay]
    split <;> omega
  · simp only [Bool.or_eq_true, decide_eq_true_eq, valid]
    simp [skipBlank, firstYear, lastYear]
    omega

end Reading

/-! ## Timestamps -/

def timestampForm : List Char := "0000-00-00T00:00:00.000Z".toList

/-- Reads a timestamp in UTC to the millisecond: the strict form of a date-time. -/
def readTimestamp? (text : List Char) : Option Instant :=
  if hasForm timestampForm text then (ZonedTime.read? text).map ZonedTime.instant else none

theorem timestampForm_eq :
    timestampLayout.flatMap (fun field => List.replicate field.1 '0' ++ [field.2]) =
      timestampForm := by
  decide

namespace Instant

variable {i j : Instant}

/-- An instant to the millisecond. A leap second that does not end its minute cannot be told
from the second after it. -/
def shown (i : Instant) : Instant :=
  if i.IsLeap ∧ i.seconds % 60 ≠ 59 then
    ⟨i.seconds + 1, (i.nanos - nanosPerSecond) / 1000000 * 1000000⟩
  else ⟨i.seconds, i.nanos / 1000000 * 1000000⟩

theorem readTimestamp?_text (showable : i.IsShowable) :
    readTimestamp? i.text.toList = some i.shown := by
  have nanos := showable.nanos
  have year : ((i.date.year.toNat : Nat) : Int) = i.date.year := Int.toNat_of_nonneg showable.year.1
  have fits := fits_fields showable
  have form := hasForm_fieldsText fits
  rw [timestampForm_eq] at form
  have within := i.secondOfDay_lt
  have day := i.dayNumber_date
  unfold nanosPerSecond at nanos
  have date : (⟨i.date.year.toNat, i.date.month, i.date.day⟩ : Date) = i.date := by rw [year]
  simp only [Fits, timestampLayout, fields, List.forall₂_cons] at fits
  obtain ⟨yearFits, monthFits, dayFits, hourFits, minuteFits, secondFits, millisFits, -⟩ := fits
  have read := read?_row (spells_padLeft yearFits.1 yearFits.2)
    (spells_padLeft monthFits.1 monthFits.2) (spells_padLeft dayFits.1 dayFits.2)
    (spells_padLeft hourFits.1 hourFits.2) (spells_padLeft minuteFits.1 minuteFits.2)
    (spells_padLeft secondFits.1 secondFits.2) (spells_padLeft millisFits.1 millisFits.2)
    (date ▸ i.date_valid) (by omega) (by omega) (by omega) (by unfold nanosPerSecond; omega)
  rw [date, day] at read
  rw [readTimestamp?, text_eq_fieldsText showable, if_pos form]
  simp only [timestampLayout, fields, fieldsText]
  rw [read, Option.map_some, ZonedTime.instant]
  unfold shown
  split_ifs <;>
    simp only [IsLeap, secondOfDay, secondsPerDay, nanosPerSecond,
      Option.some.injEq, Instant.mk.injEq] at * <;>
    omega

theorem second_of_text (showable : i.IsShowable) :
    (i.text.toList.drop 17).take 2 =
      padLeft 2 '0' (digits (i.secondOfDay % 60 + i.nanos / nanosPerSecond)) := by
  have fits := fits_fields showable
  simp only [Fits, timestampLayout, fields, List.forall₂_cons] at fits
  obtain ⟨year, month, day, hour, minute, second, -⟩ := fits
  have parted (text : List Char) :
      text.drop 17 =
        ((((text.drop (4 + 1)).drop (2 + 1)).drop (2 + 1)).drop (2 + 1)).drop (2 + 1) := by
    simp only [List.drop_drop]
  rw [text_eq_fieldsText showable, parted, timestampLayout, fields, drop_fieldsText year,
    drop_fieldsText month, drop_fieldsText day, drop_fieldsText hour, drop_fieldsText minute]
  exact List.take_left' (spells_padLeft second.1 second.2).length

theorem text_mono (showable : i.IsShowable) (later : j.IsShowable) (regular : ¬ i.IsLeap)
    (laterRegular : ¬ j.IsLeap) (le : i ≤ j) : i.text ≤ j.text := by
  have less := fields_le showable later regular laterRegular le
  show ¬ j.text.toList < i.text.toList
  rw [text_eq_fieldsText showable, text_eq_fieldsText later]
  rcases less with same | less
  · rw [same]
    exact List.lt_irrefl _
  · exact List.lt_asymm (fieldsText_lt (fits_fields showable) (fits_fields later) less)

end Instant

end Calendar

open Calendar

/-- An instant of a year of four digits has one text, in whichever zone it was seen. Read as a
timestamp, the text gives back the instant to the millisecond, and a leap second at the end of its
minute is its sixtieth second. Away from leap seconds, texts are ordered like instants. -/
theorem Literal.timestamp_denotes_instant (i : Instant) (showable : i.IsShowable) :
    (∀ offset, (ofZonedTime (i.seenAt offset)).render = (instant i).render) ∧
    readTimestamp? (instant i).render.toList = some i.shown ∧
    ((i.IsLeap → i.seconds % 60 = 59) →
      i.shown = ⟨i.seconds, i.nanos / 1000000 * 1000000⟩ ∧
        (i.IsLeap → ((instant i).render.toList.drop 17).take 2 = "60".toList)) ∧
    ∀ later : Instant, later.IsShowable → ¬ i.IsLeap → ¬ later.IsLeap → i ≤ later →
      (instant i).render ≤ (instant later).render := by
  refine ⟨fun offset => by rw [ofZonedTime, instant_seenAt], Instant.readTimestamp?_text showable,
    fun ends => ⟨?_, fun leap => ?_⟩,
    fun later laterShowable regular laterRegular le =>
      Instant.text_mono showable laterShowable regular laterRegular le⟩
  · exact if_neg fun strange => strange.2 (ends strange.1)
  · have sixtieth : i.secondOfDay % 60 + i.nanos / nanosPerSecond = 60 := by
      have last := ends leap
      have nanos := showable.nanos
      unfold Instant.IsLeap at leap
      unfold Instant.secondOfDay secondsPerDay
      unfold nanosPerSecond at *
      omega
    rw [render, Instant.second_of_text showable, sixtieth]
    decide

/-- The last moment of February 1900, which had no leap day, before the first of March, and the
leap second of June 1972. -/
theorem Literal.timestamp_denotes_instant_century :
    (ofZonedTime (Instant.seenAt ⟨-2203891201, 999999999⟩ 20700)).render =
        (instant ⟨-2203891201, 999999999⟩).render ∧
      readTimestamp? (instant ⟨-2203891201, 999999999⟩).render.toList =
        some ⟨-2203891201, 999000000⟩ ∧
      (instant ⟨-2203891201, 999999999⟩).render ≤ (instant ⟨-2203891200, 0⟩).render ∧
      ((instant ⟨78796799, 1999999999⟩).render.toList.drop 17).take 2 = "60".toList := by
  have february : Instant.IsShowable ⟨-2203891201, 999999999⟩ := ⟨by decide, by decide⟩
  have march : Instant.IsShowable ⟨-2203891200, 0⟩ := ⟨by decide, by decide⟩
  have june : Instant.IsShowable ⟨78796799, 1999999999⟩ := ⟨by decide, by decide⟩
  obtain ⟨zones, read, -, ordered⟩ := timestamp_denotes_instant _ february
  obtain ⟨-, -, leap, -⟩ := timestamp_denotes_instant _ june
  exact ⟨zones _, read, ordered _ march (by decide) (by decide) (.inl (by decide)),
    (leap fun _ => by decide).2 (by decide)⟩

end QueryOptions
