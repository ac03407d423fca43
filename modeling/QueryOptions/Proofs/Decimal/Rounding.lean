import QueryOptions.Proofs.Decimal.Shortest

/-!
# Whole numbers as binary floating point numbers

Between two to the sixty-third and two to the sixty-fourth only every 2048th
whole number is a floating point number. A whole number in between is rounded
to one of these and written in thousands.
-/

namespace QueryOptions.Decimal

theorem digits_length_le {n k : Nat} (positive : 0 < k) (less : n < 10 ^ k) :
    (digits n).length ≤ k :=
  (Nat.length_toDigits_le_iff (by decide) positive).mpr less

theorem lt_digits_length {n k : Nat} (positive : 0 < k) (least : 10 ^ k ≤ n) :
    k < (digits n).length := by
  by_contra short
  have less := (Nat.length_toDigits_le_iff (by decide) positive).mp (Nat.le_of_not_lt short)
  omega

namespace Binary64

theorem divideToEven_cases (numerator denominator : Nat) :
    (divideToEven numerator denominator = numerator / denominator ∧
      2 * (numerator % denominator) ≤ denominator) ∨
    (divideToEven numerator denominator = numerator / denominator + 1 ∧
      denominator ≤ 2 * (numerator % denominator)) := by
  simp only [divideToEven]
  split
  · omega
  · split
    · omega
    · split
      · omega
      · omega

/-- A quotient is rounded by at most a half. -/
theorem divideToEven_near (numerator : Nat) {denominator : Nat} (positive : 0 < denominator) :
    2 * (divideToEven numerator denominator * denominator) ≤ 2 * numerator + denominator ∧
      2 * numerator ≤ 2 * (divideToEven numerator denominator * denominator) + denominator := by
  have parts := Nat.div_add_mod numerator denominator
  have less := Nat.mod_lt numerator positive
  rw [Nat.mul_comm] at parts
  rcases divideToEven_cases numerator denominator with ⟨down, rest⟩ | ⟨up, rest⟩
  · rw [down]
    omega
  · rw [up, Nat.succ_mul (numerator / denominator) denominator]
    omega

variable {n : Nat}

theorem ofDecimal_eq_ofRatio (positive : 0 < n) (less : n < 2 ^ 64) :
    ofDecimal false n 0 = ofRatio false n 1 := by
  have short : (digits n).length ≤ 20 := digits_length_le (by decide) (by omega)
  have near : ¬ (n = 0 ∨ (0 : Int) + (digits n).length < -farAway) := by
    unfold farAway
    omega
  have within : ¬ farAway < (0 : Int) + (digits n).length := by
    unfold farAway
    omega
  have numerator : n * tenTo (0 : Int).toNat = n := Nat.mul_one n
  unfold ofDecimal
  rw [if_neg near, if_neg within, numerator]
  rfl

theorem ofDecimal_whole (least : 2 ^ 63 ≤ n) (less : n < 2 ^ 64) :
    ofDecimal false n 0 =
      if divideToEven n 2048 = twoTo 53 then .finite false (twoTo 52) 12
      else .finite false (divideToEven n 2048) 11 := by
  have log : n.log2 = 63 := by
    rw [Nat.log2_eq_iff (by omega)]
    omega
  have one : Nat.log2 1 = 0 := by decide
  have estimate : ((63 : Nat) : Int) - (0 : Nat) - 53 = 10 := rfl
  have wide : ¬ n * twoTo (-10 : Int).toNat / (1 * twoTo (10 : Int).toNat) < twoTo 53 := by
    change ¬ n * 1 / 1024 < 9007199254740992
    omega
  have exponent : max ((10 : Int) + 1) leastExponent = 11 := rfl
  have numerator : n * twoTo (-11 : Int).toNat = n := Nat.mul_one n
  have denominator : 1 * twoTo (11 : Int).toNat = 2048 := rfl
  rw [ofDecimal_eq_ofRatio (by omega) less, ofRatio, if_neg (by omega)]
  simp only [log, one, estimate, if_neg wide, exponent, numerator, denominator]
  by_cases carried : divideToEven n 2048 = twoTo 53
  · rw [if_pos carried, if_pos carried]
    rfl
  · rw [if_neg carried, if_neg carried]
    rfl

/-- Whole numbers round to a whole number up to a half of the distance to its neighbours. -/
theorem roundingInterval_whole (significand : Nat) {exponent : Int} (whole : 2 ≤ exponent) :
    let i := roundingInterval significand exponent
    let quarter := twoTo (exponent - 2).toNat
    i.denominator = 1 ∧ i.value = 4 * significand * quarter ∧ i.high = i.value + 2 * quarter ∧
      i.low ≤ i.value ∧ i.value ≤ i.low + 2 * quarter := by
  intro i quarter
  let gap := if significand = twoTo 52 ∧ leastExponent < exponent then 1 else 2
  have narrow : gap ≤ 2 := by
    unfold gap
    split <;> decide
  have below : gap * quarter ≤ 2 * quarter := Nat.mul_le_mul_right quarter narrow
  have low : i.low = 4 * significand * quarter - gap * quarter := Nat.sub_mul ..
  have value : i.value = 4 * significand * quarter := rfl
  have high : i.high = i.value + 2 * quarter := Nat.add_mul ..
  have denominator : i.denominator = 1 := by
    have none : (2 - exponent).toNat = 0 := Int.toNat_of_nonpos (by omega)
    change twoTo (2 - exponent).toNat = 1
    rw [none]
    rfl
  refine ⟨denominator, value, high, ?_, ?_⟩
  · omega
  · omega

/-- A number whose neighbours above are more than 2000 away is written in thousands. -/
theorem text_in_thousands (significand quarter : Nat) {exponent : Int} (whole : 2 ≤ exponent)
    (distance : twoTo (exponent - 2).toNat = quarter) (apart : 500 < quarter)
    (least : 10 ^ 18 ≤ 4 * significand * quarter) (less : 4 * significand * quarter < 10 ^ 20) :
    ∃ m, (finite false significand exponent).text = natText m ∧ 1000 ∣ m ∧
      m ≤ 4 * significand * quarter + 2 * quarter ∧
      4 * significand * quarter ≤ m + 2 * quarter := by
  obtain ⟨denominator, value, high, low, narrow⟩ := roundingInterval_whole significand whole
  rw [distance] at value high narrow
  rw [← value] at least less ⊢
  have significant : significand ≠ 0 := by
    rintro rfl
    omega
  have far : 4 * quarter ≤ 4 * significand * quarter :=
    Nat.mul_le_mul_right quarter (by omega)
  have thousand : tenTo 3 = 1000 := rfl
  obtain ⟨coefficient, j, coarse, shown, lower, upper⟩ :=
    shortest_coarse (k := 3) .up denominator (by omega) low (by omega)
      (lt_digits_length (by decide) (by omega)) (digits_length_le (by decide) less)
  have positive : 0 < coefficient := by
    apply Nat.pos_of_ne_zero
    rintro rfl
    omega
  have thousands : 1000 ∣ tenTo j := Nat.pow_dvd_pow 10 coarse
  refine ⟨coefficient * tenTo j, ?_, Nat.dvd_mul_left_of_dvd thousands coefficient, by omega,
    by omega⟩
  change signText false ++ String.ofList (positional (shortestDigits .up significand exponent).1
    (shortestDigits .up significand exponent).2) = _
  rw [shortestDigits, if_neg significant, shown, positional_stripZeros, ← digits_mul_tenTo positive]
  rfl

/-- From two to the sixty-third on, a whole number is written as a number of thousands. -/
theorem text_ofDecimal_whole (least : 2 ^ 63 ≤ n) (less : n < 2 ^ 64) :
    ∃ m, (ofDecimal false n 0).text = natText m ∧ 1000 ∣ m ∧ m ≤ n + 3072 ∧ n ≤ m + 3072 := by
  obtain ⟨down, up⟩ := divideToEven_near n (show 0 < 2048 by decide)
  rw [ofDecimal_whole least less]
  split
  next carried =>
    have top : twoTo 52 = 2 ^ 52 := rfl
    have carry : twoTo 53 = 2 ^ 53 := rfl
    rw [carried] at up
    obtain ⟨m, shown, thousands, upper, lower⟩ :=
      text_in_thousands (twoTo 52) 1024 (show (2 : Int) ≤ 12 by decide) rfl (by decide)
        (by decide) (by decide)
    exact ⟨m, shown, thousands, by omega, by omega⟩
  next =>
    obtain ⟨m, shown, thousands, upper, lower⟩ :=
      text_in_thousands (divideToEven n 2048) 512 (show (2 : Int) ≤ 11 by decide) rfl
        (by decide) (by omega) (by omega)
    exact ⟨m, shown, thousands, by omega, by omega⟩

end Binary64

end QueryOptions.Decimal
