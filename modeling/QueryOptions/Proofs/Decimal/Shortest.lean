import Mathlib.Algebra.Group.Nat.Defs
import QueryOptions.Decimal.Binary64
import QueryOptions.Proofs.Decimal.Numerals

/-!
# Large whole numbers in the fewest digits

A whole number that is known up to an interval is written on the coarsest grid
of powers of ten with a point in the interval. From two to the sixty-third on,
the floating point numbers are so far apart that this grid is never finer than
the thousands.
-/

namespace QueryOptions.Decimal

theorem digits_mul_ten {n : Nat} (positive : 0 < n) : digits (n * 10) = digits n ++ ['0'] := by
  have appended : digits n ++ digits 0 = digits (10 * n + 0) :=
    Nat.toDigits_append_toDigits (by decide) positive (by decide)
  rw [Nat.mul_comm]
  exact appended.symm

theorem digits_mul_tenTo {n : Nat} (positive : 0 < n) (k : Nat) :
    digits (n * tenTo k) = digits n ++ List.replicate k '0' := by
  induction k with
  | zero => simp [tenTo]
  | succ k inductionHypothesis =>
      have shifted : n * tenTo (k + 1) = n * tenTo k * 10 := (Nat.mul_assoc n (tenTo k) 10).symm
      have power : 0 < tenTo k := Nat.pow_pos (by decide)
      rw [shifted, digits_mul_ten (Nat.mul_pos positive power), inductionHypothesis,
        List.replicate_succ', List.append_assoc]

/-- What is moved into the exponent are zeros, and the exponent counts them. -/
theorem stripZeros_spec (text : List Char) (exponent : Int) :
    ∃ zeros : Nat, text = (stripZeros text exponent).1 ++ List.replicate zeros '0' ∧
      (stripZeros text exponent).2 = exponent + zeros := by
  let last := text.reverse.takeWhile (· = '0')
  have zeros : last = List.replicate last.length '0' :=
    List.eq_replicate_of_mem fun c taken => by
      simpa using List.all_eq_true.mp List.all_takeWhile c taken
  have parted : text = (stripZeros text exponent).1 ++ last.reverse := by
    rw [stripZeros, ← List.reverse_append, List.takeWhile_append_dropWhile, List.reverse_reverse]
  have sizes : text.length = (stripZeros text exponent).1.length + last.length := by
    simpa using congrArg List.length parted
  refine ⟨last.length, ?_, ?_⟩
  · rw [← List.reverse_replicate, ← zeros]
    exact parted
  · have counted : (stripZeros text exponent).2 =
        exponent + (text.length - (stripZeros text exponent).1.length) := rfl
    omega

theorem positional_stripZeros (text : List Char) (k : Nat) :
    positional (stripZeros text k).1 (stripZeros text k).2 = text ++ List.replicate k '0' := by
  obtain ⟨zeros, parted, exponent⟩ := stripZeros_spec text k
  have all : ((k : Int) + zeros).toNat = zeros + k := by omega
  rw [positional, exponent, if_pos (by omega), all, List.replicate_add, ← List.append_assoc,
    ← parted]

namespace Interval

variable {i : Interval} {tie : Tie} {n : Nat}

theorem bounds_of_holds (held : i.holds n = true) :
    i.low ≤ n * i.denominator ∧ n * i.denominator ≤ i.high := by
  unfold holds at held
  split at held
  · simpa using held
  · have strict : i.low < n * i.denominator ∧ n * i.denominator < i.high := by simpa using held
    exact ⟨Nat.le_of_lt strict.1, Nat.le_of_lt strict.2⟩

theorem holds_of_nearestWhole? (found : i.nearestWhole? tie = some n) : i.holds n = true := by
  cases below : i.holds (i.value / i.denominator) <;>
    cases above : i.holds (i.value / i.denominator + 1) <;>
    simp only [nearestWhole?, below, above] at found
  case false.false => cases found
  case false.true => exact Option.some.inj found ▸ above
  case true.false => exact Option.some.inj found ▸ below
  case true.true =>
    have either : n = i.value / i.denominator ∨ n = i.value / i.denominator + 1 := by grind
    rcases either with rfl | rfl
    · exact below
    · exact above

theorem isSome_nearestWhole? (above : i.holds (i.value / i.denominator + 1) = true) :
    (i.nearestWhole? tie).isSome = true := by
  cases below : i.holds (i.value / i.denominator) <;> simp only [nearestWhole?, below, above]
  case false => rfl
  case true => cases tie <;> grind

theorem inUnits_natCast (whole : i.denominator = 1) (k : Nat) :
    i.inUnits k = { i with denominator := tenTo k } := by
  have one : tenTo (-(k : Int)).toNat = 1 := by
    rw [Int.toNat_neg_natCast]
    rfl
  rw [inUnits, one]
  simp [whole]

theorem holds_above {k : Nat} (low : i.low ≤ i.value) (wide : i.value + tenTo k < i.high) :
    holds { i with denominator := tenTo k } (i.value / tenTo k + 1) = true := by
  have point : (i.value / tenTo k + 1) * tenTo k = tenTo k * (i.value / tenTo k) + tenTo k := by
    rw [Nat.succ_mul, Nat.mul_comm]
  have parts : tenTo k * (i.value / tenTo k) + i.value % tenTo k = i.value :=
    Nat.div_add_mod i.value (tenTo k)
  have less : i.value % tenTo k < tenTo k := Nat.mod_lt _ (Nat.pow_pos (by decide))
  have above : i.low < (i.value / tenTo k + 1) * tenTo k := by omega
  have below : (i.value / tenTo k + 1) * tenTo k < i.high := by omega
  simp [holds, above, below, Nat.le_of_lt]

theorem leadingExponent_whole (whole : i.denominator = 1) (positive : 0 < i.value) :
    i.leadingExponent = (digits i.value).length - 1 := by
  rw [leadingExponent, if_pos (by omega), whole, Nat.div_one]

/-- What is tried with so many digits after the first one. -/
def attempt (i : Interval) (tie : Tie) (more : Nat) : Option (List Char × Int) :=
  let k := i.leadingExponent + 1 - ((more : Nat) + 1 : Int)
  ((i.inUnits k).nearestWhole? tie).map fun coefficient => (digits coefficient, k)

theorem attempt_whole (whole : i.denominator = 1) (positive : 0 < i.value) {more k : Nat}
    (total : more + 1 + k = (digits i.value).length) :
    i.attempt tie more = (nearestWhole? tie { i with denominator := tenTo k }).map
      fun coefficient => (digits coefficient, (k : Int)) := by
  have exponent : i.leadingExponent + 1 - ((more : Nat) + 1 : Int) = k := by
    rw [leadingExponent_whole whole positive]
    omega
  simp only [attempt, exponent, inUnits_natCast whole]

end Interval

theorem exists_findSome?_range {α : Type} {attempt : Nat → Option α} {size last : Nat}
    (listed : last < size) (succeeds : (attempt last).isSome = true) :
    ∃ first result, first ≤ last ∧ attempt first = some result ∧
      (List.range size).findSome? attempt = some result := by
  have member : last ∈ List.range size := List.mem_range.mpr listed
  have present : ((List.range size).findSome? attempt).isSome = true :=
    List.findSome?_isSome_iff.mpr ⟨last, member, succeeds⟩
  obtain ⟨result, found⟩ := Option.isSome_iff_exists.mp present
  obtain ⟨before, first, after, split, chosen, failed⟩ := List.findSome?_eq_some_iff.mp found
  have sorted : (List.range size).Pairwise (· < ·) := List.pairwise_lt_range
  rw [split] at member sorted
  refine ⟨first, result, ?_, chosen, found⟩
  rcases List.mem_append.mp member with earlier | later
  · rw [failed last earlier] at succeeds
    cases succeeds
  · rcases List.mem_cons.mp later with rfl | later
    · exact Nat.le_refl _
    · exact Nat.le_of_lt ((List.pairwise_cons.mp (List.pairwise_append.mp sorted).2.1).1 _ later)

theorem shortest_of_attempt {i : Interval} {tie : Tie} {text : List Char} {k : Int}
    (found : (List.range mostDigits).findSome? (i.attempt tie) = some (text, k)) :
    shortest tie i = stripZeros text k := by
  unfold Interval.attempt at found
  simp only [shortest, found]

/-- The grid on which a whole number is written is at least as coarse as any one that is finer than
the interval above the number, unless that takes too many digits. -/
theorem shortest_coarse {i : Interval} (tie : Tie) {k : Nat} (whole : i.denominator = 1)
    (positive : 0 < i.value) (low : i.low ≤ i.value) (wide : i.value + tenTo k < i.high)
    (longer : k < (digits i.value).length) (fits : (digits i.value).length ≤ k + mostDigits) :
    ∃ coefficient j : Nat, k ≤ j ∧ shortest tie i = stripZeros (digits coefficient) j ∧
      i.low ≤ coefficient * tenTo j ∧ coefficient * tenTo j ≤ i.high := by
  obtain ⟨last, total⟩ : ∃ last, last + 1 + k = (digits i.value).length :=
    ⟨(digits i.value).length - k - 1, by omega⟩
  have succeeds : (i.attempt tie last).isSome = true := by
    rw [i.attempt_whole whole positive total, Option.isSome_map]
    apply Interval.isSome_nearestWhole?
    exact Interval.holds_above low wide
  obtain ⟨first, result, early, chosen, found⟩ :=
    exists_findSome?_range (show last < mostDigits by omega) succeeds
  -- The first attempt that succeeds has at most as many digits as the one on the given grid.
  obtain ⟨j, total⟩ : ∃ j, first + 1 + j = (digits i.value).length :=
    ⟨(digits i.value).length - first - 1, by omega⟩
  rw [i.attempt_whole whole positive total, Option.map_eq_some_iff] at chosen
  obtain ⟨coefficient, nearest, rfl⟩ := chosen
  have bounds := Interval.bounds_of_holds (Interval.holds_of_nearestWhole? nearest)
  exact ⟨coefficient, j, by omega, shortest_of_attempt found, bounds⟩

end QueryOptions.Decimal
