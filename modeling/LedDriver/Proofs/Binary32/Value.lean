import Mathlib.Algebra.Order.Field.Power
import Mathlib.Algebra.Order.Field.Rat
import Mathlib.Algebra.Order.Ring.WithTop
import Mathlib.Data.Int.ConditionallyCompleteOrder
import Mathlib.Tactic.NormNum
import Mathlib.Tactic.Positivity
import Mathlib.Tactic.Ring
import LedDriver.Command.Policy

/-!
# The value of a floating-point number

Every bit pattern of a `Binary32` but that of NaN stands for a rational number or for an infinity
(`Binary32.value?`).  The comparisons of the library look at the patterns alone.  They agree with
the order of the values (`Binary32.le_iff_value`, `Binary32.lt_iff_value`), since the size of a
number grows strictly with its magnitude: the next magnitude stands for a number that is greater by
one unit in the last place (`Binary32.sizeAt_succ`).

The ranges of the parameters and the sign of the current limit are decided by these comparisons, and
so they are exact on every pattern (`Params.ranges_exact`).
-/

namespace LedDriver

namespace Binary32

/-- The least exponent bits that stand for no finite number: all of them set. -/
def exponentLimit : ℕ := 255

/-- The size of the finite number with a given magnitude: a whole number of units in the last
place. -/
def sizeAt (m : ℕ) : ℚ :=
  (if m / 2 ^ 23 = 0 then m % 2 ^ 23 else 2 ^ 23 + m % 2 ^ 23 : ℕ) *
    2 ^ ((max (m / 2 ^ 23 : ℕ) 1 : ℤ) - 150)

/-- The size of a finite number. -/
def size (x : Binary32) : ℚ := x.significand * 2 ^ x.exponent

/-- The exact value of a pattern, which NaN does not have.  With all exponent bits set a pattern
without fraction bits is an infinity, and every other one is NaN. -/
def value? (x : Binary32) : Option (WithBot (WithTop ℚ)) :=
  if x.exponentBits = exponentLimit then
    if x.fractionBits = 0 then some (if x.negative then ⊥ else ⊤) else none
  else some (((if x.negative then -x.size else x.size : ℚ) : WithTop ℚ) : WithBot (WithTop ℚ))

/-! ## The size grows with the magnitude -/

/-- The next magnitude stands for a number that is greater by one unit in the last place. -/
lemma sizeAt_succ (m : ℕ) :
    sizeAt (m + 1) = sizeAt m + 2 ^ ((max (m / 2 ^ 23 : ℕ) 1 : ℤ) - 150) := by
  by_cases last : m % 2 ^ 23 + 1 = 2 ^ 23
  · -- The fraction bits are exhausted, so that the exponent bits go up.
    have exponent : (m + 1) / 2 ^ 23 = m / 2 ^ 23 + 1 := by omega
    have fraction : (m + 1) % 2 ^ 23 = 0 := by omega
    have full : m % 2 ^ 23 = 2 ^ 23 - 1 := by omega
    by_cases subnormal : m / 2 ^ 23 = 0
    · simp only [sizeAt, exponent, fraction, full, subnormal]
      norm_num
    · have normal : (max (m / 2 ^ 23 : ℕ) 1 : ℤ) = (m / 2 ^ 23 : ℕ) := by omega
      have next : (max (m / 2 ^ 23 + 1 : ℕ) 1 : ℤ) - 150 =
          ((m / 2 ^ 23 : ℕ) : ℤ) - 150 + 1 := by omega
      simp only [sizeAt, exponent, fraction, full, if_neg subnormal, normal, next,
        if_neg (Nat.succ_ne_zero _)]
      rw [zpow_add_one₀ two_ne_zero]
      push_cast
      ring
  · have exponent : (m + 1) / 2 ^ 23 = m / 2 ^ 23 := by omega
    have fraction : (m + 1) % 2 ^ 23 = m % 2 ^ 23 + 1 := by omega
    simp only [sizeAt, exponent, fraction]
    split <;> push_cast <;> ring

lemma sizeAt_strictMono : StrictMono sizeAt := by
  refine strictMono_nat_of_lt_succ fun m => ?_
  rw [sizeAt_succ]
  exact lt_add_of_pos_right _ (by positivity)

@[simp] lemma sizeAt_zero : sizeAt 0 = 0 := by simp [sizeAt]

lemma size_eq (x : Binary32) : x.size = sizeAt x.magnitude := rfl

/-- The number with a given place in the order. -/
def sizeOfRank (r : ℤ) : ℚ := if r < 0 then -sizeAt r.natAbs else sizeAt r.natAbs

lemma sizeOfRank_strictMono : StrictMono sizeOfRank := by
  intro r q less
  have nonneg (m : ℕ) : 0 ≤ sizeAt m := by
    rw [← sizeAt_zero]
    exact sizeAt_strictMono.monotone (Nat.zero_le m)
  unfold sizeOfRank
  split <;> split
  · exact neg_lt_neg (sizeAt_strictMono (by omega))
  · next neg _ =>
    have pos : 0 < sizeAt r.natAbs := by
      rw [← sizeAt_zero]
      exact sizeAt_strictMono (by omega)
    exact (neg_lt_zero.mpr pos).trans_le (nonneg _)
  · omega
  · exact sizeAt_strictMono (by omega)

/-- The value with a given place in the order; the infinities stand at the ends. -/
def valueOfRank (r : ℤ) : WithBot (WithTop ℚ) :=
  if r = -infiniteMagnitude then ⊥
  else if r = infiniteMagnitude then ⊤
  else ((sizeOfRank r : WithTop ℚ) : WithBot (WithTop ℚ))

lemma valueOfRank_strictMonoOn :
    StrictMonoOn valueOfRank (Set.Icc (-infiniteMagnitude) infiniteMagnitude) := by
  intro r hr q hq less
  have least : q ≠ -infiniteMagnitude := (hr.1.trans_lt less).ne'
  have most : r ≠ infiniteMagnitude := (less.trans_le hq.2).ne
  unfold valueOfRank
  rw [if_neg least, if_neg most]
  split <;> split
  · exact WithBot.bot_lt_coe _
  · exact WithBot.bot_lt_coe _
  · exact WithBot.coe_lt_coe.mpr (WithTop.coe_lt_top _)
  · exact WithBot.coe_lt_coe.mpr (WithTop.coe_lt_coe.mpr (sizeOfRank_strictMono less))

/-! ## The comparisons -/

/-- A pattern is NaN if all exponent bits are set and some fraction bit is. -/
lemma isNaN_iff (x : Binary32) :
    x.isNaN = true ↔ x.exponentBits = exponentLimit ∧ x.fractionBits ≠ 0 := by
  have bound : x.magnitude < 2 ^ 31 := Nat.mod_lt _ (by norm_num)
  unfold isNaN exponentBits fractionBits exponentLimit infiniteMagnitude
  simp only [decide_eq_true_eq, Nat.pow_eq]
  omega

/-- A number other than NaN is infinite if all exponent bits are set. -/
lemma exponentBits_eq_iff {x : Binary32} (h : x.isNaN = false) :
    x.exponentBits = exponentLimit ↔ x.magnitude = infiniteMagnitude := by
  have most : x.magnitude ≤ infiniteMagnitude := by simpa [isNaN] using h
  unfold exponentBits exponentLimit
  simp only [infiniteMagnitude, Nat.pow_eq] at most ⊢
  omega

/-- The place of a number in the order lies between those of the infinities. -/
lemma rank_mem {x : Binary32} (h : x.isNaN = false) :
    x.rank ∈ Set.Icc (-infiniteMagnitude : ℤ) infiniteMagnitude := by
  have most : x.magnitude ≤ infiniteMagnitude := by simpa [isNaN] using h
  unfold rank
  split <;> constructor <;> omega

lemma sizeOfRank_rank (x : Binary32) :
    sizeOfRank x.rank = if x.negative then -x.size else x.size := by
  unfold sizeOfRank rank
  rw [size_eq]
  cases x.negative with
  | false => simp
  | true =>
    rcases Nat.eq_zero_or_pos x.magnitude with zero | pos
    · simp [zero]
    · simp [pos]

/-- The value of a pattern is that of its place in the order. -/
lemma value?_eq {x : Binary32} (h : x.isNaN = false) : x.value? = some (valueOfRank x.rank) := by
  have number : ¬ (x.exponentBits = exponentLimit ∧ x.fractionBits ≠ 0) := by
    rw [← isNaN_iff, h]
    exact Bool.false_ne_true
  have infinite := exponentBits_eq_iff h
  have positive : 0 < infiniteMagnitude := by norm_num [infiniteMagnitude]
  unfold value?
  split
  · next limit =>
    rw [if_pos (not_not.mp fun some => number ⟨limit, some⟩)]
    have size := infinite.mp limit
    unfold valueOfRank rank
    split
    · rw [if_pos (by omega)]
    · rw [if_neg (by omega), if_pos (by omega)]
  · next limit =>
    have finite : x.magnitude ≠ infiniteMagnitude := mt infinite.mpr limit
    obtain ⟨least, most⟩ : x.rank ≠ -infiniteMagnitude ∧ x.rank ≠ infiniteMagnitude := by
      unfold rank
      split <;> omega
    rw [valueOfRank, if_neg least, if_neg most, sizeOfRank_rank]

lemma value?_of_isNaN {x : Binary32} (h : x.isNaN = true) : x.value? = none := by
  obtain ⟨limit, some⟩ := x.isNaN_iff.mp h
  rw [value?, if_pos limit, if_neg some]

/-- Numbers are compared by their values. -/
lemma le_iff_value (x y : Binary32) :
    x.le y = true ↔ ∃ a b, x.value? = some a ∧ y.value? = some b ∧ a ≤ b := by
  cases hx : x.isNaN with
  | true => simp [le, hx, value?_of_isNaN hx]
  | false =>
    cases hy : y.isNaN with
    | true => simp [le, hy, value?_of_isNaN hy]
    | false =>
      simp [le, hx, hy, value?_eq, valueOfRank_strictMonoOn.le_iff_le (rank_mem hx) (rank_mem hy)]

/-- Numbers are strictly compared by their values. -/
lemma lt_iff_value (x y : Binary32) :
    x.lt y = true ↔ ∃ a b, x.value? = some a ∧ y.value? = some b ∧ a < b := by
  cases hx : x.isNaN with
  | true => simp [lt, hx, value?_of_isNaN hx]
  | false =>
    cases hy : y.isNaN with
    | true => simp [lt, hy, value?_of_isNaN hy]
    | false =>
      simp [lt, hx, hy, value?_eq, valueOfRank_strictMonoOn.lt_iff_lt (rank_mem hx) (rank_mem hy)]

@[simp] lemma value?_zero : zero.value? = some 0 := by
  have fields : zero.exponentBits = 0 ∧ zero.negative = false ∧ zero.size = 0 := by
    refine ⟨rfl, rfl, ?_⟩
    rw [size_eq]
    exact sizeAt_zero
  simp [value?, fields, exponentLimit]

@[simp] lemma value?_hundred : hundred.value? = some 100 := by
  have fields : hundred.exponentBits = 133 ∧ hundred.negative = false ∧
      hundred.significand = 13107200 ∧ hundred.exponent = -17 := by decide
  have size : hundred.size = 100 := by
    rw [size, fields.2.2.1, fields.2.2.2]
    norm_num
  simp only [value?, fields, size, exponentLimit]
  rfl

/-! ## Ranges -/

/-- A percentage lies between zero and one hundred. -/
lemma isPercentage_iff_value (x : Binary32) :
    x.isPercentage = true ↔ ∃ v, x.value? = some v ∧ 0 ≤ v ∧ v ≤ 100 := by
  rw [isPercentage, Bool.and_eq_true, le_iff_value, le_iff_value]
  simp only [value?_zero, value?_hundred]
  constructor
  · rintro ⟨⟨_, v, ⟨⟩, hv, least⟩, _, _, hw, ⟨⟩, most⟩
    cases hv.symm.trans hw
    exact ⟨v, hv, least, most⟩
  · rintro ⟨v, hv, least, most⟩
    exact ⟨⟨0, v, rfl, hv, least⟩, v, 100, hv, rfl, most⟩

/-- A number that is not negative is zero or greater, an infinity among them. -/
lemma zero_le_iff_value (x : Binary32) :
    zero.le x = true ↔ ∃ v, x.value? = some v ∧ 0 ≤ v := by
  simp [le_iff_value]

/-- The patterns of the numbers that are not negative: those up to infinity, and that of negative
zero. -/
lemma zero_le_iff_bits (x : Binary32) :
    zero.le x = true ↔ x.bits ≤ 0x7F800000 ∨ x.bits = 0x80000000 := by
  have bound := x.bits.toNat_lt
  rw [UInt32.le_iff_toNat_le, ← UInt32.toNat_inj]
  simp only [le, isNaN, rank, negative, magnitude, zero, infiniteMagnitude, Nat.pow_eq,
    Bool.and_eq_true, Bool.not_eq_true', decide_eq_true_eq, decide_eq_false_iff_not,
    UInt32.toNat_ofNat]
  split <;> norm_num <;> omega

/-- The patterns of percentages: those up to one hundred, and that of negative zero. -/
lemma isPercentage_iff_bits (x : Binary32) :
    x.isPercentage = true ↔ x.bits ≤ 0x42C80000 ∨ x.bits = 0x80000000 := by
  have bound := x.bits.toNat_lt
  rw [isPercentage, Bool.and_eq_true, zero_le_iff_bits, UInt32.le_iff_toNat_le,
    UInt32.le_iff_toNat_le, ← UInt32.toNat_inj]
  simp only [le, isNaN, rank, negative, magnitude, hundred, infiniteMagnitude, Nat.pow_eq,
    Bool.and_eq_true, Bool.not_eq_true', decide_eq_true_eq, decide_eq_false_iff_not,
    UInt32.toNat_ofNat]
  split <;> norm_num <;> omega

end Binary32

namespace Limits

/-- A current limit is positive if its value is. -/
lemma isPositive_iff_value (l : Limits) :
    l.isPositive = true ↔ ∃ v, l.current.value? = some v ∧ 0 < v := by
  simp [isPositive, Binary32.lt_iff_value]

/-- The patterns of positive numbers: those from the least above zero up to infinity. -/
lemma isPositive_iff_bits (l : Limits) :
    l.isPositive = true ↔ 1 ≤ l.current.bits ∧ l.current.bits ≤ 0x7F800000 := by
  have bound := l.current.bits.toNat_lt
  rw [UInt32.le_iff_toNat_le, UInt32.le_iff_toNat_le]
  simp only [isPositive, Binary32.lt, Binary32.isNaN, Binary32.rank, Binary32.negative,
    Binary32.magnitude, Binary32.zero, Binary32.infiniteMagnitude, Nat.pow_eq, Bool.and_eq_true,
    Bool.not_eq_true', decide_eq_true_eq, decide_eq_false_iff_not, UInt32.toNat_ofNat]
  split <;> norm_num <;> omega

end Limits

/-- The ranges are exact on every pattern.  Parameters are in range exactly if none of the three
numbers is NaN, brightness and duty cycle have values from zero to one hundred, and the frequency
has a value that is not negative, plus infinity included; a current limit is positive exactly if it
is not NaN and its value is positive.  In terms of patterns, brightness and duty cycle are those up
to that of one hundred and that of negative zero, the frequency is one up to that of infinity or
that of negative zero, and the current limit is one from the least above zero up to that of
infinity. -/
theorem Params.ranges_exact (p : Params) (l : Limits) :
    (p.inRange = true ↔
      (∃ v, p.brightness.value? = some v ∧ 0 ≤ v ∧ v ≤ 100) ∧
      (∃ v, p.frequency.value? = some v ∧ 0 ≤ v) ∧
      ∃ v, p.duty.value? = some v ∧ 0 ≤ v ∧ v ≤ 100) ∧
    (l.isPositive = true ↔ ∃ v, l.current.value? = some v ∧ 0 < v) ∧
    (p.inRange = true ↔
      (p.brightness.bits ≤ 0x42C80000 ∨ p.brightness.bits = 0x80000000) ∧
      (p.frequency.bits ≤ 0x7F800000 ∨ p.frequency.bits = 0x80000000) ∧
      (p.duty.bits ≤ 0x42C80000 ∨ p.duty.bits = 0x80000000)) ∧
    (l.isPositive = true ↔ 1 ≤ l.current.bits ∧ l.current.bits ≤ 0x7F800000) := by
  have parts : p.inRange = true ↔ p.brightness.isPercentage = true ∧
      Binary32.zero.le p.frequency = true ∧ p.duty.isPercentage = true := by
    rw [inRange, Bool.and_eq_true, Bool.and_eq_true, and_assoc]
  refine ⟨?_, l.isPositive_iff_value, ?_, l.isPositive_iff_bits⟩
  · rw [parts, Binary32.isPercentage_iff_value, Binary32.zero_le_iff_value,
      Binary32.isPercentage_iff_value]
  · rw [parts, Binary32.isPercentage_iff_bits, Binary32.zero_le_iff_bits,
      Binary32.isPercentage_iff_bits]

/-- The next number above one hundred is no percentage, and infinity is a frequency. -/
example : (Binary32.mk 0x42C80001).isPercentage = false ∧ Binary32.zero.le ⟨0x7F800000⟩ = true := by
  decide

end LedDriver
