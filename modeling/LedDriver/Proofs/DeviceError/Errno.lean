import Mathlib.Algebra.Order.Group.Abs
import Mathlib.Algebra.Order.Group.Int
import Mathlib.Tactic.Common
import LedDriver.DeviceError

/-!
# System error numbers

Errors are handed to some callers as negated system error numbers and are made again from numbers of
either sign.  A number is normalized if it stands for the same error as its negative, is encoded as
a negative number of its own size, is encoded back to what it was if it was negative, and gives no
error of the driver's own that is not positive or that has a name (`DeviceError.Normalized`).

The size of a number is its absolute value, except for the least number, whose absolute value is out
of range (`DeviceError.toInt_size`).  Every number other than zero and the least one is normalized
(`DeviceError.normalized_iff`); the least one is not, since it gives an error of the driver's own
with a negative number (`DeviceError.not_normalized_minValue`).
-/

namespace LedDriver.DeviceError

/-- A system error number stands for the same error with either sign; the error is encoded, without
overflow, as a negative number of the same size; it has a name if its number has one, and a positive
number if not; and nothing is lost between encoding and decoding. -/
structure Normalized (code : Int32) : Prop where
  either_sign : ofErrno (-code) = ofErrno code
  no_overflow : (ofErrno code).errno.toInt = -(ofErrno code).code.toInt
  negative : (ofErrno code).errno < 0
  same_size : (ofErrno code).errno.toInt = -|code.toInt|
  canonical : ∀ k, ofErrno code = driver k → 0 < k ∧ ∀ e ∈ named, e.code ≠ k
  encode_decode : code < 0 → (ofErrno code).errno = code
  decode_encode : ofErrno (ofErrno code).errno = ofErrno code

/-! ## The size of a number -/

/-- The negative of a number, other than that of the least one, is in range. -/
lemma toInt_neg {code : Int32} (h : code ≠ Int32.minValue) : (-code).toInt = -code.toInt := by
  have least := code.le_toInt
  have most := code.toInt_lt
  have inner : code.toInt ≠ -2 ^ 31 := fun same => h (Int32.toInt_inj.mp same)
  rw [Int32.toInt_neg, Int.bmod_eq_of_le] <;> omega

/-- The size of a number is its absolute value, unless that is out of range. -/
lemma toInt_size {code : Int32} (h : code ≠ Int32.minValue) : (size code).toInt = |code.toInt| := by
  unfold size
  split
  · next neg =>
    have neg : code.toInt < 0 := Int32.lt_iff_toInt_lt.mp neg
    rw [toInt_neg h, abs_of_neg neg]
  · next nonneg =>
    have nonneg : ¬ code.toInt < 0 := fun neg => nonneg (Int32.lt_iff_toInt_lt.mpr neg)
    rw [abs_of_nonneg (not_lt.mp nonneg)]

/-- The least number is left as it is. -/
@[simp] lemma size_minValue : size Int32.minValue = Int32.minValue := by decide

/-- The size of a number other than zero and the least one is positive and is not the least one. -/
lemma size_pos {code : Int32} (some : code ≠ 0) (h : code ≠ Int32.minValue) :
    0 < (size code).toInt := by
  rw [toInt_size h, abs_pos]
  exact fun zero => some (Int32.toInt_inj.mp zero)

/-- A number and its negative have one size. -/
lemma size_neg (code : Int32) : size (-code) = size code := by
  by_cases h : code = Int32.minValue
  · subst h
    decide
  · have h' : -code ≠ Int32.minValue := by
      intro least
      refine h ?_
      rw [← Int32.neg_neg (a := code), least]
      decide
    apply Int32.toInt_inj.mp
    rw [toInt_size h, toInt_size h', toInt_neg h, abs_neg]

/-- A size is its own size. -/
lemma size_size (code : Int32) : size (size code) = size code := by
  by_cases h : code = Int32.minValue
  · subst h
    decide
  · have nonneg : ¬ size code < 0 := by
      rw [Int32.lt_iff_toInt_lt, toInt_size h]
      exact not_lt.mpr (abs_nonneg _)
    rw [size, if_neg nonneg]

/-- A negative number is the negative of its size. -/
lemma neg_size_of_neg {code : Int32} (h : code < 0) : -size code = code := by
  rw [size, if_pos h, Int32.neg_neg]

/-! ## Decoding -/

/-- Decoding goes by the size alone. -/
lemma ofErrno_congr {code code' : Int32} (h : size code = size code') :
    ofErrno code = ofErrno code' := by
  rw [ofErrno, ofErrno, h]

/-- The decoded error has the size as its number. -/
lemma code_ofErrno (code : Int32) : (ofErrno code).code = size code := by
  unfold ofErrno
  cases found : named.find? fun e => e.code == size code with
  | none => rfl
  | some e => exact eq_of_beq (List.find?_some found :)

/-- The encoded error is the negated size. -/
lemma errno_ofErrno (code : Int32) : (ofErrno code).errno = -size code := by
  rw [errno, code_ofErrno]

/-- An error of the driver's own is decoded only from a number that no named cause has. -/
lemma of_ofErrno_eq_driver {code k : Int32} (h : ofErrno code = driver k) :
    k = size code ∧ ∀ e ∈ named, e.code ≠ k := by
  have number : k = size code := by rw [← code_ofErrno, h, DeviceError.code]
  refine ⟨number, ?_⟩
  unfold ofErrno at h
  cases found : named.find? fun e => e.code == size code with
  | none =>
    intro e he same
    have differs := List.find?_eq_none.mp found e he
    exact differs (by rw [same, number]; exact beq_self_eq_true _)
  | some e =>
    rw [found] at h
    obtain rfl : e = driver k := h
    exact absurd (List.mem_of_find?_eq_some found) (by simp [named])

/-! ## Normalization -/

/-- The number of an error that is decoded from the least number cannot be negated. -/
lemma not_no_overflow_minValue :
    ¬ (ofErrno Int32.minValue).errno.toInt = -(ofErrno Int32.minValue).code.toInt := by
  rw [errno_ofErrno, code_ofErrno, size_minValue]
  decide

/-- Every system error number other than zero and the least number of the type is normalized, and
these two are not. -/
theorem normalized_iff (code : Int32) :
    Normalized code ↔ code ≠ 0 ∧ code ≠ Int32.minValue := by
  constructor
  · intro normalized
    constructor
    · rintro rfl
      exact absurd (normalized.canonical 0 (by decide)).1 (by decide)
    · rintro rfl
      exact not_no_overflow_minValue normalized.no_overflow
  · rintro ⟨some, h⟩
    have pos := size_pos some h
    have inner : size code ≠ Int32.minValue := by
      intro least
      rw [least] at pos
      exact absurd pos (by decide)
    have negated : (-size code).toInt = -(size code).toInt := toInt_neg inner
    exact
      { either_sign := ofErrno_congr (size_neg code)
        no_overflow := by rw [errno_ofErrno, code_ofErrno, negated]
        negative := by
          rw [errno_ofErrno, Int32.lt_iff_toInt_lt, negated]
          exact neg_lt_zero.mpr pos
        same_size := by rw [errno_ofErrno, negated, toInt_size h]
        canonical := by
          intro k own
          obtain ⟨rfl, unnamed⟩ := of_ofErrno_eq_driver own
          exact ⟨Int32.lt_iff_toInt_lt.mpr pos, unnamed⟩
        encode_decode := by
          intro neg
          rw [errno_ofErrno, neg_size_of_neg neg]
        decode_encode := by
          rw [errno_ofErrno]
          exact ofErrno_congr ((size_neg _).trans (size_size code)) }

/-- A number without a name is an error of the driver's own with either sign. -/
example : ofErrno (-71) = driver 71 ∧ ofErrno 71 = driver 71 ∧ (driver 71).errno = -71 := by decide

/-- Not every number other than zero is normalized: the least number gives an error of the driver's
own with a negative number, which cannot be negated without overflow. -/
theorem not_normalized_minValue :
    ¬ (∀ code : Int32, code ≠ 0 → Normalized code) ∧
      ofErrno Int32.minValue = driver Int32.minValue := by
  refine ⟨fun all => ?_, by decide⟩
  exact not_no_overflow_minValue (all _ (by decide)).no_overflow

end LedDriver.DeviceError
