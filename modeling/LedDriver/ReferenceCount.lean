import LedDriver.DeviceError

/-!
# Open references

A bounded counter of the open references to a device.  The count that one more open would produce is
computed by `raised` and stored apart, so that nothing is counted before the hardware is set up.
The counter wraps at neither end.
-/

namespace LedDriver

/-- A count of open references and the greatest count admitted. -/
structure ReferenceCount where
  count : UInt8
  max : UInt8
deriving DecidableEq

namespace ReferenceCount

/-- The count after one more open, unless the greatest count is reached. -/
def raised (c : ReferenceCount) : Except DeviceError UInt8 :=
  if c.count.toNat + 1 < 256 ∧ c.count.toNat + 1 ≤ c.max.toNat then .ok (c.count + 1)
  else .error .tooManyOpens

/-- The count after one close, which is not less than zero. -/
def lowered (c : ReferenceCount) : UInt8 := if c.count = 0 then 0 else c.count - 1

/-- Stores a count. -/
def store (c : ReferenceCount) (count : UInt8) : ReferenceCount := { c with count }

/-! ## Bounds -/

/-- The count after one more open is one greater, and at most the greatest count admitted. -/
theorem raised_eq_ok_iff {c : ReferenceCount} {n : UInt8} :
    c.raised = .ok n ↔ n.toNat = c.count.toNat + 1 ∧ n.toNat ≤ c.max.toNat := by
  have add : c.count.toNat + 1 < 256 → (c.count + 1).toNat = c.count.toNat + 1 := by
    intro h
    rw [UInt8.toNat_add]
    exact Nat.mod_eq_of_lt h
  unfold raised
  split
  · next h =>
    have sum := add h.1
    constructor
    · intro hn
      cases hn
      omega
    · intro hn
      congr 1
      apply UInt8.toNat_inj.mp
      omega
  · next h =>
    have bound := n.toNat_lt
    constructor
    · intro hn
      cases hn
    · intro hn
      exact absurd ⟨by omega, by omega⟩ h

/-- One more open leads to a first reference exactly if there was none. -/
theorem raised_eq_one_iff {c : ReferenceCount} {n : UInt8} (h : c.raised = .ok n) :
    n ≠ 0 ∧ (n = 1 ↔ c.count = 0) := by
  obtain ⟨sum, -⟩ := raised_eq_ok_iff.mp h
  have one : (1 : UInt8).toNat = 1 := rfl
  have zero : (0 : UInt8).toNat = 0 := rfl
  simp only [ne_eq, ← UInt8.toNat_inj, one, zero]
  omega

/-- One more open is refused exactly when the greatest count is reached. -/
theorem raised_eq_error_iff {c : ReferenceCount} {e : DeviceError} :
    c.raised = .error e ↔ c.max.toNat ≤ c.count.toNat ∧ e = .tooManyOpens := by
  have bound := c.max.toNat_lt
  unfold raised
  split
  · next h =>
    constructor
    · intro he
      cases he
    · intro he
      omega
  · next h =>
    constructor
    · intro he
      cases he
      exact ⟨by omega, rfl⟩
    · intro he
      rw [he.2]

/-- The count after one close is one less, but not less than zero. -/
theorem toNat_lowered (c : ReferenceCount) : c.lowered.toNat = c.count.toNat - 1 := by
  unfold lowered
  split
  · next h => simp [h]
  · next h =>
    have pos : 1 ≤ c.count := by
      rw [UInt8.le_iff_toNat_le]
      have : c.count.toNat ≠ 0 := fun h0 => h (UInt8.toNat_inj.mp h0)
      simp
      omega
    rw [UInt8.toNat_sub_of_le _ _ pos]
    rfl

/-- One close out of many leaves references. -/
theorem lowered_ne_zero {c : ReferenceCount} (h : 1 < c.count.toNat) : c.lowered ≠ 0 := by
  intro none
  have less := c.toNat_lowered
  rw [none, UInt8.toNat_zero] at less
  omega

end ReferenceCount

end LedDriver
