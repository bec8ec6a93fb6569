/-!
# Spin locks

A value that one party at a time may use.  `acquire?` fails while the lock is held: a party that
insists tries again until the holder releases it.
-/

namespace LedDriver

/-- A value behind a lock. -/
structure SpinLock (α : Type) where
  held : Bool
  value : α
deriving DecidableEq

namespace SpinLock

variable {α : Type}

/-- A free lock around a value. -/
def free (value : α) : SpinLock α := ⟨false, value⟩

/-- Takes the lock unless it is held. -/
def acquire? (l : SpinLock α) : Option (SpinLock α) :=
  if l.held then none else some { l with held := true }

/-- Gives the lock back. -/
def release (l : SpinLock α) : SpinLock α := { l with held := false }

/-- Changes the value behind the lock. -/
def store (l : SpinLock α) (value : α) : SpinLock α := { l with value }

/-! ## Taking and giving back -/

@[simp] theorem held_free (value : α) : (free value).held = false := rfl

@[simp] theorem held_release (l : SpinLock α) : l.release.held = false := rfl

@[simp] theorem value_release (l : SpinLock α) : l.release.value = l.value := rfl

@[simp] theorem held_store (l : SpinLock α) (value : α) : (l.store value).held = l.held := rfl

@[simp] theorem value_store (l : SpinLock α) (value : α) : (l.store value).value = value := rfl

/-- A lock can be taken exactly when it is not held. -/
theorem acquire?_eq_none_iff (l : SpinLock α) : l.acquire? = none ↔ l.held = true := by
  unfold acquire?
  split <;> simp_all

/-- A lock that is not held is held once it is taken; the value behind it stays. -/
theorem acquire?_eq_some_iff {l l' : SpinLock α} :
    l.acquire? = some l' ↔ l.held = false ∧ l' = { l with held := true } := by
  unfold acquire?
  cases l.held with
  | true => simp
  | false => simp [eq_comm (b := l')]

/-- Taking a lock and giving it back leaves it as it was. -/
theorem release_of_acquire? {l l' : SpinLock α} (h : l.acquire? = some l') : l'.release = l := by
  obtain ⟨free, rfl⟩ := acquire?_eq_some_iff.mp h
  cases l
  simp_all [release]

end SpinLock

end LedDriver
