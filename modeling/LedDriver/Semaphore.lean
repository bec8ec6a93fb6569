/-!
# Semaphores

A counter of free permits.  A party that read the counter may take a permit only if the counter
still has the value it read and that value is not zero; otherwise it learns the present value.
-/

namespace LedDriver

/-- A counter of free permits. -/
structure Semaphore where
  permits : UInt32
deriving DecidableEq

namespace Semaphore

/-- Takes one permit if the counter has the value `seen`. -/
def exchange? (s : Semaphore) (seen : UInt32) : Option Semaphore :=
  if s.permits = seen then some ⟨seen - 1⟩ else none

/-- Gives one permit back. -/
def post (s : Semaphore) : Semaphore := ⟨s.permits + 1⟩

/-! ## Counting permits -/

/-- An exchange takes effect exactly when the counter has the value seen. -/
theorem exchange?_eq_some_iff {s t : Semaphore} {seen : UInt32} :
    s.exchange? seen = some t ↔ s.permits = seen ∧ t = ⟨seen - 1⟩ := by
  unfold exchange?
  split <;> simp_all [eq_comm]

/-- A permit that was taken and given back is counted once. -/
theorem post_of_exchange? {s t : Semaphore} {seen : UInt32} (h : s.exchange? seen = some t) :
    t.post = s := by
  rcases exchange?_eq_some_iff.mp h with ⟨hs, rfl⟩
  cases s
  simp_all [post]

end Semaphore

end LedDriver
