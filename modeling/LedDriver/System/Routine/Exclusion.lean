import LedDriver.System.Board

/-!
# Exclusion

The three ways in which the driver keeps parties apart.

* A spin lock is taken around a single use of a control block or of the device table, so that it is
  never held while the driver calls anything.
* A semaphore is waited for by trying to take a permit, and after each failure asking the platform
  whether to go on.  A permit that is free at once is taken without asking.
* A critical section masks the interrupts of a platform around a body.
-/

namespace LedDriver

variable {σ : Type} {α : Type}

/-- Performs an atom under a lock. -/
def locked (l : LockId) (a : Atom σ) : Action σ a.Answer := do
  (Atom.acquire l).act
  let x ← a.act
  (Atom.release l).act
  pure x

namespace Semaphore

/-- Takes a permit if one is free, knowing the counter as it was seen last: a failed exchange tells
the present counter, and the attempt goes on with that. -/
def claim (g : SemaphoreId) (seen : UInt32) : Action σ Bool :=
  if seen = 0 then pure false
  else do
    match ← (Atom.exchange g seen).act with
    | .ok () => pure true
    | .error present => (Routine.claim g present).make

/-- Takes a permit if one is free. -/
def tryWait (g : SemaphoreId) : Action σ Bool := do
  let seen ← (Atom.permits g).act
  (Routine.claim g seen).make

/-- Waits for a permit until the platform says not to. -/
def wait (g : SemaphoreId) (p : PlatformId) : Action σ (Except DeviceError Unit) := do
  if ← (Routine.tryWait g).make then
    pure (.ok ())
  else
    match ← (Peer.checkWait p).make with
    | .error e => pure (.error e)
    | .ok () => do
      (Peer.relax p).make
      (Routine.wait g p).make

/-- Performs a body with a permit, which is given back after the body whatever its result.
Without a permit the body is not performed. -/
def withPermit (g : SemaphoreId) (p : PlatformId) (body : Action σ (Except DeviceError Unit)) :
    Action σ (Except DeviceError Unit) := do
  match ← (Routine.wait g p).make with
  | .error e => pure (.error e)
  | .ok () => do
    let result ← body
    (Atom.post g).act
    pure result

end Semaphore

/-- Performs a body with the interrupts of a platform masked. -/
def inCriticalSection (p : PlatformId) (body : Action σ α) : Action σ α := do
  let saved ← (Peer.enter p).make
  let x ← body
  (Peer.leave p saved).make
  pure x

/-- The program of an inner procedure. -/
def Routine.action : (c : Routine) → Action σ c.Answer
  | tryWait g => Semaphore.tryWait g
  | claim g seen => Semaphore.claim g seen
  | wait g p => Semaphore.wait g p

end LedDriver
