import LedDriver.Semaphore
import LedDriver.ReferenceCount
import LedDriver.SpinLock
import LedDriver.System.Call

/-!
# The world and its atoms

A `World` is everything that a run of the driver can change: the memory of the sessions, the
semaphores, the device table, and a value `own` that belongs to the surroundings of the driver.

Memory has a place for every session number, but only the sessions that were created can be used.

An `Atom` is a single indivisible action on the world.  `Atom.apply` says what it answers and
leaves, or what stands in its way: a lock that is held, or a session that was not created.
-/

namespace LedDriver

/-- What is fixed about a session when it is created. -/
structure Profile where
  lower : LowerId
  platform : PlatformId
  config : Config

/-- A lock that an atom can take. -/
inductive LockId where
  | control (s : SessionId)
  | table
deriving DecidableEq

/-- What can stand in the way of an atom. -/
inductive Obstacle where
  /-- The lock is held. -/
  | held (l : LockId)
  /-- The session was not created. -/
  | noSession (s : SessionId)
deriving DecidableEq

/-- Everything that a run of the driver can change. -/
structure World (σ : Type) where
  /-- The number of sessions created; the next session has this number. -/
  issued : Nat
  profile : SessionId → Profile
  control : SessionId → SpinLock ControlBlock
  count : SessionId → UInt8
  semaphore : SemaphoreId → Semaphore
  table : SpinLock (DeviceTable SessionId)
  /-- The state of the surroundings. -/
  own : σ

/-- A function changed at one place. -/
def update {κ α : Type} [DecidableEq κ] (f : κ → α) (k : κ) (a : α) : κ → α :=
  fun j => if j = k then a else f j

@[simp] theorem update_self {κ α : Type} [DecidableEq κ] (f : κ → α) (k : κ) (a : α) :
    update f k a k = a := if_pos rfl

theorem update_of_ne {κ α : Type} [DecidableEq κ] (f : κ → α) {k j : κ} (a : α) (h : j ≠ k) :
    update f k a j = f j := if_neg h

@[simp] theorem update_update {κ α : Type} [DecidableEq κ] (f : κ → α) (k : κ) (a b : α) :
    update (update f k a) k b = update f k b := by
  funext j
  by_cases h : j = k <;> simp [update, h]

@[simp] theorem update_eq_self {κ α : Type} [DecidableEq κ] (f : κ → α) (k : κ) :
    update f k (f k) = f := by
  funext j
  by_cases h : j = k <;> simp [update, h]

namespace World

variable {σ : Type}

/-- The world before anything happened. -/
def initial (own : σ) : World σ where
  issued := 0
  profile := fun _ => ⟨0, 0, Config.default⟩
  control := fun _ => SpinLock.free ControlBlock.initial
  count := fun _ => 0
  semaphore := fun _ => ⟨1⟩
  table := SpinLock.free DeviceTable.empty
  own := own

/-- Creates a session: closed, with a free guard and a new control block. -/
def create (w : World σ) (p : Profile) : World σ :=
  { w with
    issued := w.issued + 1
    profile := update w.profile w.issued p
    control := update w.control w.issued (SpinLock.free ControlBlock.initial)
    count := update w.count w.issued 0
    semaphore := update w.semaphore (.guard w.issued) ⟨1⟩ }

end World

/-- An indivisible action on the world. -/
inductive Atom (σ : Type) where
  /-- Take a lock. -/
  | acquire (l : LockId)
  /-- Give a lock back. -/
  | release (l : LockId)
  /-- Use the control block of a session. -/
  | control (s : SessionId) (m : ControlMethod)
  /-- Use the device table. -/
  | table (m : TableMethod SessionId)
  /-- Read the counter of a semaphore. -/
  | permits (g : SemaphoreId)
  /-- Take a permit if the counter has the value seen; answers the present value if not. -/
  | exchange (g : SemaphoreId) (seen : UInt32)
  /-- Give a permit back. -/
  | post (g : SemaphoreId)
  /-- Read the open count of a session. -/
  | count (s : SessionId)
  /-- Store the open count of a session. -/
  | setCount (s : SessionId) (value : UInt8)
  /-- Read what is fixed about a session. -/
  | profile (s : SessionId)
  /-- Create a session. -/
  | create (p : Profile)
  /-- Change the state of the surroundings; answers the state before. -/
  | own (f : σ → σ)

namespace Atom

variable {σ : Type}

/-- What an atom answers. -/
@[reducible]
def Answer : Atom σ → Type
  | control _ m => m.Answer
  | table m => m.Answer
  | permits _ => UInt32
  | exchange _ _ => Except UInt32 Unit
  | count _ => UInt8
  | profile _ => Profile
  | create _ => SessionId
  | own _ => σ
  | acquire _ | release _ | post _ | setCount _ _ => Unit

/-- The session whose memory an atom uses. -/
def session? : Atom σ → Option SessionId
  | acquire (.control s) | release (.control s) | control s _ | permits (.guard s)
  | exchange (.guard s) _ | post (.guard s) | count s | setCount s _ | profile s => some s
  | acquire .table | release .table | table _ | permits (.alone _) | exchange (.alone _) _
  | post (.alone _) | create _ | own _ => none

/-- What an atom answers in a world, and the world it leaves, if its session was created. -/
def effect : (a : Atom σ) → World σ → Except Obstacle (a.Answer × World σ)
  | acquire (.control s), w =>
    match (w.control s).acquire? with
    | some l => .ok ((), { w with control := update w.control s l })
    | none => .error (.held (.control s))
  | acquire .table, w =>
    match w.table.acquire? with
    | some l => .ok ((), { w with table := l })
    | none => .error (.held .table)
  | release (.control s), w =>
    .ok ((), { w with control := update w.control s (w.control s).release })
  | release .table, w => .ok ((), { w with table := w.table.release })
  | control s m, w =>
    let r := m.apply (w.control s).value
    .ok (r.1, { w with control := update w.control s ((w.control s).store r.2) })
  | table m, w =>
    let r := m.apply w.table.value
    .ok (r.1, { w with table := w.table.store r.2 })
  | permits g, w => .ok ((w.semaphore g).permits, w)
  | exchange g seen, w =>
    match (w.semaphore g).exchange? seen with
    | some x => .ok (.ok (), { w with semaphore := update w.semaphore g x })
    | none => .ok (.error (w.semaphore g).permits, w)
  | post g, w => .ok ((), { w with semaphore := update w.semaphore g (w.semaphore g).post })
  | count s, w => .ok (w.count s, w)
  | setCount s value, w => .ok ((), { w with count := update w.count s value })
  | profile s, w => .ok (w.profile s, w)
  | create p, w => .ok (w.issued, w.create p)
  | own f, w => .ok (w.own, { w with own := f w.own })

/-- What an atom answers in a world, and the world it leaves, or what stands in its way. -/
def apply (a : Atom σ) (w : World σ) : Except Obstacle (a.Answer × World σ) :=
  match a.session? with
  | none => a.effect w
  | some s => if s < w.issued then a.effect w else .error (.noSession s)

end Atom

end LedDriver
