import LedDriver.System.Execution

/-!
# A crowd of clients on a test bench

Many clients use one device, first to raise a fault each and to open references, then to close them.
The bench counts what succeeded and how often the hardware was set up and put to rest.  The totals
do not depend on the order in which the clients come, so that they come one after another here.
-/

namespace LedDriver.Bench

/-- How often the hardware was set up and put to rest. -/
structure Crowd where
  setups : Nat
  shutdowns : Nat

/-- What the bench counts after a phase. -/
structure Tally where
  succeeded : Nat
  openCount : UInt8
  setups : Nat
  shutdowns : Nat
  faults : FaultFlags

namespace Crowd

/-- A lower half that counts its calls and raises the faults that it is given. -/
def lowerHalf : LowerHalf Crowd where
  provided := pure Flags.all
  operate s
    | .setup, _ => do
      let _ ← Reaction.own fun b => { b with setups := b.setups + 1 }
      pure (.ok ())
    | .shutdown, _ => do
      let _ ← Reaction.own fun b => { b with shutdowns := b.shutdowns + 1 }
      pure (.ok ())
    | .faultSet, f => do
      (Service.control s (.raiseFault f)).use
      pure (.ok ())
    | o, args => pure (o.failed .unsupported args)
  discard := pure ()

/-- The board of the bench. -/
def board : Board Crowd where
  lower _ := lowerHalf
  platform _ :=
    { enter := pure 0
      leave := fun _ => pure ()
      checkWait := pure (.error .timedOut)
      relax := pure () }
  log _ := pure ()
  publish _ _ _ _ := pure (.error .unsupported)

/-- The fault that a client raises. -/
def faultOf (client : Nat) : FaultFlags := ⟨BitVec.twoPow 8 (client % 8)⟩

/-- The number of successes when something is done a number of times. -/
def successes (a : Reaction Crowd (Except DeviceError Unit)) : Nat → Reaction Crowd Nat
  | 0 => pure 0
  | n + 1 => do
    let r ← a
    let rest ← successes a n
    match r with
    | .ok () => pure (rest + 1)
    | .error _ => pure rest

/-- A phase: each client raises its fault and then does something a number of times.  The successes
are counted. -/
def phase (s : SessionId) (a : Reaction Crowd (Except DeviceError Unit)) (each : Nat) :
    List Nat → Reaction Crowd Nat
  | [] => pure 0
  | client :: rest => do
    let _ ← (Service.command s (.setFault (faultOf client))).use
    let here ← successes a each
    let others ← phase s a each rest
    pure (here + others)

/-- What the bench counts after a phase in which a number of calls succeeded. -/
def tally (s : SessionId) (succeeded : Nat) : Reaction Crowd Tally := do
  let count ← (Service.openCount s).use
  let faults ← (Service.control s .faults).use
  let b ← Reaction.own id
  pure ⟨succeeded, count, b.setups, b.shutdowns, faults⟩

/-- Both phases, for a number of clients that open and close a number of references each. -/
def phases (s : SessionId) (clients each : Nat) : Reaction Crowd (List Tally) := do
  let opened ← phase s (Service.openDevice s).use each (List.range clients)
  let first ← tally s opened
  let closed ← phase s (Service.closeDevice s).use each (List.range clients)
  let second ← tally s closed
  pure [first, second]

/-- Carries out both phases on a new device. -/
def run (config : Config) (clients each : Nat) : Except Halt (List Tally) := do
  let world := (World.initial (⟨0, 0⟩ : Crowd)).create ⟨0, 0, config⟩
  let x ← board.run 16 (phases 0 clients each).action world
  pure x.result

end Crowd

end LedDriver.Bench
