import LedDriver.ControlBlock.Basic
import LedDriver.DeviceError

/-!
# Methods of the control block

The ways to read and to change a control block.  A method is a value, so that a run of the driver
can be described by the methods applied in it; `ControlMethod.apply` says what each of them answers
and leaves.  Limits and parameters can be stored only while they are unlocked, and a refused store
changes nothing.
-/

namespace LedDriver

/-- A way to read or to change a control block. -/
inductive ControlMethod where
  | snapshot
  | mode
  | setMode (mode : OpMode)
  | limits
  | storeLimits (limits : Limits)
  | params
  | storeParams (params : Params)
  | state
  | setState (state : LightState)
  | faults
  | raiseFault (fault : FaultFlags)
  | clearFault (fault : FaultFlags)
deriving DecidableEq

namespace ControlMethod

/-- What a method answers. -/
@[reducible]
def Answer : ControlMethod → Type
  | snapshot => ControlBlock
  | mode => OpMode
  | limits => Limits
  | params => Params
  | state => State
  | faults => FaultFlags
  | storeLimits _ | storeParams _ => Except DeviceError Unit
  | setMode _ | setState _ | raiseFault _ | clearFault _ => Unit

/-- What a method answers on a block, and the block it leaves. -/
def apply : (m : ControlMethod) → ControlBlock → m.Answer × ControlBlock
  | snapshot, b => (b, b)
  | mode, b => (b.mode, b)
  | setMode x, b => ((), { b with mode := x })
  | limits, b => (b.limits, b)
  | storeLimits x, b =>
    if b.limits.lock then (.error .permissionDenied, b) else (.ok (), { b with limits := x })
  | params, b => (b.params, b)
  | storeParams x, b =>
    if b.params.lock then (.error .permissionDenied, b) else (.ok (), { b with params := x })
  | state, b => (⟨b.state, b.fault⟩, b)
  | setState x, b => ((), { b with state := x })
  | faults, b => (b.fault, b)
  | raiseFault x, b => ((), { b with fault := b.fault.union x })
  | clearFault x, b => ((), { b with fault := b.fault.difference x })

/-- A locked limit survives every method. -/
theorem apply_limits_of_lock (m : ControlMethod) {b : ControlBlock} (h : b.limits.lock = true) :
    (m.apply b).2.limits = b.limits := by
  cases m <;> simp only [apply, h, if_true]
  split <;> rfl

/-- Locked parameters survive every method. -/
theorem apply_params_of_lock (m : ControlMethod) {b : ControlBlock} (h : b.params.lock = true) :
    (m.apply b).2.params = b.params := by
  cases m <;> simp only [apply, h, if_true]
  split <;> rfl

end ControlMethod

end LedDriver
