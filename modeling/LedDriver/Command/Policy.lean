import LedDriver.Command.Text

/-!
# Policy

Which commands the upper half refuses.  The policy depends on the command and on the control block
alone: on the limits and the mode for `start`, on the lock for `setLimits`, on the lock and the
payload for `setParams`, and on the number for `passthrough`.  All other commands are admitted in
every state.
-/

namespace LedDriver

/-- Why a command is refused. -/
inductive Refusal where
  /-- A start needs limits that are locked and positive. -/
  | limitsNotReady
  /-- A start needs a mode in which the output can run. -/
  | modeNotRunnable (mode : OpMode)
  /-- Locked limits cannot be set. -/
  | limitsLocked
  /-- Locked parameters cannot be set. -/
  | paramsLocked
  /-- The parameters are not all in their ranges. -/
  | paramsOutOfRange (params : Params)
  /-- The number belongs to a command of its own. -/
  | reservedNumber (number : UInt32)
deriving DecidableEq

namespace Refusal

/-- The error that a refused client receives. -/
def error : Refusal → DeviceError
  | reservedNumber _ => .invalidArgument
  | _ => .permissionDenied

/-- The sentence that tells why. -/
def message : Refusal → String
  | limitsNotReady => "limits must be set and locked before start"
  | modeNotRunnable m => "unsupported mode " ++ m.name
  | limitsLocked => "limits locked"
  | paramsLocked => "params locked"
  | paramsOutOfRange p =>
    "invalid params brightness=" ++ p.brightness.text .message
      ++ " frequency=" ++ p.frequency.text .message ++ " duty=" ++ p.duty.text .message
  | reservedNumber n => "passthrough of reserved cmd " ++ Text.hex n.toNat

end Refusal

/-- A start is refused unless the limits are locked and positive and the mode can run, in this
order. -/
def ControlBlock.startRefusal? (b : ControlBlock) : Option Refusal :=
  if !b.limits.lock || !b.limits.isPositive then some .limitsNotReady
  else if !b.mode.isRunnable then some (.modeNotRunnable b.mode)
  else none

/-- New limits are refused once the limits are locked. -/
def Limits.changeRefusal? (l : Limits) : Option Refusal :=
  if l.lock then some .limitsLocked else none

/-- New parameters are refused once the parameters are locked, and if they are out of range. -/
def Params.changeRefusal? (p new : Params) : Option Refusal :=
  if p.lock then some .paramsLocked
  else match new.validate with
    | .error _ => some (.paramsOutOfRange new)
    | .ok () => none

/-- A number of one of the other commands cannot be passed through. -/
def Command.numberRefusal? (n : UInt32) : Option Refusal :=
  if isReserved n then some (.reservedNumber n) else none

/-- The policy: why a command is refused on a control block, if it is. -/
def Command.refusal? (b : ControlBlock) : Command → Option Refusal
  | start => b.startRefusal?
  | setLimits _ => b.limits.changeRefusal?
  | setParams p => b.params.changeRefusal? p
  | passthrough n _ => numberRefusal? n
  | _ => none

end LedDriver
