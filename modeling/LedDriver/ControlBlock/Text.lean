import LedDriver.Binary32.Text
import LedDriver.ControlBlock.Basic

/-!
# Text of the control block

The text of each part of a control block as it stands in records, and the name of an operating mode
as it stands in messages.
-/

namespace LedDriver

/-- The name of a mode in a message; a mode without a name shows its byte. -/
def OpMode.name (m : OpMode) : String :=
  if m = init then "init"
  else if m = continuous then "continuous"
  else if m = flash then "flash"
  else Text.wrapped "mode" (toString m.raw.toNat)

/-- A mode in a record shows its byte. -/
def OpMode.text (m : OpMode) : String := Text.wrapped "OpMode" (toString m.raw.toNat)

/-- The name of a coarse state. -/
def LightState.text : LightState → String
  | init => "Init"
  | idle => "Idle"
  | run => "Run"
  | fault => "Fault"
  | critical => "Critical"

/-- The coarse state and the faults as a record. -/
def State.text (s : State) : String :=
  Text.record "State" [Text.field "state" s.state.text, Text.field "fault" s.fault.text]

/-- Limits as a record. -/
def Limits.text (l : Limits) : String :=
  Text.record "Limits"
    [Text.field "current" (l.current.text .record), Text.field "lock" (Text.truth l.lock)]

/-- Parameters as a record. -/
def Params.text (p : Params) : String :=
  Text.record "Params"
    [Text.field "brightness" (p.brightness.text .record),
      Text.field "frequency" (p.frequency.text .record),
      Text.field "duty" (p.duty.text .record),
      Text.field "lock" (Text.truth p.lock)]

/-- A control block as a record. -/
def ControlBlock.text (b : ControlBlock) : String :=
  Text.record "ControlBlock"
    [Text.field "mode" b.mode.text, Text.field "limits" b.limits.text,
      Text.field "params" b.params.text, Text.field "state" b.state.text,
      Text.field "fault" b.fault.text]

end LedDriver
