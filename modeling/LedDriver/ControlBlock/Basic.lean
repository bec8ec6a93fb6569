import LedDriver.Binary32.Basic
import LedDriver.DeviceError
import LedDriver.Flags

/-!
# The control block

What a device knows about itself: its operating mode, the limit of its output current, its output
parameters, its coarse state and the faults that are active.  The limits and the parameters carry a
lock each.  The block is shared by the two halves of a driver: the upper half reads it to decide
whether a command is admissible, the lower half writes into it what it has applied.
-/

namespace LedDriver

/-- An operating mode is a raw byte; only some bytes have a meaning to the upper half. -/
structure OpMode where
  raw : UInt8
deriving DecidableEq

namespace OpMode

/-- The mode of a device that was not configured yet. -/
def init : OpMode := ⟨0⟩

/-- Constant output. -/
def continuous : OpMode := ⟨1⟩

/-- Flashing output. -/
def flash : OpMode := ⟨2⟩

/-- The output may be started in this mode. -/
def isRunnable (m : OpMode) : Bool := m == continuous || m == flash

end OpMode

/-- The faults with a name.  The other bits of the byte belong to the lower half. -/
def FaultFlags.vocabulary : Vocabulary where
  name := "FaultFlags"
  width := 8
  named := [("OVERHEAT", 1), ("OVERCURRENT", 2), ("OVERVOLTAGE", 4), ("HARDWARE", 8)]

/-- A byte of active faults. -/
abbrev FaultFlags := Flags FaultFlags.vocabulary

/-- The coarse state of a device. -/
inductive LightState where
  /-- Not set up. -/
  | init
  /-- Set up, output off. -/
  | idle
  /-- Output on. -/
  | run
  /-- A fault was raised and the output is off. -/
  | fault
  /-- A fault was raised that calls for a full shutdown. -/
  | critical
deriving DecidableEq

/-- The coarse state of a device together with its active faults. -/
structure State where
  state : LightState
  fault : FaultFlags
deriving DecidableEq

/-- The limit of the output current in amperes; once locked it stays as it is. -/
structure Limits where
  current : Binary32
  lock : Bool
deriving DecidableEq

/-- The limit is a positive current.  NaN and both zeros are not. -/
def Limits.isPositive (l : Limits) : Bool := Binary32.zero.lt l.current

/-- Output parameters: brightness and duty cycle in percent, flash frequency in hertz; once locked
they stay as they are. -/
structure Params where
  brightness : Binary32
  frequency : Binary32
  duty : Binary32
  lock : Bool
deriving DecidableEq

/-- A number lies between zero and one hundred.  NaN does not. -/
def Binary32.isPercentage (x : Binary32) : Bool := zero.le x && x.le hundred

namespace Params

/-- Every parameter is in its range. -/
def inRange (p : Params) : Bool :=
  p.brightness.isPercentage && Binary32.zero.le p.frequency && p.duty.isPercentage

/-- Parameters that are not all in their ranges are not permitted. -/
def validate (p : Params) : Except DeviceError Unit :=
  if p.inRange then .ok () else .error .permissionDenied

end Params

/-- The configuration and state of one device. -/
structure ControlBlock where
  mode : OpMode
  limits : Limits
  params : Params
  state : LightState
  fault : FaultFlags
deriving DecidableEq

/-- The block of a new device: all zero and unlocked. -/
def ControlBlock.initial : ControlBlock where
  mode := OpMode.init
  limits := ⟨Binary32.zero, false⟩
  params := ⟨Binary32.zero, Binary32.zero, Binary32.zero, false⟩
  state := LightState.init
  fault := Flags.empty

instance : Inhabited ControlBlock := ⟨ControlBlock.initial⟩

end LedDriver
