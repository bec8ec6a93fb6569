import LedDriver.Operation

/-!
# Commands

What a client can ask of a device, with the number and the name of each request.  Nine commands have
a number of their own; any other number can be passed through to the lower half.
-/

namespace LedDriver

/-- A request to a device.  A command that fills a buffer carries the buffer's contents. -/
inductive Command where
  /-- Turn the output on. -/
  | start
  /-- Turn the output off. -/
  | stop
  /-- Change the operating mode. -/
  | setMode (mode : OpMode)
  /-- Set, and perhaps lock, the limits. -/
  | setLimits (limits : Limits)
  /-- Read the coarse state into a buffer. -/
  | getState (held : State)
  /-- Raise faults. -/
  | setFault (fault : FaultFlags)
  /-- Read the active faults into a buffer. -/
  | getFault (held : FaultFlags)
  /-- Clear faults. -/
  | cleanFault (fault : FaultFlags)
  /-- Set, and perhaps lock, the output parameters. -/
  | setParams (params : Params)
  /-- A command of the driver's own. -/
  | passthrough (number : UInt32) (arg : CommandArg)
deriving DecidableEq

namespace Command

/-- The least number of a command with a number of its own. -/
def firstReserved : UInt32 := 0x2a01

/-- The greatest number of a command with a number of its own. -/
def lastReserved : UInt32 := 0x2a09

/-- The number of a command. -/
def number : Command → UInt32
  | start => 0x2a01
  | stop => 0x2a02
  | setMode _ => 0x2a03
  | setLimits _ => 0x2a04
  | getState _ => 0x2a05
  | setFault _ => 0x2a06
  | getFault _ => 0x2a07
  | cleanFault _ => 0x2a08
  | setParams _ => 0x2a09
  | passthrough n _ => n

/-- A number belongs to one of the nine commands that have one. -/
def isReserved (n : UInt32) : Bool := firstReserved ≤ n && n ≤ lastReserved

/-- The name of a command. -/
def name : Command → String
  | start => "START"
  | stop => "STOP"
  | setMode _ => "SET_MODE"
  | setLimits _ => "SET_LIMITS"
  | getState _ => "GET_STATE"
  | setFault _ => "SET_FAULT"
  | getFault _ => "GET_FAULT"
  | cleanFault _ => "CLEAN_FAULT"
  | setParams _ => "SET_PARAMS"
  | passthrough _ _ => "PASSTHROUGH"

end Command

/-- The answer to a command: its result and the command with its buffer as it was left. -/
structure CommandAnswer where
  result : Except DeviceError UInt64
  command : Command

namespace Command

/-- A command that was not carried out leaves its buffer as it was. -/
def rejected (c : Command) (e : DeviceError) : CommandAnswer := ⟨.error e, c⟩

end Command

end LedDriver
