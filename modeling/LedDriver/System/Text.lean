import LedDriver.ControlBlock.Text
import LedDriver.Config

/-!
# Text of sessions

Whether a device is in use, and the record that describes a session.
-/

namespace LedDriver

/-- Whether the hardware of a device is set up. -/
inductive SessionState where
  /-- There is no open reference. -/
  | uninitialized
  /-- There is an open reference. -/
  | active
deriving DecidableEq

/-- A device is in use while its open count is positive. -/
def isLive (count : UInt8) : Bool := 0 < count

/-- The hardware of a device is set up while the device is in use. -/
def SessionState.ofCount (count : UInt8) : SessionState :=
  if isLive count then active else uninitialized

/-- The name of a session's state. -/
def SessionState.text : SessionState → String
  | uninitialized => "Uninitialized"
  | active => "Active"

/-- The record of a session shows its open count, control block and configuration, and that there is
more to it. -/
def sessionText (count : UInt8) (block : ControlBlock) (config : Config) : String :=
  Text.record "PowerLed"
    [Text.field "open_count" (toString count.toNat), Text.field "control" block.text,
      Text.field "config" config.text, ".."]

end LedDriver
