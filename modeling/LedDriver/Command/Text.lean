import LedDriver.Command.Basic
import LedDriver.ControlBlock.Text

/-!
# Text of commands

The text of commands and of their arguments as it stands in records and messages.
-/

namespace LedDriver

/-- Bytes are written as a sequence of decimal numbers. -/
def bytesText (contents : List UInt8) : String :=
  Text.sequence (contents.map fun b => toString b.toNat)

/-- An argument is written as its kind and its contents. -/
def CommandArg.text : CommandArg → String
  | none => "None"
  | value word => Text.wrapped "Value" (toString word.toNat)
  | bytes contents => Text.wrapped "Bytes" (bytesText contents)
  | buffer contents => Text.wrapped "BytesMut" (bytesText contents)

/-- A command is written as its kind and its payload. -/
def Command.text : Command → String
  | start => "Start"
  | stop => "Stop"
  | setMode m => Text.wrapped "SetMode" m.text
  | setLimits l => Text.wrapped "SetLimits" l.text
  | getState held => Text.wrapped "GetState" held.text
  | setFault f => Text.wrapped "SetFault" f.text
  | getFault held => Text.wrapped "GetFault" held.text
  | cleanFault f => Text.wrapped "CleanFault" f.text
  | setParams p => Text.wrapped "SetParams" p.text
  | passthrough n arg =>
    Text.record "Passthrough" [Text.field "cmd" (toString n.toNat), Text.field "arg" arg.text]

end LedDriver
