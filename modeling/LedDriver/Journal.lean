import LedDriver.Command.Policy

/-!
# The journal

What the driver writes for the people who look after it.  A `Notice` is an event worth a line; its
line has a severity and a text that begins with the name of the driver.
-/

namespace LedDriver

/-- A severity, from the gravest to the least grave. -/
inductive Severity where
  | fatal
  | error
  | warn
  | info
  | debug
deriving DecidableEq

namespace Severity

/-- The number of a severity; a graver one has a lesser number. -/
def rank : Severity → Nat
  | fatal => 0
  | error => 1
  | warn => 2
  | info => 3
  | debug => 4

/-- The name of a severity in a line, of five characters. -/
def mark : Severity → String
  | fatal => "FATAL"
  | error => "ERROR"
  | warn => "WARN "
  | info => "INFO "
  | debug => "DEBUG"

/-- The name of a severity in a record. -/
def text : Severity → String
  | fatal => "Fatal"
  | error => "Error"
  | warn => "Warn"
  | info => "Info"
  | debug => "Debug"

end Severity

/-- A line of the journal. -/
structure Line where
  severity : Severity
  text : String
deriving DecidableEq

/-- The line of a message begins with the name of the driver. -/
def Line.ofMessage (severity : Severity) (message : String) : Line :=
  ⟨severity, "powerled: " ++ message⟩

/-- An event that the driver writes a line about. -/
inductive Notice where
  /-- An open found the greatest count of references reached. -/
  | openLimit (max : UInt8)
  /-- Setting up the hardware failed. -/
  | setupFailed (e : DeviceError)
  /-- A close found no open reference. -/
  | spuriousClose
  /-- Putting the hardware to rest failed. -/
  | shutdownFailed (e : DeviceError)
  /-- A command was refused by policy. -/
  | refused (r : Refusal)
  /-- The operation of a command failed. -/
  | commandFailed (name : String) (e : DeviceError)
  /-- A command of the lower half's own is passed on. -/
  | forwarding (number : UInt32) (arg : CommandArg)
  /-- A command of the lower half's own failed. -/
  | forwardFailed (number : UInt32) (e : DeviceError)
  /-- A lower half without all operations was offered for registration. -/
  | incomplete (path : String) (missing : OpSet)
  /-- A device was registered. -/
  | registered (path : String)
deriving DecidableEq

namespace Notice

/-- The severity of an event. -/
def severity : Notice → Severity
  | incomplete _ _ => .fatal
  | setupFailed _ | shutdownFailed _ | refused _ | commandFailed _ _ => .error
  | openLimit _ => .warn
  | registered _ => .info
  | spuriousClose | forwarding _ _ | forwardFailed _ _ => .debug

/-- The message about an event. -/
def message : Notice → String
  | openLimit max => "open limit " ++ toString max.toNat ++ " reached"
  | setupFailed e => "setup failed: " ++ e.message
  | spuriousClose => "close with no open references"
  | shutdownFailed e => "shutdown failed: " ++ e.message
  | refused r => r.message
  | commandFailed name e => name ++ " failed: " ++ e.message
  | forwarding n arg => "forwarding unrecognized cmd " ++ Text.hex n.toNat ++ " arg " ++ arg.text
  | forwardFailed n e => "cmd " ++ Text.hex n.toNat ++ " returned " ++ e.message
  | incomplete path missing => path ++ ": lower half lacks " ++ missing.text
  | registered path => "registered " ++ path

/-- The line about an event. -/
def line (n : Notice) : Line := Line.ofMessage n.severity n.message

end Notice

/-- The notice about a command whose operation failed. -/
def Command.failureNotice (c : Command) (e : DeviceError) : Notice :=
  match c with
  | passthrough n _ => .forwardFailed n e
  | _ => .commandFailed c.name e

end LedDriver
