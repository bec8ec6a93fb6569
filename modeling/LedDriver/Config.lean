import LedDriver.Text

/-!
# Configuration of a device

What is chosen once, when a device is registered: how many references may be open at a time, and
what the first open reports when the hardware cannot be set up.
-/

namespace LedDriver

/-- What an open reports when setting up the hardware fails.  The open count stays zero either
way. -/
inductive SetupPolicy where
  /-- Report success; the failure shows in the journal only. -/
  | conceal
  /-- Report the error of the lower half. -/
  | report
deriving DecidableEq

/-- The configuration of one device. -/
structure Config where
  maxOpens : UInt8
  setupFailure : SetupPolicy
deriving DecidableEq

/-- By default a device admits as many references as a byte can count, and conceals a failed
setup. -/
def Config.default : Config := ⟨255, .conceal⟩

instance : Inhabited Config := ⟨Config.default⟩

/-- The name of a policy. -/
def SetupPolicy.text : SetupPolicy → String
  | conceal => "Conceal"
  | report => "Report"

/-- A configuration as a record. -/
def Config.text (c : Config) : String :=
  Text.record "PowerLedConfig"
    [Text.field "max_opens" (toString c.maxOpens.toNat),
      Text.field "setup_failure" c.setupFailure.text]

end LedDriver
