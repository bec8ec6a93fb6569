import LedDriver.Config
import LedDriver.DeviceTable
import LedDriver.ControlBlock.Method
import LedDriver.Journal

/-!
# Calls

The procedures that a run of the driver is made of.  A `Service` is what the driver offers to its
clients; a `Routine` is an inner procedure of its own; a `Peer` call leaves the driver for something
that belongs to its surroundings: a lower half, a platform, the journal, or a registry other than
the device table.  Clients, lower halves, platforms, the journal and registries can themselves use
the services, so that calls nest.

Sessions, lower halves, platforms, registries and semaphores are known by numbers.
-/

namespace LedDriver

/-- The number of a registered device's session. -/
abbrev SessionId := Nat

/-- The number of a lower half. -/
abbrev LowerId := Nat

/-- The number of a platform. -/
abbrev PlatformId := Nat

/-- The number of a registry that is not the device table. -/
abbrev RegistryId := Nat

/-- A semaphore: the guard of a session's open count, or one that stands alone. -/
inductive SemaphoreId where
  | guard (session : SessionId)
  | alone (number : Nat)
deriving DecidableEq

/-- A request to register a device. -/
structure RegistrationRequest where
  path : String
  lower : LowerId
  platform : PlatformId
  config : Config
  /-- The registry to publish in; the device table if there is none. -/
  registry : Option RegistryId
deriving DecidableEq

/-- A mistake of the caller that makes registration impossible. -/
inductive RegistrationFault where
  | emptyPath
  | noOpens
  | incomplete (path : String) (missing : OpSet)
deriving DecidableEq

/-- The text with which registration gives up. -/
def RegistrationFault.message : RegistrationFault → String
  | emptyPath => "powerled: empty device path"
  | noOpens => "powerled: max_opens must be at least 1"
  | incomplete path missing => "powerled: " ++ path ++ ": lower half lacks " ++ missing.text

/-- The outcome of a registration. -/
inductive Registration where
  /-- The device has a session and is published. -/
  | registered (session : SessionId)
  /-- The registry refused the device. -/
  | refused (e : DeviceError)
  /-- The request itself is at fault. -/
  | fault (cause : RegistrationFault)
deriving DecidableEq

/-- What the driver offers to its clients. -/
inductive Service where
  /-- Open a reference to a device. -/
  | openDevice (s : SessionId)
  /-- Close a reference to a device. -/
  | closeDevice (s : SessionId)
  /-- Send a command to a device. -/
  | command (s : SessionId) (c : Command)
  /-- Use the control block of a device directly. -/
  | control (s : SessionId) (m : ControlMethod)
  /-- Call an operation of a device's lower half directly, past the policy. -/
  | operate (s : SessionId) (o : Operation) (args : o.Args)
  /-- Ask which operations a device's lower half provides. -/
  | provided (s : SessionId)
  /-- Read the number of open references. -/
  | openCount (s : SessionId)
  /-- Read the configuration of a device. -/
  | config (s : SessionId)
  /-- Register a device. -/
  | register (r : RegistrationRequest)
  /-- Use the device table. -/
  | table (m : TableMethod SessionId)
  /-- Take a permit of a lone semaphore if one is free. -/
  | tryWait (i : Nat)
  /-- Wait for a permit of a lone semaphore on a platform. -/
  | wait (i : Nat) (p : PlatformId)
  /-- Give a permit of a lone semaphore back. -/
  | post (i : Nat)

/-- What a service answers. -/
@[reducible]
def Service.Answer : Service → Type
  | openDevice _ | closeDevice _ => Except DeviceError Unit
  | command _ _ => CommandAnswer
  | control _ m => m.Answer
  | operate _ o _ => o.Answer
  | provided _ => OpSet
  | openCount _ => UInt8
  | config _ => Config
  | register _ => Registration
  | table m => m.Answer
  | tryWait _ => Bool
  | wait _ _ => Except DeviceError Unit
  | post _ => Unit

/-- An inner procedure of the driver. -/
inductive Routine where
  /-- Take a permit if one is free. -/
  | tryWait (g : SemaphoreId)
  /-- Take a permit if one is free, knowing the counter as it was seen last. -/
  | claim (g : SemaphoreId) (seen : UInt32)
  /-- Wait for a permit. -/
  | wait (g : SemaphoreId) (p : PlatformId)

/-- What an inner procedure answers. -/
@[reducible]
def Routine.Answer : Routine → Type
  | tryWait _ | claim _ _ => Bool
  | wait _ _ => Except DeviceError Unit

/-- Who calls an operation of a lower half. -/
inductive Caller where
  /-- The driver, to open or close a device or to carry out a command that it admitted. -/
  | driver
  /-- A client, past the policy. -/
  | client
deriving DecidableEq

/-- A call that leaves the driver. -/
inductive Peer where
  /-- An operation of a lower half, on the control block of a session. -/
  | operate (caller : Caller) (h : LowerId) (s : SessionId) (o : Operation) (args : o.Args)
  /-- The operations that a lower half provides. -/
  | provided (h : LowerId)
  /-- The end of a lower half that is no longer used. -/
  | discard (h : LowerId)
  /-- Mask the interrupts; answers the state to restore. -/
  | enter (p : PlatformId)
  /-- Restore the interrupts. -/
  | leave (p : PlatformId) (saved : UInt64)
  /-- Ask whether a blocked party may go on waiting. -/
  | checkWait (p : PlatformId)
  /-- Let others run while blocked. -/
  | relax (p : PlatformId)
  /-- Write into the journal. -/
  | log (n : Notice)
  /-- Publish a session in a registry other than the device table. -/
  | publish (r : RegistryId) (path : String) (s : SessionId) (mode : FileMode)

/-- What a call that leaves the driver answers. -/
@[reducible]
def Peer.Answer : Peer → Type
  | operate _ _ _ o _ => o.Answer
  | provided _ => OpSet
  | enter _ => UInt64
  | checkWait _ | publish _ _ _ _ => Except DeviceError Unit
  | discard _ | leave _ _ | relax _ | log _ => Unit

/-- A call of any kind. -/
inductive Call where
  | service (c : Service)
  | routine (c : Routine)
  | peer (c : Peer)

/-- What a call answers. -/
@[reducible]
def Call.Answer : Call → Type
  | service c => c.Answer
  | routine c => c.Answer
  | peer c => c.Answer

end LedDriver
