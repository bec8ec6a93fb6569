import LedDriver.System.Routine.Dispatch
import LedDriver.System.Routine.Lifecycle

/-!
# Registration

A request to register a device is checked, then the device gets a session, then the session is
published.  A lower half that is not published is discarded, whatever went wrong.
-/

namespace LedDriver

variable {σ : Type}

namespace DeviceTable

/-- The answer of a method that does not need the table: nothing can be published at the empty
path. -/
def settled? : (m : TableMethod SessionId) → Option m.Answer
  | .insert e => if e.path = "" then some (.error .invalidArgument) else none
  | _ => none

/-- Uses the device table, under its lock. -/
def use (m : TableMethod SessionId) : Action σ m.Answer :=
  match settled? m with
  | some x => pure x
  | none => locked .table (.table m)

end DeviceTable

namespace Registration

/-- Gives a registration up. -/
def abandon (h : LowerId) (outcome : Registration) : Action σ Registration := do
  (Peer.discard h).make
  pure outcome

/-- Publishes a session in the registry that a request names. -/
def publish (r : RegistrationRequest) (s : SessionId) : Action σ (Except DeviceError Unit) :=
  match r.registry with
  | none => DeviceTable.use (.insert ⟨r.path, s, FileMode.readAll⟩)
  | some k => (Peer.publish k r.path s FileMode.readAll).make

/-- Gives a device a session and publishes it. -/
def establish (r : RegistrationRequest) : Action σ Registration := do
  let s ← (Atom.create ⟨r.lower, r.platform, r.config⟩).act
  match ← publish r s with
  | .error e => abandon r.lower (.refused e)
  | .ok () => do
    (Peer.log (.registered r.path)).make
    pure (.registered s)

/-- Registers a device. -/
def register (r : RegistrationRequest) : Action σ Registration :=
  if r.path = "" then abandon r.lower (.fault .emptyPath)
  else if r.config.maxOpens = 0 then abandon r.lower (.fault .noOpens)
  else do
    let provided ← (Peer.provided r.lower).make
    let missing := OpSet.missing provided
    if missing.isEmpty then establish r
    else do
      (Peer.log (.incomplete r.path missing)).make
      abandon r.lower (.fault (.incomplete r.path missing))

end Registration

/-- The program of a service. -/
def Service.action : (c : Service) → Action σ c.Answer
  | openDevice s => Session.openDevice s
  | closeDevice s => Session.closeDevice s
  | command s c => Session.command s c
  | control s m => Session.control s m
  | operate s o args => do
    let p ← (Atom.profile s).act
    (Peer.operate .client p.lower s o args).make
  | provided s => do
    let p ← (Atom.profile s).act
    (Peer.provided p.lower).make
  | openCount s => (Atom.count s).act
  | config s => do
    let p ← (Atom.profile s).act
    pure p.config
  | register r => Registration.register r
  | table m => DeviceTable.use m
  | tryWait i => (Routine.tryWait (.alone i)).make
  | wait i p => (Routine.wait (.alone i) p).make
  | post i => (Atom.post (.alone i)).act

end LedDriver
