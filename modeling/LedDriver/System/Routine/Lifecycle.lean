import LedDriver.System.Routine.Exclusion

/-!
# Opening and closing

The first open of a device sets up its hardware and the close of the last reference puts it to rest.
Both happen in a critical section, while the permit of the device's guard is held, so that they
overlap neither each other nor any change of the open count.

An open that fails to set up the hardware leaves the count at zero, whatever it reports.  A close
without open references puts the hardware to rest once more.
-/

namespace LedDriver

variable {σ : Type}

/-- What an open reports when the hardware could not be set up. -/
def SetupPolicy.report? : SetupPolicy → DeviceError → Except DeviceError Unit
  | conceal, _ => .ok ()
  | report, e => .error e

namespace Session

/-- Calls an operation that takes no argument, in a critical section. -/
def operateMasked (s : SessionId) (p : Profile) (o : Operation) (args : o.Args) :
    Action σ o.Answer :=
  inCriticalSection p.platform (Peer.operate .driver p.lower s o args).make

/-- The work of an open, done with the permit of the guard. -/
def openHolding (s : SessionId) (p : Profile) : Action σ (Except DeviceError Unit) := do
  let count ← (Atom.count s).act
  match (ReferenceCount.mk count p.config.maxOpens).raised with
  | .error e => do
    (Peer.log (.openLimit p.config.maxOpens)).make
    pure (.error e)
  | .ok next =>
    if next = 1 then do
      match ← operateMasked s p .setup () with
      | .error e => do
        (Peer.log (.setupFailed e)).make
        pure (p.config.setupFailure.report? e)
      | .ok () => do
        (Atom.setCount s next).act
        pure (.ok ())
    else do
      (Atom.setCount s next).act
      pure (.ok ())

/-- Opens a reference to a device. -/
def openDevice (s : SessionId) : Action σ (Except DeviceError Unit) := do
  let p ← (Atom.profile s).act
  Semaphore.withPermit (.guard s) p.platform (openHolding s p)

/-- Puts the hardware to rest and counts no reference; a failure is written down but not
reported. -/
def shutDown (s : SessionId) (p : Profile) : Action σ (Except DeviceError Unit) := do
  (Atom.setCount s 0).act
  match ← operateMasked s p .shutdown () with
  | .error e => do
    (Peer.log (.shutdownFailed e)).make
    pure (.ok ())
  | .ok () => pure (.ok ())

/-- The work of a close, done with the permit of the guard. -/
def closeHolding (s : SessionId) (p : Profile) : Action σ (Except DeviceError Unit) := do
  let count ← (Atom.count s).act
  if 1 < count then do
    let count ← (Atom.count s).act
    (Atom.setCount s (ReferenceCount.mk count p.config.maxOpens).lowered).act
    pure (.ok ())
  else if count = 0 then do
    (Peer.log .spuriousClose).make
    shutDown s p
  else
    shutDown s p

/-- Closes a reference to a device. -/
def closeDevice (s : SessionId) : Action σ (Except DeviceError Unit) := do
  let p ← (Atom.profile s).act
  Semaphore.withPermit (.guard s) p.platform (closeHolding s p)

end Session

end LedDriver
