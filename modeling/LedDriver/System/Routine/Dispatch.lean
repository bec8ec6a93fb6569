import LedDriver.System.Routine.Exclusion

/-!
# Dispatch of commands

A command is first held against the policy.  A refused command is written down and goes no further.
An admitted one is passed to the lower half as it is, with no lock held; a failure is written down
and reported as it is.
-/

namespace LedDriver

variable {σ : Type}

namespace Session

/-- Uses the control block of a device, under its lock. -/
def control (s : SessionId) (m : ControlMethod) : Action σ m.Answer :=
  locked (.control s) (.control s m)

/-- Holds a command against the policy, reading no more of the control block than the policy
needs. -/
def admission (s : SessionId) : Command → Action σ (Option Refusal)
  | .start => do
    let block ← control s .snapshot
    pure block.startRefusal?
  | .setLimits _ => do
    let limits ← control s .limits
    pure limits.changeRefusal?
  | .setParams p => do
    let params ← control s .params
    pure (params.changeRefusal? p)
  | .passthrough n _ => pure (Command.numberRefusal? n)
  | _ => pure none

/-- A command of the lower half's own is announced before it is passed on. -/
def announce : Command → Action σ Unit
  | .passthrough n arg => (Peer.log (.forwarding n arg)).make
  | _ => pure ()

/-- Calls the operation of a lower half that carries out a command, and answers the client.  A
command with a number of its own answers zero when it succeeds; a command of the driver's own
answers what the operation answered. -/
def dispatch (h : LowerId) (s : SessionId) : Command → Action σ CommandAnswer
  | .start => do
    let r ← (Peer.operate .driver h s .start ()).make
    pure ⟨r.map fun _ => 0, .start⟩
  | .stop => do
    let r ← (Peer.operate .driver h s .stop ()).make
    pure ⟨r.map fun _ => 0, .stop⟩
  | .setMode m => do
    let r ← (Peer.operate .driver h s .modeSet m).make
    pure ⟨r.map fun _ => 0, .setMode m⟩
  | .setLimits l => do
    let r ← (Peer.operate .driver h s .limitsSet l).make
    pure ⟨r.map fun _ => 0, .setLimits l⟩
  | .getState held => do
    let (r, held) ← (Peer.operate .driver h s .stateGet held).make
    pure ⟨r.map fun _ => 0, .getState held⟩
  | .setFault f => do
    let r ← (Peer.operate .driver h s .faultSet f).make
    pure ⟨r.map fun _ => 0, .setFault f⟩
  | .getFault held => do
    let (r, held) ← (Peer.operate .driver h s .faultGet held).make
    pure ⟨r.map fun _ => 0, .getFault held⟩
  | .cleanFault f => do
    let r ← (Peer.operate .driver h s .faultClean f).make
    pure ⟨r.map fun _ => 0, .cleanFault f⟩
  | .setParams p => do
    let r ← (Peer.operate .driver h s .paramsSet p).make
    pure ⟨r.map fun _ => 0, .setParams p⟩
  | .passthrough n arg => do
    let (r, arg) ← (Peer.operate .driver h s .ioctl (n, arg)).make
    pure ⟨r, .passthrough n arg⟩

/-- Passes an admitted command to the lower half. -/
def forward (s : SessionId) (c : Command) : Action σ CommandAnswer := do
  announce c
  let p ← (Atom.profile s).act
  let outcome ← dispatch p.lower s c
  match outcome.result with
  | .ok _ => pure outcome
  | .error e => do
    (Peer.log (c.failureNotice e)).make
    pure outcome

/-- Carries out a command. -/
def command (s : SessionId) (c : Command) : Action σ CommandAnswer := do
  match ← admission s c with
  | some r => do
    (Peer.log (.refused r)).make
    pure (c.rejected r.error)
  | none => forward s c

end Session

end LedDriver
