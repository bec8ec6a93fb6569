import LedDriver.Proofs.System.Trees

/-!
# Sights

What can be seen of a run apart from the numbers by which sessions, lower halves and platforms are
known.  A `Sight` is the beginning of a call or its end with the answer, and all these numbers are
replaced by zero (`Call.begun`, `Call.ended`).  The sights of the calls of a run stand in the order
of time and tell how the calls are nested (`CallTree.sights`).  Two runs with the same sights can
differ in nothing but these numbers and the atoms.
-/

namespace LedDriver

variable {σ : Type}

/-- The beginning of a call, or its end with the answer. -/
inductive Sight where
  | begun (c : Call)
  | ended (c : Call) (answer : c.Answer)

/-- The semaphore without the number of its session. -/
def SemaphoreId.unnumbered : SemaphoreId → SemaphoreId
  | guard _ => guard 0
  | alone i => alone i

/-- The way to use the device table without the number of a session. -/
def TableMethod.unnumbered : TableMethod SessionId → TableMethod SessionId
  | lookup path => lookup path
  | mode path => mode path
  | paths => paths
  | size => size
  | isEmpty => isEmpty
  | insert e => insert { e with node := 0 }

/-- The answer without the number of a session. -/
def TableMethod.unnumberedAnswer : (m : TableMethod SessionId) → m.Answer → m.unnumbered.Answer
  | lookup _, x => x.map fun _ => 0
  | mode _, x | paths, x | size, x | isEmpty, x | insert _, x => x

/-- The outcome without the number of a session. -/
def Registration.unnumbered : Registration → Registration
  | registered _ => registered 0
  | refused e => refused e
  | fault cause => fault cause

/-- The service without the numbers of sessions, lower halves and platforms. -/
def Service.unnumbered : Service → Service
  | openDevice _ => openDevice 0
  | closeDevice _ => closeDevice 0
  | command _ c => command 0 c
  | control _ m => control 0 m
  | operate _ o args => operate 0 o args
  | provided _ => provided 0
  | openCount _ => openCount 0
  | config _ => config 0
  | register r => register { r with lower := 0, platform := 0 }
  | table m => table m.unnumbered
  | tryWait i => tryWait i
  | wait i _ => wait i 0
  | post i => post i

/-- The answer without the numbers of sessions. -/
def Service.unnumberedAnswer : (c : Service) → c.Answer → c.unnumbered.Answer
  | register _, x => x.unnumbered
  | table m, x => m.unnumberedAnswer x
  | openDevice _, x | closeDevice _, x | command _ _, x | control _ _, x | operate _ _ _, x
  | provided _, x | openCount _, x | config _, x | tryWait _, x | wait _ _, x | post _, x => x

/-- The inner procedure without the numbers of sessions and platforms. -/
def Routine.unnumbered : Routine → Routine
  | tryWait g => tryWait g.unnumbered
  | claim g seen => claim g.unnumbered seen
  | wait g _ => wait g.unnumbered 0

/-- The answer as it is. -/
def Routine.unnumberedAnswer : (c : Routine) → c.Answer → c.unnumbered.Answer
  | tryWait _, x | claim _ _, x | wait _ _, x => x

/-- The call without the numbers of sessions, lower halves and platforms. -/
def Peer.unnumbered : Peer → Peer
  | operate k _ _ o args => operate k 0 0 o args
  | provided _ => provided 0
  | discard _ => discard 0
  | enter _ => enter 0
  | leave _ saved => leave 0 saved
  | checkWait _ => checkWait 0
  | relax _ => relax 0
  | log n => log n
  | publish r path _ mode => publish r path 0 mode

/-- The answer as it is. -/
def Peer.unnumberedAnswer : (c : Peer) → c.Answer → c.unnumbered.Answer
  | operate _ _ _ _ _, x | provided _, x | discard _, x | enter _, x | leave _ _, x | checkWait _, x
  | relax _, x | log _, x | publish _ _ _ _, x => x

namespace Call

/-- What is seen when a call begins. -/
def begun : Call → Sight
  | service c => .begun (.service c.unnumbered)
  | routine c => .begun (.routine c.unnumbered)
  | peer c => .begun (.peer c.unnumbered)

/-- What is seen when a call ends. -/
def ended : (c : Call) → c.Answer → Sight
  | service c, x => .ended (.service c.unnumbered) (c.unnumberedAnswer x)
  | routine c, x => .ended (.routine c.unnumbered) (c.unnumberedAnswer x)
  | peer c, x => .ended (.peer c.unnumbered) (c.unnumberedAnswer x)

end Call

namespace CallTree

/-- What is seen of a call: its beginning, the calls inside it, and its end. -/
def sights : CallTree σ → List Sight
  | node c _ x _ ts => c.begun :: (ts.flatMap fun t => t.sights) ++ [c.ended x]

end CallTree

end LedDriver
