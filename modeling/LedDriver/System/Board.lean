import LedDriver.Program
import LedDriver.System.World

/-!
# Boards

A `Board` is what the driver is built into: its lower halves, its platforms, its journal and its
registries.  Each of them reacts to a call with a program of its own.  Such a `Reaction` can keep a
state and can use every service of the driver, but it has no other access to the driver's memory.

The driver itself is made of programs in `Request`, which act on the world by atoms and make calls
of every kind.
-/

namespace LedDriver

/-- What a step of the driver can do: act on the world, or make a call. -/
inductive Request (σ : Type) where
  | atom (a : Atom σ)
  | call (c : Call)

/-- The interface of the driver's own programs. -/
@[reducible]
def Request.interface (σ : Type) : Interface where
  Question := Request σ
  Answer
    | .atom a => a.Answer
    | .call c => c.Answer

/-- A program of the driver. -/
abbrev Action (σ : Type) (α : Type) := Program (Request.interface σ) α

/-- What the surroundings of the driver can do: change their own state, or use a service. -/
inductive Use (σ : Type) where
  | own (f : σ → σ)
  | service (c : Service)

/-- The interface of the surroundings. -/
@[reducible]
def Use.interface (σ : Type) : Interface where
  Question := Use σ
  Answer
    | .own _ => σ
    | .service c => c.Answer

/-- A program of a client, a lower half, a platform, the journal or a registry. -/
abbrev Reaction (σ : Type) (α : Type) := Program (Use.interface σ) α

variable {σ : Type}

/-- An atom as a program. -/
def Atom.act (a : Atom σ) : Action σ a.Answer := .ask (.atom a) .done

/-- A call as a program. -/
def Call.make (c : Call) : Action σ c.Answer := .ask (.call c) .done

/-- A call that leaves the driver, as a program. -/
def Peer.make (c : Peer) : Action σ c.Answer := (Call.peer c).make

/-- A call of an inner procedure, as a program. -/
def Routine.make (c : Routine) : Action σ c.Answer := (Call.routine c).make

/-- The use of a service, as a program of the surroundings. -/
def Service.use (c : Service) : Reaction σ c.Answer := .ask (.service c) .done

/-- A change of the surroundings' own state, which answers the state before. -/
def Reaction.own (f : σ → σ) : Reaction σ σ := .ask (.own f) .done

/-- What the surroundings do is done with the means of the driver. -/
def Use.act : (u : Use σ) → Action σ ((Use.interface σ).Answer u)
  | .own f => (Atom.own f).act
  | .service c => (Call.service c).make

/-- A program of the surroundings as a program of the driver. -/
def Reaction.action {α : Type} (r : Reaction σ α) : Action σ α := r.substitute Use.act

/-- The half of a driver that owns the hardware. -/
structure LowerHalf (σ : Type) where
  provided : Reaction σ OpSet
  /-- Carries out an operation for a session. -/
  operate : SessionId → (o : Operation) → o.Args → Reaction σ o.Answer
  /-- What happens when the lower half is no longer used. -/
  discard : Reaction σ Unit

/-- What the system around the driver provides for waiting and for masking interrupts. -/
structure Platform (σ : Type) where
  /-- Masks the interrupts and answers the state before. -/
  enter : Reaction σ UInt64
  /-- Restores a state of the interrupts. -/
  leave : UInt64 → Reaction σ Unit
  /-- Says whether a blocked party may go on waiting. -/
  checkWait : Reaction σ (Except DeviceError Unit)
  /-- Lets others run. -/
  relax : Reaction σ Unit

/-- Everything that the driver is built into. -/
structure Board (σ : Type) where
  lower : LowerId → LowerHalf σ
  platform : PlatformId → Platform σ
  log : Notice → Reaction σ Unit
  publish : RegistryId → String → SessionId → FileMode → Reaction σ (Except DeviceError Unit)

/-- The reaction of a board to a call that leaves the driver. -/
def Board.reaction (B : Board σ) : (c : Peer) → Reaction σ c.Answer
  | .operate _ h s o args => (B.lower h).operate s o args
  | .provided h => (B.lower h).provided
  | .discard h => (B.lower h).discard
  | .enter p => (B.platform p).enter
  | .leave p saved => (B.platform p).leave saved
  | .checkWait p => (B.platform p).checkWait
  | .relax p => (B.platform p).relax
  | .log n => B.log n
  | .publish r path s mode => B.publish r path s mode

end LedDriver
