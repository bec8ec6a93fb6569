import LedDriver.System.Board

/-!
# Scripts for a test bench

A test bench drives registered devices step by step and observes them.  A `Step` is registering a
scripted device, looking at the device table, doing something to a device, or leaving instructions
for a device's next operation: a failure, or a hook, which is a list of steps to carry out in the
middle of that operation.

`Memory` is what the bench remembers: the scripts of its devices and the trace of what they did.
-/

namespace LedDriver.Bench

/-- How a scripted lower half is made. -/
inductive Shape where
  /-- From a table that lacks some operations. -/
  | table (omitted : List Operation)
  /-- Directly, with all operations. -/
  | direct
  /-- Directly, with all operations but claiming to provide a given set. -/
  | claiming (provided : OpSet)

/-- Peculiarities of a scripted device. -/
structure Habits where
  /-- Limits are stored unlocked, whatever is asked. -/
  ignoresLimitsLock : Bool
  /-- Raising and clearing faults changes the coarse state. -/
  tracksFaults : Bool
  /-- The platform has no relaxing of its own. -/
  neverRelaxes : Bool

/-- A scripted device as it is offered for registration. -/
structure Offer where
  path : String
  shape : Shape
  /-- The lower half is behind a shared handle. -/
  shared : Bool
  config : Config
  /-- The error of a registry that refuses the device; without one the device table is the
  registry. -/
  rejection : Option DeviceError
  /-- The interrupt state of the platform. -/
  irq : UInt64
  habits : Habits

/-- Something done to a device. -/
inductive Deed where
  | openDevice
  | closeDevice
  | permissions
  | config
  | describe
  | read (buffer : List UInt8)
  | write (contents : List UInt8)
  | command (c : Command)
  | operate (o : Operation) (args : o.Args)
  | provided
  | control (m : ControlMethod)
  /-- Let an operation fail. -/
  | fail (o : Operation) (e : DeviceError)
  /-- Change what the command operation answers and fills buffers with. -/
  | reply (r : Except DeviceError UInt64) (fill : UInt8)
  /-- Add answers to the question whether to go on waiting. -/
  | waits (script : List (Except DeviceError Unit))

/-- A step of a test. -/
inductive Step where
  | register (offer : Offer)
  | table (path : String)
  | deed (path : String) (d : Deed)
  /-- Let a device carry out steps in the middle of an operation. -/
  | hook (path : String) (o : Operation) (steps : List Step)

/-- What a deed answers. -/
inductive Reply where
  | result (r : Except DeviceError Unit)
  | permissions (mode : FileMode)
  | config (c : Config)
  | description (text : String)
  | read (r : Except DeviceError UInt64) (buffer : List UInt8)
  | written (r : Except DeviceError UInt64)
  | command (a : CommandAnswer)
  | operated (o : Operation) (answer : o.Answer)
  | provided (set : OpSet)
  | control (m : ControlMethod) (answer : m.Answer)
  /-- An instruction was noted. -/
  | noted

/-- What the bench sees of a device after a step. -/
structure Status where
  openCount : UInt8
  irq : UInt64
  control : ControlBlock

/-- What a step answers. -/
inductive Answer where
  | registered (device : Nat) (r : Registration)
  | table (paths : List String) (size : Nat) (isEmpty : Bool) (mode : Option FileMode)
    (found : Bool)
  /-- There is no device at the path. -/
  | absent
  | done (reply : Reply) (status : Status)

/-- An entry of the trace. -/
inductive Entry where
  | text (line : String)
  /-- The answer of a step carried out inside an operation. -/
  | nested (answer : Answer)

/-- The script of one device, with what is left of its instructions. -/
structure Script where
  offer : Offer
  irq : UInt64
  hooks : List (Operation × List Step)
  failures : List (Operation × DeviceError)
  reply : Except DeviceError UInt64
  fill : UInt8
  waits : List (Except DeviceError Unit)

/-- The script of a device that was just offered. -/
def Script.ofOffer (offer : Offer) : Script where
  offer := offer
  irq := offer.irq
  hooks := []
  failures := []
  reply := .ok 0
  fill := 165
  waits := []

instance : Inhabited Script where
  default := Script.ofOffer ⟨"", .direct, false, Config.default, none, 0, ⟨false, false, false⟩⟩

/-- What the bench remembers. -/
structure Memory where
  /-- The scripts of the devices in the order in which they were offered. -/
  scripts : List Script
  /-- Which device each session belongs to. -/
  owners : List (SessionId × Nat)
  /-- What the devices did, the newest first. -/
  trace : List Entry

/-- The bench before the first step. -/
def Memory.initial : Memory := ⟨[], [], []⟩

/-- A program of the bench. -/
abbrev Act (α : Type) := Reaction Memory α

namespace Act

/-- Looks at what the bench remembers. -/
def look : Act Memory := Reaction.own id

/-- Changes what the bench remembers. -/
def change (f : Memory → Memory) : Act Unit := do
  let _ ← Reaction.own f
  pure ()

/-- Adds an entry to the trace. -/
def trace (e : Entry) : Act Unit := change fun b => { b with trace := e :: b.trace }

/-- Adds a line about a device to the trace. -/
def say (device : Nat) (words : List String) : Act Unit :=
  trace (.text (" ".intercalate (("#" ++ toString device) :: words)))

/-- The script of a device. -/
def script (device : Nat) : Act Script := do
  let b ← look
  pure (b.scripts.getD device default)

/-- Changes the script of a device. -/
def revise (device : Nat) (f : Script → Script) : Act Unit :=
  change fun b => { b with scripts := b.scripts.modify device f }

end Act

/-- The first entry with a key, and the list without it. -/
def takeFirst {κ α : Type} [DecidableEq κ] (k : κ) : List (κ × α) → Option (α × List (κ × α))
  | [] => none
  | (j, a) :: rest =>
    if j = k then some (a, rest)
    else (takeFirst k rest).map fun r => (r.1, (j, a) :: r.2)

/-- Takes the oldest hook on an operation out of a device's script. -/
def takeHook (device : Nat) (o : Operation) : Act (List Step) := do
  let s ← Act.script device
  match takeFirst o s.hooks with
  | some (steps, rest) => do
    Act.revise device fun s => { s with hooks := rest }
    pure steps
  | none => pure []

/-- Takes the oldest failure of an operation out of a device's script. -/
def takeFailure (device : Nat) (o : Operation) : Act (Option DeviceError) := do
  let s ← Act.script device
  match takeFirst o s.failures with
  | some (e, rest) => do
    Act.revise device fun s => { s with failures := rest }
    pure (some e)
  | none => pure none

mutual

/-- A bound on the number of calls that a step can nest by itself. -/
def Step.weight : Step → Nat
  | .deed _ (.waits script) => 1 + script.length
  | .hook _ _ steps => 1 + Step.weights steps
  | _ => 1

/-- The weights of some steps together. -/
def Step.weights : List Step → Nat
  | [] => 0
  | s :: rest => s.weight + Step.weights rest

end

end LedDriver.Bench
