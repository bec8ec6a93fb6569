import LedDriver.ControlBlock.Basic
import LedDriver.DeviceError

/-!
# Operations of a lower half

The twelve operations of the half of a driver that owns the hardware: what each is given and what it
answers.  An operation that fills a buffer of the caller is given the buffer's contents and answers
the contents it leaves.
-/

namespace LedDriver

/-- An operation of a lower half. -/
inductive Operation where
  /-- Prepare the hardware, on the first open. -/
  | setup
  /-- Put the hardware to rest, on the last close. -/
  | shutdown
  /-- Turn the output on. -/
  | start
  /-- Turn the output off. -/
  | stop
  /-- Change the operating mode. -/
  | modeSet
  /-- Apply limits. -/
  | limitsSet
  /-- Apply output parameters. -/
  | paramsSet
  /-- Raise faults. -/
  | faultSet
  /-- Read the active faults. -/
  | faultGet
  /-- Clear faults. -/
  | faultClean
  /-- Read the coarse state. -/
  | stateGet
  /-- Carry out a command of the driver's own. -/
  | ioctl
deriving DecidableEq

/-- The argument of a command of the driver's own. -/
inductive CommandArg where
  | none
  /-- A machine word. -/
  | value (word : UInt64)
  /-- Bytes to read from. -/
  | bytes (contents : List UInt8)
  /-- A buffer to write to. -/
  | buffer (contents : List UInt8)
deriving DecidableEq

namespace Operation

/-- The operations in the order of their flags. -/
def listed : List Operation :=
  [setup, shutdown, start, stop, modeSet, limitsSet, paramsSet, faultSet, faultGet, faultClean,
    stateGet, ioctl]

/-- What an operation is given. -/
@[reducible]
def Args : Operation → Type
  | setup | shutdown | start | stop => Unit
  | modeSet => OpMode
  | limitsSet => Limits
  | paramsSet => Params
  | faultSet | faultGet | faultClean => FaultFlags
  | stateGet => State
  | ioctl => UInt32 × CommandArg

/-- What an operation answers: whether it succeeded, and the caller's buffer if it has one. -/
@[reducible]
def Answer : Operation → Type
  | faultGet => Except DeviceError Unit × FaultFlags
  | stateGet => Except DeviceError Unit × State
  | ioctl => Except DeviceError UInt64 × CommandArg
  | _ => Except DeviceError Unit

/-- The answer of an operation that fails before it does anything. -/
def failed (e : DeviceError) : (o : Operation) → o.Args → o.Answer
  | faultGet, held | stateGet, held => (.error e, held)
  | ioctl, (_, arg) => (.error e, arg)
  | setup, _ | shutdown, _ | start, _ | stop, _ | modeSet, _ | limitsSet, _ | paramsSet, _
  | faultSet, _ | faultClean, _ => .error e

/-- The error that an answer reports. -/
def error? : (o : Operation) → o.Answer → Option DeviceError
  | faultGet, (.error e, _) | stateGet, (.error e, _) | ioctl, (.error e, _) => some e
  | faultGet, (.ok _, _) | stateGet, (.ok _, _) | ioctl, (.ok _, _) => none
  | setup, .error e | shutdown, .error e | start, .error e | stop, .error e | modeSet, .error e
  | limitsSet, .error e | paramsSet, .error e | faultSet, .error e | faultClean, .error e => some e
  | setup, .ok _ | shutdown, .ok _ | start, .ok _ | stop, .ok _ | modeSet, .ok _
  | limitsSet, .ok _ | paramsSet, .ok _ | faultSet, .ok _ | faultClean, .ok _ => none

/-- An operation that failed before it did anything reports its error. -/
@[simp] theorem error?_failed (e : DeviceError) (o : Operation) (args : o.Args) :
    o.error? (o.failed e args) = some e := by
  cases o <;> rfl

end Operation

/-- The flags of the twelve operations. -/
def OpSet.vocabulary : Vocabulary where
  name := "OpSet"
  width := 16
  named :=
    [("SETUP", 0x1), ("SHUTDOWN", 0x2), ("START", 0x4), ("STOP", 0x8), ("MODE_SET", 0x10),
      ("LIMITS_SET", 0x20), ("PARAMS_SET", 0x40), ("FAULT_SET", 0x80), ("FAULT_GET", 0x100),
      ("FAULT_CLEAN", 0x200), ("STATE_GET", 0x400), ("IOCTL", 0x800)]

/-- A set of operations. -/
abbrev OpSet := Flags OpSet.vocabulary

/-- The place of an operation among the flags. -/
def Operation.index : Operation → Nat
  | setup => 0
  | shutdown => 1
  | start => 2
  | stop => 3
  | modeSet => 4
  | limitsSet => 5
  | paramsSet => 6
  | faultSet => 7
  | faultGet => 8
  | faultClean => 9
  | stateGet => 10
  | ioctl => 11

/-- The set of one operation. -/
def Operation.flag (o : Operation) : OpSet := ⟨BitVec.twoPow 16 o.index⟩

/-- The set of the operations with a property. -/
def OpSet.filter (p : Operation → Bool) : OpSet :=
  (Operation.listed.filter p).foldl (fun set o => set.union o.flag) Flags.empty

/-- The operations that a set lacks. -/
def OpSet.missing (provided : OpSet) : OpSet := Flags.all.difference provided

end LedDriver
