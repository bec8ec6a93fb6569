import LedDriver.Config
import LedDriver.ControlBlock.Method
import LedDriver.DeviceTable
import LedDriver.Journal
import LedDriver.ReferenceCount
import LedDriver.SpinLock

/-!
# Single parts on a test bench

Step-by-step runs of the parts of the driver that need no surroundings: a control block, a
configuration, an open count, a spin lock, a device table and the lines of the journal.
-/

namespace LedDriver.Bench

/-! ## Control blocks -/

/-- The answer of a method and the control block after it. -/
structure ControlObservation where
  method : ControlMethod
  answer : method.Answer
  block : ControlBlock

/-- Applies methods to a control block one after another. -/
def controlRun : ControlBlock → List ControlMethod → List ControlObservation
  | _, [] => []
  | b, m :: rest => ⟨m, (m.apply b).1, (m.apply b).2⟩ :: controlRun (m.apply b).2 rest

/-! ## Configurations -/

/-- A choice made for a configuration. -/
inductive ConfigChoice where
  | maxOpens (max : UInt8)
  | setupFailure (policy : SetupPolicy)

/-- Makes one choice. -/
def ConfigChoice.apply (c : Config) : ConfigChoice → Config
  | maxOpens max => { c with maxOpens := max }
  | setupFailure policy => { c with setupFailure := policy }

/-- The configurations after each choice, the first before any. -/
def configRun : Config → List ConfigChoice → List Config
  | c, [] => [c]
  | c, x :: rest => c :: configRun (x.apply c) rest

/-! ## Open counts -/

/-- A step with an open count. -/
inductive CountStep where
  | raised
  /-- Compute the count after one more open and store it. -/
  | raise
  | store (value : UInt8)
  /-- Compute the count after one close and store it. -/
  | lower

/-- What a step answers: an error, a count, or nothing. -/
inductive CountReply where
  | count (r : Except DeviceError UInt8)
  | stored

/-- Carries out a step. -/
def CountStep.apply (c : ReferenceCount) : CountStep → CountReply × ReferenceCount
  | raised => (.count c.raised, c)
  | raise =>
    match c.raised with
    | .ok n => (.count (.ok n), c.store n)
    | .error e => (.count (.error e), c)
  | store value => (.stored, c.store value)
  | lower => (.count (.ok c.lowered), c.store c.lowered)

/-- The answers of steps with the count after each. -/
def countRun : ReferenceCount → List CountStep → List (CountReply × ReferenceCount)
  | _, [] => []
  | c, x :: rest => x.apply c :: countRun (x.apply c).2 rest

/-! ## Spin locks -/

/-- A step with a spin lock around a number. -/
inductive LockStep where
  | lock
  | tryLock
  /-- Store a number, taking the lock for the time being unless it is held. -/
  | store (value : Int)
  | unlock
  /-- Store a number while another party waits for the lock to add one. -/
  | contend (value : Int)

/-- What a step answers: a number, nothing because the lock is held, or whether the lock was
held. -/
inductive LockReply where
  | value (n : Int)
  | refused
  | unlocked (held : Bool)

/-- Carries out a step. -/
def LockStep.apply (l : SpinLock Int) : LockStep → LockReply × SpinLock Int
  | lock => (.value l.value, { l with held := true })
  | tryLock =>
    match l.acquire? with
    | some l => (.value l.value, l)
    | none => (.refused, l)
  | store n => (.value n, l.store n)
  | unlock => (.unlocked l.held, l.release)
  | contend n => (.value (n + 1), (l.store (n + 1)).release)

/-- The answers of steps, and the number behind the lock at the end. -/
def lockRun : SpinLock Int → List LockStep → List LockReply × Int
  | l, [] => ([], l.value)
  | l, x :: rest =>
    let r := lockRun (x.apply l).2 rest
    ((x.apply l).1 :: r.1, r.2)

/-! ## Device tables -/

/-- A step with a device table whose nodes are error numbers, with which they refuse to be
opened. -/
inductive TableStep where
  | publish (path : String) (node : Int32) (mode : FileMode)
  | lookup (path : String)

/-- What a step answers. -/
inductive TableReply where
  | published (r : Except DeviceError Unit)
  | found (node : Option (Int32 × FileMode)) (mode : Option FileMode)

/-- The answer of a step, what is in the table after it, and the node it dropped. -/
structure TableObservation where
  reply : TableReply
  mode : Option FileMode
  paths : List String
  size : Nat
  isEmpty : Bool
  dropped : Option Int32

/-- The path of a step. -/
def TableStep.path : TableStep → String
  | publish path _ _ | lookup path => path

/-- Carries out a step.  A node carries the permissions that it asks to be published with. -/
def TableStep.apply (t : DeviceTable (Int32 × FileMode)) :
    TableStep → (TableReply × Option Int32) × DeviceTable (Int32 × FileMode)
  | publish path node mode =>
    match t.publish ⟨path, (node, mode), mode⟩ with
    | (.ok (), t) => ((.published (.ok ()), none), t)
    | (.error e, t) => ((.published (.error e), some node), t)
  | lookup path => ((.found (t.lookup path) (t.mode path), none), t)

/-- The observations of steps on a table. -/
def tableRun : DeviceTable (Int32 × FileMode) → List TableStep → List TableObservation
  | _, [] => []
  | t, x :: rest =>
    let r := x.apply t
    ⟨r.1.1, r.2.mode x.path, r.2.paths, r.2.size, r.2.isEmpty, r.1.2⟩ :: tableRun r.2 rest

/-! ## Lines of the journal -/

/-- The lines written when a text is logged at one severity and then, by the shorthand that every
severity but the gravest has, at another. -/
def logRun (first second : Severity) (text : String) : List Line :=
  Line.ofMessage first text ::
    if second = .fatal then [] else [Line.ofMessage second text]

end LedDriver.Bench
