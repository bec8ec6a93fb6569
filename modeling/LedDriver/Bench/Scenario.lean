import LedDriver.Bench.Script
import LedDriver.Command.Text
import LedDriver.DataPath
import LedDriver.LowerHalf.Table
import LedDriver.System.Execution
import LedDriver.System.Text

/-!
# Scenarios on a test bench

The programs of the steps of a test, the reactions of the scripted devices, and the run of a whole
scenario.  A step carried out in the middle of an operation leaves its answer in the trace of the
step around it.
-/

namespace LedDriver.Bench

/-! ## Steps -/

/-- Looks a device up by its path. -/
def session? (path : String) : Act (Option SessionId) :=
  (Service.table (.lookup path)).use

/-- The number of the device that a session belongs to. -/
def owner (s : SessionId) : Act Nat := do
  let b ← Act.look
  pure ((b.owners.lookup s).getD 0)

/-- Does something to a device. -/
def Deed.act (s : SessionId) : Deed → Act Reply
  | openDevice => do
    let r ← (Service.openDevice s).use
    pure (.result r)
  | closeDevice => do
    let r ← (Service.closeDevice s).use
    pure (.result r)
  | permissions => pure (.permissions FileMode.readAll)
  | config => do
    let c ← (Service.config s).use
    pure (.config c)
  | describe => do
    let count ← (Service.openCount s).use
    let block ← (Service.control s .snapshot).use
    let c ← (Service.config s).use
    pure (.description (sessionText count block c))
  | read buffer =>
    let r := DataPath.read buffer
    pure (.read r.1 r.2)
  | write contents => pure (.written (DataPath.write contents))
  | command c => do
    let a ← (Service.command s c).use
    pure (.command a)
  | operate o args => do
    let a ← (Service.operate s o args).use
    pure (.operated o a)
  | provided => do
    let set ← (Service.provided s).use
    pure (.provided set)
  | control m => do
    let a ← (Service.control s m).use
    pure (.control m a)
  | fail o e => do
    Act.revise (← owner s) fun x => { x with failures := x.failures ++ [(o, e)] }
    pure .noted
  | reply r fill => do
    Act.revise (← owner s) fun x => { x with reply := r, fill }
    pure .noted
  | waits script => do
    Act.revise (← owner s) fun x => { x with waits := x.waits ++ script }
    pure .noted

/-- What the bench sees of a device. -/
def status (s : SessionId) : Act Status := do
  let count ← (Service.openCount s).use
  let x ← Act.script (← owner s)
  let block ← (Service.control s .snapshot).use
  pure ⟨count, x.irq, block⟩

/-- Does something to the device at a path, if there is one. -/
def onDevice (path : String) (f : SessionId → Act Reply) : Act Answer := do
  match ← session? path with
  | none => pure .absent
  | some s => do
    let reply ← f s
    let seen ← status s
    pure (.done reply seen)

/-- Registers a scripted device. -/
def register (offer : Offer) : Act Answer := do
  let b ← Act.look
  let device := b.scripts.length
  Act.change fun b => { b with scripts := b.scripts ++ [Script.ofOffer offer] }
  let r ← (Service.register ⟨offer.path, device, device, offer.config,
    offer.rejection.map fun _ => device⟩).use
  match r with
  | .registered s => Act.change fun b => { b with owners := (s, device) :: b.owners }
  | _ => pure ()
  pure (.registered device r)

/-- Carries out a step. -/
def Step.act : Step → Act Answer
  | register offer => Bench.register offer
  | table path => do
    let paths ← (Service.table .paths).use
    let size ← (Service.table .size).use
    let isEmpty ← (Service.table .isEmpty).use
    let mode ← (Service.table (.mode path)).use
    let found ← session? path
    pure (.table paths size isEmpty mode found.isSome)
  | deed path d => onDevice path d.act
  | hook path o steps => onDevice path fun s => do
    Act.revise (← owner s) fun x => { x with hooks := x.hooks ++ [(o, steps)] }
    pure .noted

/-- Carries out steps in the middle of an operation. -/
def nested : List Step → Act Unit
  | [] => pure ()
  | step :: rest => do
    let answer ← step.act
    Act.trace (.nested answer)
    nested rest

/-! ## Scripted devices -/

/-- A number in the trace is its bit pattern, unless it is NaN. -/
def numberWord (x : Binary32) : String := if x.isNaN then "nan" else toString x.bits.toNat

/-- An argument in the trace is its kind and its contents. -/
def argWords : CommandArg → List String
  | .none => ["none"]
  | .value word => ["value", toString word.toNat]
  | .bytes contents => ["bytes", bytesText contents]
  | .buffer contents => ["bytes_mut", bytesText contents]

/-- The name of an operation in the trace. -/
def operationWord : Operation → String
  | .setup => "setup"
  | .shutdown => "shutdown"
  | .start => "start"
  | .stop => "stop"
  | .modeSet => "mode_set"
  | .limitsSet => "limits_set"
  | .paramsSet => "params_set"
  | .faultSet => "fault_set"
  | .faultGet => "fault_get"
  | .faultClean => "fault_clean"
  | .stateGet => "state_get"
  | .ioctl => "ioctl"

/-- What an operation is given, in the trace.  Buffers to be filled with facts about the device are
not shown. -/
def argsWords : (o : Operation) → o.Args → List String
  | .modeSet, m => [toString m.raw.toNat]
  | .limitsSet, l => [numberWord l.current, Text.truth l.lock]
  | .paramsSet, p =>
    [numberWord p.brightness, numberWord p.frequency, numberWord p.duty, Text.truth p.lock]
  | .faultSet, f | .faultClean, f => [toString f.bits.toNat]
  | .ioctl, (n, arg) => toString n.toNat :: argWords arg
  | .setup, _ | .shutdown, _ | .start, _ | .stop, _ | .faultGet, _ | .stateGet, _ => []

/-- Uses the control block of the session that an operation is carried out for. -/
def control (s : SessionId) (m : ControlMethod) : Act m.Answer := (Service.control s m).use

/-- What a scripted operation does to the control block and to the caller's buffer. -/
def effect (device : Nat) (s : SessionId) : (o : Operation) → o.Args → Act o.Answer
  | .setup, _ => do
    control s (.setState .idle)
    pure (.ok ())
  | .shutdown, _ => do
    control s (.setState .init)
    pure (.ok ())
  | .start, _ => do
    control s (.setState .run)
    pure (.ok ())
  | .stop, _ => do
    control s (.setState .idle)
    pure (.ok ())
  | .modeSet, m => do
    control s (.setMode m)
    pure (.ok ())
  | .limitsSet, l => do
    let x ← Act.script device
    control s (.storeLimits { l with lock := l.lock && !x.offer.habits.ignoresLimitsLock })
  | .paramsSet, p => control s (.storeParams p)
  | .faultSet, f => do
    control s (.raiseFault f)
    let x ← Act.script device
    if x.offer.habits.tracksFaults then control s (.setState .fault)
    pure (.ok ())
  | .faultGet, _ => do
    let f ← control s .faults
    pure (.ok (), f)
  | .faultClean, f => do
    control s (.clearFault f)
    let x ← Act.script device
    if x.offer.habits.tracksFaults then
      let left ← control s .faults
      if left.isEmpty then control s (.setState .idle)
    pure (.ok ())
  | .stateGet, _ => do
    let x ← control s .state
    pure (.ok (), x)
  | .ioctl, (_, arg) => do
    let x ← Act.script device
    let arg := match arg with
      | .buffer contents => .buffer (contents.map fun _ => x.fill)
      | arg => arg
    pure (x.reply, arg)

/-- A scripted operation: it is traced, then a hook on it is carried out, then it fails if it is to
fail, and otherwise has its effect. -/
def operate (device : Nat) (s : SessionId) (o : Operation) (args : o.Args) : Act o.Answer := do
  Act.say device (operationWord o :: argsWords o args)
  nested (← takeHook device o)
  match ← takeFailure device o with
  | some e => pure (o.failed e args)
  | none => effect device s o args

/-- The scripted lower half with all operations. -/
def fullHalf (device : Nat) : LowerHalf Memory where
  provided := pure Flags.all
  operate := operate device
  discard := Act.say device ["drop"]

/-- The scripted lower half of the shape that was offered. -/
def Offer.half (offer : Offer) (device : Nat) : LowerHalf Memory :=
  let full := fullHalf device
  let half := match offer.shape with
    | .direct => full
    | .claiming set => { full with provided := pure set }
    | .table omitted =>
      LowerHalf.ofTable
        (fun o => if o ∈ omitted then none else some fun s args => full.operate s o args)
        full.discard
  if offer.shared then half.shared else half

/-- The lower half of a device, which is the one of its script. -/
def lowerHalf (device : Nat) : LowerHalf Memory where
  provided := do
    let x ← Act.script device
    (x.offer.half device).provided
  operate s o args := do
    let x ← Act.script device
    (x.offer.half device).operate s o args
  discard := do
    let x ← Act.script device
    (x.offer.half device).discard

/-- The platform of a device.  Masking the interrupts counts their state up by one. -/
def platform (device : Nat) : Platform Memory where
  enter := do
    let x ← Act.script device
    Act.say device ["enter", toString x.irq.toNat]
    Act.revise device fun x => { x with irq := x.irq + 1 }
    pure x.irq
  leave saved := do
    Act.say device ["leave", toString saved.toNat]
    Act.revise device fun x => { x with irq := saved }
  checkWait := do
    Act.say device ["check_wait"]
    let x ← Act.script device
    match x.waits with
    | [] => pure (.error .timedOut)
    | r :: rest => do
      Act.revise device fun x => { x with waits := rest }
      pure r
  relax := do
    let x ← Act.script device
    if !x.offer.habits.neverRelaxes then Act.say device ["relax"]

/-- A line of the journal in the trace. -/
def lineText (l : Line) : String := "log [" ++ l.severity.mark ++ "] " ++ l.text

/-- A registry that traces what it is given and refuses it. -/
def refuse (device : Nat) (path : String) (mode : FileMode) : Act (Except DeviceError Unit) := do
  let permissions := FileMode.readAll
  Act.trace (.text (" ".intercalate
    ["registry", path, toString mode.bits.toNat, toString permissions.bits.toNat]))
  let x ← Act.script device
  match x.offer.rejection with
  | some e => pure (.error e)
  | none => pure (.ok ())

/-- The board of scripted devices. -/
def board : Board Memory where
  lower := lowerHalf
  platform := platform
  log n := Act.trace (.text (lineText n.line))
  publish device path _ mode := refuse device path mode

/-! ## Runs -/

/-- The answer of a step with its trace. -/
structure Observation (α : Type) where
  answer : α
  trace : List Entry

/-- Carries out acts of the bench one after another.  The trace is taken after each of them. -/
def observe {α : Type} (depth : Nat) :
    World Memory → List (Act α) → Except Halt (List (Observation α))
  | _, [] => .ok []
  | w, a :: rest => do
    let x ← board.run depth a.action w
    let seen ← observe depth { x.world with own := { x.world.own with trace := [] } } rest
    pure (⟨x.result, x.world.own.trace.reverse⟩ :: seen)

/-- A depth of nested calls that the given steps do not exceed. -/
def depth (steps : List Step) : Nat := 16 + 8 * Step.weights steps

/-- Carries out the steps of a scenario one after another on an empty device table. -/
def scenario (steps : List Step) : Except Halt (List (Observation Answer)) :=
  observe (depth steps) (World.initial Memory.initial) (steps.map Step.act)

/-- Does something directly to a device that is not registered, and reads the control block. -/
def directly (d : Deed) : Act (Reply × ControlBlock) := do
  let reply ← d.act 0
  let block ← control 0 .snapshot
  pure (reply, block)

/-- Carries out direct calls of operations on a device that is not registered. -/
def directCalls (script : Script) (deeds : List Deed) :
    Except Halt (List (Observation (Reply × ControlBlock))) :=
  let world := World.initial { Memory.initial with scripts := [script] }
  observe (depth []) (world.create ⟨0, 0, script.offer.config⟩) (deeds.map directly)

end LedDriver.Bench
