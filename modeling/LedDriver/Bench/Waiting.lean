import LedDriver.System.Execution

/-!
# Semaphores and critical sections on a test bench

Two small benches of one platform each.  On the first, permits of a lone semaphore are taken and
given back; while a party waits, a script says whether it may go on and which of the permits taken
before is given back meanwhile.  On the second, critical sections are entered and left in any order.
-/

namespace LedDriver.Bench

/-! ## Waiting for permits -/

/-- What the platform answers to a party that asks whether to go on waiting. -/
inductive WaitAnswer where
  | goOn
  /-- Go on; the permit in a slot is given back while the party relaxes. -/
  | goOnReleasing (slot : Nat)
  | giveUp (e : DeviceError)

/-- The state of the bench: which slots hold a permit, the answers to come, the slot to be released
by the next relaxing, and the trace, newest first. -/
structure Waiting where
  slots : List Bool
  script : List WaitAnswer
  releasing : Option Nat
  trace : List String

/-- A step on the bench. -/
inductive WaitStep where
  | tryWait
  | wait (script : List WaitAnswer)
  | release (slot : Nat)

/-- What a step answers. -/
inductive WaitReply where
  /-- The slot of the permit taken, if one was taken. -/
  | tried (slot : Option Nat)
  | waited (r : Except DeviceError Nat)
  /-- Whether the slot held a permit. -/
  | released (held : Bool)

namespace Waiting

/-- Looks at the state of the bench. -/
def look : Reaction Waiting Waiting := Reaction.own id

/-- Changes the state of the bench. -/
def change (f : Waiting → Waiting) : Reaction Waiting Unit := do
  let _ ← Reaction.own f
  pure ()

/-- Adds a line to the trace. -/
def say (line : String) : Reaction Waiting Unit :=
  change fun b => { b with trace := line :: b.trace }

/-- Gives the permit in a slot back, if there is one. -/
def release (slot : Nat) : Reaction Waiting Bool := do
  let b ← look
  if b.slots.getD slot false then
    change fun b => { b with slots := b.slots.set slot false }
    (Service.post 0).use
    pure true
  else pure false

/-- Puts a permit into the next slot. -/
def keep : Reaction Waiting Nat := do
  let b ← look
  change fun b => { b with slots := b.slots ++ [true] }
  pure b.slots.length

/-- The platform of the bench. -/
def platform : Platform Waiting where
  enter := pure 0
  leave _ := pure ()
  checkWait := do
    say "check_wait"
    let b ← look
    match b.script with
    | [] => pure (.error .timedOut)
    | a :: rest => do
      change fun b => { b with script := rest }
      match a with
      | .goOn => pure (.ok ())
      | .goOnReleasing slot => do
        change fun b => { b with releasing := some slot }
        pure (.ok ())
      | .giveUp e => pure (.error e)
  relax := do
    say "relax"
    let b ← look
    match b.releasing with
    | none => pure ()
    | some slot => do
      change fun b => { b with releasing := none }
      let _ ← release slot

/-- A lower half that is never used. -/
def unusedHalf (σ : Type) : LowerHalf σ where
  provided := pure Flags.empty
  operate _ o args := pure (o.failed .unsupported args)
  discard := pure ()

/-- A board with one platform and nothing else. -/
def boardOf {σ : Type} (p : Platform σ) : Board σ where
  lower _ := unusedHalf σ
  platform _ := p
  log _ := pure ()
  publish _ _ _ _ := pure (.error .unsupported)

/-- Carries out a step. -/
def act : WaitStep → Reaction Waiting WaitReply
  | .tryWait => do
    if ← (Service.tryWait 0).use then
      let slot ← keep
      pure (.tried (some slot))
    else pure (.tried none)
  | .wait script => do
    change fun b => { b with script, releasing := none }
    match ← (Service.wait 0 0).use with
    | .ok () => do
      let slot ← keep
      pure (.waited (.ok slot))
    | .error e => pure (.waited (.error e))
  | .release slot => do
    let held ← release slot
    pure (.released held)

/-- The answer of a step, the free permits after it, and its trace. -/
structure Observation where
  reply : WaitReply
  permits : UInt32
  trace : List String

/-- A depth of nested calls that a step does not exceed. -/
def depth : WaitStep → Nat
  | .wait script => 16 + script.length
  | _ => 16

/-- Carries out steps one after another and observes each. -/
def observe : World Waiting → List WaitStep → Except Halt (List Observation)
  | _, [] => .ok []
  | w, step :: rest => do
    let x ← (boardOf platform).run (depth step) (act step).action w
    let seen ← observe { x.world with own := { x.world.own with trace := [] } } rest
    pure (⟨x.result, (x.world.semaphore (.alone 0)).permits, x.world.own.trace.reverse⟩ :: seen)

/-- Carries out steps on a semaphore with a number of permits. -/
def run (permits : UInt32) (steps : List WaitStep) : Except Halt (List Observation) :=
  let world := World.initial (⟨[], [], none, []⟩ : Waiting)
  observe { world with semaphore := update world.semaphore (.alone 0) ⟨permits⟩ } steps

end Waiting

/-! ## Entering critical sections -/

/-- The state of the bench: the interrupt states to come and the trace, newest first. -/
structure Sections where
  irqs : List UInt64
  trace : List String

/-- A step on the bench. -/
inductive SectionStep where
  | enter
  /-- Leave the section that was entered at a place in the order of entering. -/
  | leave (index : Nat)

namespace Sections

/-- The platform of the bench. -/
def platform : Platform Sections where
  enter := do
    let b ← Reaction.own fun b =>
      { irqs := b.irqs.drop 1
        trace := ("enter " ++ toString (b.irqs.headD 0).toNat) :: b.trace }
    pure (b.irqs.headD 0)
  leave saved := do
    let _ ← Reaction.own fun b =>
      { b with trace := ("leave " ++ toString saved.toNat) :: b.trace }
  checkWait := pure (.error .timedOut)
  relax := pure ()

/-- Carries out a step, given the states that the sections entered so far are to restore; a section
that was left restores nothing. -/
def act (saved : List (Option UInt64)) : SectionStep → Action Sections (List (Option UInt64))
  | .enter => do
    let state ← (Peer.enter 0).make
    pure (saved ++ [some state])
  | .leave i =>
    match saved.getD i none with
    | none => pure saved
    | some state => do
      (Peer.leave 0 state).make
      pure (saved.set i none)

/-- Carries out steps one after another and takes the trace of each. -/
def observe (saved : List (Option UInt64)) :
    World Sections → List SectionStep → Except Halt (List (List String))
  | _, [] => .ok []
  | w, step :: rest => do
    let x ← (Waiting.boardOf platform).run 16 (act saved step) w
    let seen ← observe x.result { x.world with own := { x.world.own with trace := [] } } rest
    pure (x.world.own.trace.reverse :: seen)

/-- Carries out steps with the given interrupt states. -/
def run (irqs : List UInt64) (steps : List SectionStep) : Except Halt (List (List String)) :=
  observe [] (World.initial ⟨irqs, []⟩) steps

end Sections

end LedDriver.Bench
