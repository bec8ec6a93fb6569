import Mathlib.Tactic.Common
import LedDriver.System.Routine.Dispatch

/-!
# The table of commands

What there is to know about each command apart from the program that carries it out.
`Command.Admitted` is the table of the policy: what a command requires of the control block and of
its payload.  `Command.operation` and `Command.args` say which operation of the lower half belongs
to a command and what it is given, and `Command.concluded` says what the client is answered.

The dispatcher has an arm of its own for each command.  `Session.dispatch_eq` shows that every arm
is the call that the table says, and the answer; proofs about the dispatcher use this equation, in
the form of `Session.forward_eq`.

The call that is made tells the command (`Command.request_injective`), and the answer tells what the
operation answered and what it left in the caller's buffer (`Command.result_concluded`,
`Command.request_concluded`).
-/

namespace LedDriver

variable {σ : Type}

/-! ## The table of the policy -/

/-- Parameters pass their check exactly if they are in range. -/
lemma Params.validate_eq_ok_iff {p : Params} : p.validate = .ok () ↔ p.inRange = true := by
  unfold validate
  split <;> simp_all

/-- New parameters are admitted while the parameters are unlocked, if they are in range. -/
lemma Params.changeRefusal?_eq_none_iff {p new : Params} :
    p.changeRefusal? new = none ↔ p.lock = false ∧ new.inRange = true := by
  rw [← validate_eq_ok_iff]
  unfold changeRefusal?
  cases p.lock <;> cases new.validate <;> simp

namespace Command

/-- The commands with a number of their own. -/
def isTyped : Command → Bool
  | passthrough _ _ => false
  | start | stop | setMode _ | setLimits _ | getState _ | setFault _ | getFault _ | cleanFault _
  | setParams _ => true

/-- What a command requires. -/
def Admitted (b : ControlBlock) : Command → Prop
  | start => b.limits.lock = true ∧ b.limits.isPositive = true ∧
      (b.mode = .continuous ∨ b.mode = .flash)
  | setLimits _ => b.limits.lock = false
  | setParams p => b.params.lock = false ∧ p.inRange = true
  | passthrough n _ => ∀ c : Command, c.isTyped = true → c.number ≠ n
  | stop | setMode _ | getState _ | setFault _ | getFault _ | cleanFault _ => True

/-- The error of a command that is not admitted. -/
def denial : Command → DeviceError
  | passthrough _ _ => .invalidArgument
  | start | stop | setMode _ | setLimits _ | getState _ | setFault _ | getFault _ | cleanFault _
  | setParams _ => .permissionDenied

/-- The reserved numbers are those of the nine commands with a number of their own. -/
lemma isReserved_iff {n : UInt32} :
    isReserved n = true ↔ ∃ c : Command, c.isTyped = true ∧ c.number = n := by
  constructor
  · intro h
    obtain ⟨least, most⟩ : 0x2a01 ≤ n.toNat ∧ n.toNat ≤ 0x2a09 := by
      simpa [isReserved, firstReserved, lastReserved, UInt32.le_iff_toNat_le] using h
    have known (c : Command) (typed : c.isTyped = true) (same : c.number.toNat = n.toNat) :
        ∃ c : Command, c.isTyped = true ∧ c.number = n :=
      ⟨c, typed, UInt32.toNat_inj.mp same⟩
    have cases : n.toNat = 0x2a01 ∨ n.toNat = 0x2a02 ∨ n.toNat = 0x2a03 ∨ n.toNat = 0x2a04 ∨
        n.toNat = 0x2a05 ∨ n.toNat = 0x2a06 ∨ n.toNat = 0x2a07 ∨ n.toNat = 0x2a08 ∨
        n.toNat = 0x2a09 := by
      omega
    rcases cases with h | h | h | h | h | h | h | h | h
    · exact known start rfl h.symm
    · exact known stop rfl h.symm
    · exact known (setMode .init) rfl h.symm
    · exact known (setLimits ⟨.zero, false⟩) rfl h.symm
    · exact known (getState ⟨.init, .empty⟩) rfl h.symm
    · exact known (setFault .empty) rfl h.symm
    · exact known (getFault .empty) rfl h.symm
    · exact known (cleanFault .empty) rfl h.symm
    · exact known (setParams ⟨.zero, .zero, .zero, false⟩) rfl h.symm
  · rintro ⟨c, typed, rfl⟩
    cases c with
    | passthrough n arg => cases typed
    | start | stop | setMode | setLimits | getState | setFault | getFault | cleanFault
    | setParams => rfl

/-- The policy admits what the table admits. -/
lemma refusal?_eq_none_iff {b : ControlBlock} {c : Command} :
    c.refusal? b = none ↔ c.Admitted b := by
  cases c with
  | start =>
    simp only [refusal?, ControlBlock.startRefusal?, Admitted, OpMode.isRunnable]
    cases b.limits.lock <;> cases b.limits.isPositive <;> simp [or_iff_not_imp_left]
  | setLimits l =>
    simp only [refusal?, Limits.changeRefusal?, Admitted]
    cases b.limits.lock <;> simp
  | setParams p =>
    exact Params.changeRefusal?_eq_none_iff
  | passthrough n arg =>
    have reserved := isReserved_iff (n := n)
    simp only [refusal?, numberRefusal?, Admitted]
    constructor
    · intro h c typed same
      rw [if_pos (reserved.mpr ⟨c, typed, same⟩)] at h
      cases h
    · intro h
      rw [if_neg]
      intro hn
      obtain ⟨c, typed, same⟩ := reserved.mp hn
      exact h c typed same
  | stop | setMode | getState | setFault | getFault | cleanFault =>
    simp [refusal?, Admitted]

/-- The error of a refusal is that of its command. -/
lemma error_of_refusal? {b : ControlBlock} {c : Command} {r : Refusal} (h : c.refusal? b = some r) :
    r.error = c.denial := by
  cases c with
  | start =>
    simp only [refusal?, ControlBlock.startRefusal?] at h
    split at h
    · cases h
      rfl
    · split at h <;> cases h
      rfl
  | setLimits l =>
    simp only [refusal?, Limits.changeRefusal?] at h
    split at h <;> cases h
    rfl
  | setParams p =>
    simp only [refusal?, Params.changeRefusal?] at h
    split at h
    · cases h
      rfl
    · split at h <;> cases h
      rfl
  | passthrough n arg =>
    simp only [refusal?, numberRefusal?] at h
    split at h <;> cases h
    rfl
  | stop | setMode | getState | setFault | getFault | cleanFault => cases h

/-! ## The call and the answer -/

/-- The operation that carries out a command. -/
@[reducible]
def operation : Command → Operation
  | start => .start
  | stop => .stop
  | setMode _ => .modeSet
  | setLimits _ => .limitsSet
  | getState _ => .stateGet
  | setFault _ => .faultSet
  | getFault _ => .faultGet
  | cleanFault _ => .faultClean
  | setParams _ => .paramsSet
  | passthrough _ _ => .ioctl

/-- What that operation is given. -/
def args : (c : Command) → c.operation.Args
  | start | stop => ()
  | setMode m => m
  | setLimits l => l
  | getState held => held
  | setFault f => f
  | getFault held => held
  | cleanFault f => f
  | setParams p => p
  | passthrough n arg => (n, arg)

/-- What a command asks of a lower half: an operation and its payload. -/
def request (c : Command) : (o : Operation) × o.Args := ⟨c.operation, c.args⟩

/-- Commands that ask the same are the same: nothing of a payload is lost. -/
lemma request_injective {c c' : Command} (h : c.request = c'.request) : c = c' := by
  cases c <;> cases c' <;> simp_all [request, args]

end Command

/-- What an operation leaves of what it was given: a buffer as it filled it, all else as it was. -/
def Operation.left : (o : Operation) → o.Args → o.Answer → o.Args
  | faultGet, _, (_, held) | stateGet, _, (_, held) => held
  | ioctl, (n, _), (_, arg) => (n, arg)
  | setup, x, _ | shutdown, x, _ | start, x, _ | stop, x, _ | modeSet, x, _ | limitsSet, x, _
  | paramsSet, x, _ | faultSet, x, _ | faultClean, x, _ => x

namespace Command

/-- The answer to a command whose operation was carried out.  A command with a number of its own
answers zero when it succeeds; a command of the driver's own answers what the operation answered. -/
def concluded : (c : Command) → c.operation.Answer → CommandAnswer
  | getState _, (r, held) => ⟨r.map fun _ => 0, getState held⟩
  | getFault _, (r, held) => ⟨r.map fun _ => 0, getFault held⟩
  | passthrough n _, (r, arg) => ⟨r, passthrough n arg⟩
  | start, r => ⟨r.map fun _ => 0, start⟩
  | stop, r => ⟨r.map fun _ => 0, stop⟩
  | setMode m, r => ⟨r.map fun _ => 0, setMode m⟩
  | setLimits l, r => ⟨r.map fun _ => 0, setLimits l⟩
  | setFault f, r => ⟨r.map fun _ => 0, setFault f⟩
  | cleanFault f, r => ⟨r.map fun _ => 0, cleanFault f⟩
  | setParams p, r => ⟨r.map fun _ => 0, setParams p⟩

/-- The answer to a command tells what the operation left in the caller's buffer. -/
lemma request_concluded (c : Command) (x : c.operation.Answer) :
    (c.concluded x).command.request = ⟨c.operation, c.operation.left c.args x⟩ := by
  cases c <;> rfl

/-- A command with a number of its own succeeds with zero, or reports the error of its operation. -/
lemma result_concluded (c : Command) (typed : c.isTyped = true) (x : c.operation.Answer) :
    (c.concluded x).result = match c.operation.error? x with
      | none => .ok 0
      | some e => .error e := by
  cases c with
  | passthrough n arg => cases typed
  | getState held | getFault held =>
    obtain ⟨r, left⟩ := x
    cases r <;> rfl
  | start | stop | setMode | setLimits | setFault | cleanFault | setParams =>
    cases x <;> rfl

/-- An error of the operation is an error of the command, and no other is. -/
lemma result_concluded_eq_error_iff (c : Command) (x : c.operation.Answer) (e : DeviceError) :
    (c.concluded x).result = .error e ↔ c.operation.error? x = some e := by
  cases c with
  | passthrough n arg =>
    obtain ⟨r, left⟩ := x
    cases r <;> simp [concluded, Operation.error?]
  | start | stop | setMode | setLimits | getState | setFault | getFault | cleanFault | setParams =>
    rw [result_concluded _ rfl]
    split <;> simp_all

/-- A command succeeds only if its operation reports no error. -/
lemma error?_eq_none {c : Command} {x : c.operation.Answer} {v : UInt64}
    (h : (c.concluded x).result = .ok v) : c.operation.error? x = none := by
  refine Option.eq_none_iff_forall_ne_some.mpr fun e reported => ?_
  have failed := (c.result_concluded_eq_error_iff x e).mpr reported
  rw [h] at failed
  cases failed

/-- What the journal is told before a command is passed on. -/
def announcement? : Command → Option Notice
  | passthrough n arg => some (.forwarding n arg)
  | start | stop | setMode _ | setLimits _ | getState _ | setFault _ | getFault _ | cleanFault _
  | setParams _ => none

end Command

/-! ## The arms of the dispatcher -/

namespace Session

/-- Every arm of the dispatcher is one call of the operation that belongs to the command, on its
payload, and the answer. -/
lemma dispatch_eq (h : LowerId) (s : SessionId) (c : Command) :
    (dispatch h s c : Action σ CommandAnswer) =
      (Peer.operate .driver h s c.operation c.args).make >>= fun answer =>
        pure (c.concluded answer) := by
  cases c <;> rfl

/-- A command that is passed on is announced, carried out by its operation, and written down if it
failed. -/
lemma forward_eq (s : SessionId) (c : Command) :
    (forward s c : Action σ CommandAnswer) = (do
      announce c
      let p ← (Atom.profile s).act
      let answer ← (Peer.operate .driver p.lower s c.operation c.args).make
      let outcome := c.concluded answer
      match outcome.result with
      | .ok _ => pure outcome
      | .error e => do
        (Peer.log (c.failureNotice e)).make
        pure outcome) := by
  simp only [forward, dispatch_eq]
  rfl

end Session

end LedDriver
