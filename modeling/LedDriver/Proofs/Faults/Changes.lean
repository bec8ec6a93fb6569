import LedDriver.Proofs.Command.Forwarding
import LedDriver.Proofs.System.Services

/-!
# Faults of a device

The faults of a device are a byte of its control block.  A `FaultChange` raises some of them or
clears some: it is a command, the operation of the lower half that carries the command out, and the
method of the control block with which the lower half does so.  `Board.AppliesFaults` is what is
asked of a lower half and of its surroundings: it changes the faults in these two operations alone,
each of which may fail before it has any effect, and it tells its callers what the faults are.

Then the faults stay as they are in whatever is not a change of them (`Board.fault_eq_of_perform`).
A command to change them sets or removes the bits in its byte if it succeeds, whether they have a
name or not, and does nothing if it fails (`AppliesFaults.of_change`); a command that asks for the
faults and succeeds is told all of them (`AppliesFaults.of_getFault`, `AppliesFaults.of_getState`).
-/

namespace LedDriver

variable {σ α : Type}

/-! ## Changes of the faults -/

/-- A change of the faults of a device: some are raised, or some are cleared. -/
inductive FaultChange where
  | raise (faults : FaultFlags)
  | clear (faults : FaultFlags)
deriving DecidableEq

namespace FaultChange

/-- The faults that are raised or cleared. -/
def faults : FaultChange → FaultFlags
  | raise f | clear f => f

/-- The faults are there afterwards. -/
def present : FaultChange → Bool
  | raise _ => true
  | clear _ => false

/-- The command to change the faults. -/
@[reducible]
def command : FaultChange → Command
  | raise f => .setFault f
  | clear f => .cleanFault f

/-- The method that changes the faults. -/
@[reducible]
def method : FaultChange → ControlMethod
  | raise f => .raiseFault f
  | clear f => .clearFault f

/-- A change sets or removes its own bits and leaves the others as they are. -/
lemma has_apply (x : FaultChange) (b : ControlBlock) (i : Nat) :
    (x.method.apply b).2.fault.has i = if x.faults.has i then x.present else b.fault.has i := by
  cases x with
  | raise f => cases hf : f.has i <;> simp [ControlMethod.apply, faults, present, hf]
  | clear f => cases hf : f.has i <;> simp [ControlMethod.apply, faults, present, hf]

end FaultChange

/-- The methods that change the faults. -/
def ControlMethod.ChangesFault : ControlMethod → Prop
  | raiseFault _ | clearFault _ => True
  | _ => False

/-- A method that does not change the faults leaves them as they are. -/
lemma ControlMethod.apply_fault {m : ControlMethod} (h : ¬ m.ChangesFault) (b : ControlBlock) :
    (m.apply b).2.fault = b.fault := by
  cases m with
  | raiseFault | clearFault => exact absurd trivial h
  | storeLimits | storeParams =>
    simp only [apply]
    split <;> rfl
  | snapshot | mode | setMode | limits | params | state | setState | faults => rfl

/-- The operations that change the faults. -/
def Operation.ChangesFault : Operation → Prop
  | faultSet | faultClean => True
  | _ => False

/-- The commands that change the faults are those of the changes. -/
lemma Command.exists_change {c : Command} (h : c.operation.ChangesFault) :
    ∃ x : FaultChange, c = x.command := by
  cases c with
  | setFault f => exact ⟨.raise f, rfl⟩
  | cleanFault f => exact ⟨.clear f, rfl⟩
  | start | stop | setMode | setLimits | getState | getFault | setParams | passthrough =>
    exact h.elim

/-- The services that change the faults of a session, be it by a command or directly. -/
def Service.ChangesFault (s : SessionId) : Service → Prop
  | command t c => t = s ∧ c.operation.ChangesFault
  | control t m => t = s ∧ m.ChangesFault
  | operate t o _ => t = s ∧ o.ChangesFault
  | _ => False

/-- The calls that change the faults of a session. -/
def Call.ChangesFault (s : SessionId) : Call → Prop
  | service c => c.ChangesFault s
  | routine _ => False
  | peer (.operate _ _ t o _) => t = s ∧ o.ChangesFault
  | peer _ => False

/-- A question that leaves the faults of a session alone. -/
def Request.SparesFault (s : SessionId) : Request σ → Prop
  | .atom (.control t m) => ¬ (t = s ∧ m.ChangesFault)
  | .atom _ => True
  | .call c => ¬ c.ChangesFault s

/-- A method that does not change the faults of a session leaves them as they are. -/
lemma World.fault_revise (w : World σ) {s t : SessionId} {m : ControlMethod}
    (h : ¬ (t = s ∧ m.ChangesFault)) : ((w.revise t m).block s).fault = (w.block s).fault := by
  by_cases same : t = s
  · subst same
    rw [World.block_revise, ControlMethod.apply_fault fun changes => h ⟨rfl, changes⟩]
  · rw [World.block_revise_of_ne w m (Ne.symm same)]

/-! ## Lower halves that keep account of the faults -/

/-- A session was created for a lower half. -/
structure World.Attached (w : World σ) (s : SessionId) (h : LowerId) : Prop where
  created : s < w.issued
  lower : (w.profile s).lower = h

/-- Two control blocks differ at most in the coarse state and in the faults. -/
structure ControlBlock.SameSetup (b b' : ControlBlock) : Prop where
  mode : b'.mode = b.mode
  limits : b'.limits = b.limits
  params : b'.params = b.params

/-- The lower half of a session raises faults and clears faults in the two operations that are made
for that: it sets the bits in the byte of faults, or removes them, and perhaps changes the coarse
state, unless it fails before it does anything.  No other call that leaves the driver changes the
faults.  The operations that tell the faults, or the coarse state with the faults, fill the caller's
buffer from the control block.  Neither an operation that tells the faults nor the journal changes
the mode, the limits or the parameters. -/
structure Board.AppliesFaults (B : Board σ) (s : SessionId) (h : LowerId) : Prop where
  raises : ∀ (f : FaultFlags) caller depth (w : World σ) y, w.Attached s h →
    B.perform depth (.peer (.operate caller h s .faultSet f)) w = .ok y →
    match y.result with
    | .ok () => ∃ st, y.world.block s =
        { w.block s with fault := (w.block s).fault.union f, state := st }
    | .error _ => y.world.block s = w.block s
  clears : ∀ (f : FaultFlags) caller depth (w : World σ) y, w.Attached s h →
    B.perform depth (.peer (.operate caller h s .faultClean f)) w = .ok y →
    match y.result with
    | .ok () => ∃ st, y.world.block s =
        { w.block s with fault := (w.block s).fault.difference f, state := st }
    | .error _ => y.world.block s = w.block s
  spares : ∀ (p : Peer) depth (w : World σ) y, w.Attached s h → ¬ (Call.peer p).ChangesFault s →
    B.perform depth (.peer p) w = .ok y → (y.world.block s).fault = (w.block s).fault
  tellsFaults : ∀ held caller depth (w : World σ) y, w.Attached s h →
    B.perform depth (.peer (.operate caller h s .faultGet held)) w = .ok y →
    (w.block s).SameSetup (y.world.block s) ∧
      (y.result.1 = .ok () → y.result.2 = (w.block s).fault)
  tellsState : ∀ held caller depth (w : World σ) y, w.Attached s h →
    B.perform depth (.peer (.operate caller h s .stateGet held)) w = .ok y →
    y.result.1 = .ok () → y.result.2.fault = (w.block s).fault
  journal : ∀ n depth (w : World σ) y, w.Attached s h →
    B.perform depth (.peer (.log n)) w = .ok y → (w.block s).SameSetup (y.world.block s)

/-- A session stays as it was created. -/
lemma World.Attached.later {v w : World σ} {s : SessionId} {h : LowerId} (attached : v.Attached s h)
    (kept : v.issued ≤ w.issued ∧ ∀ s < v.issued, w.profile s = v.profile s) : w.Attached s h where
  created := Nat.lt_of_lt_of_le attached.created kept.1
  lower := by rw [kept.2 s attached.created, attached.lower]

lemma ControlBlock.SameSetup.refl (b : ControlBlock) : b.SameSetup b := ⟨rfl, rfl, rfl⟩

lemma ControlBlock.SameSetup.trans {a b c : ControlBlock} (hab : a.SameSetup b)
    (hbc : b.SameSetup c) : a.SameSetup c :=
  ⟨hbc.mode.trans hab.mode, hbc.limits.trans hab.limits, hbc.params.trans hab.params⟩

/-- A change of the faults changes nothing else but perhaps the coarse state. -/
lemma FaultChange.sameSetup (x : FaultChange) (b : ControlBlock) (st : LightState) :
    b.SameSetup { (x.method.apply b).2 with state := st } := by
  cases x <;> exact ⟨rfl, rfl, rfl⟩

namespace Board

variable {B : Board σ} {s : SessionId} {h : LowerId} {depth : Nat} {w : World σ}

lemma attached_of_perform {c : Call} {x : Outcome σ c.Answer} (attached : w.Attached s h)
    (hx : B.perform depth c w = .ok x) : x.world.Attached s h :=
  attached.later (issued_le_of_perform hx)

/-! ## What leaves the faults alone -/

/-- Commands use the control block only to look at it. -/
lemma command_sparesFault {t : SessionId} {c : Command}
    (hc : ¬ (Call.service (.command t c)).ChangesFault s) :
    (Session.command t c : Action σ _).Only (Request.SparesFault s) := by
  refine Session.command_only trivial (fun m hm => ?_) trivial trivial (fun h => hc) fun _ => id
  rintro ⟨-, changes⟩
  simp only [List.mem_cons, List.not_mem_nil, or_false] at hm
  rcases hm with rfl | rfl | rfl <;> exact changes

/-- A program of the driver changes the faults only if the call does. -/
lemma program_sparesFault {c : Call} (hc : ¬ c.ChangesFault s) (driver : ∀ p, c ≠ .peer p) :
    (B.program c).Only (Request.SparesFault s) := by
  by_cases command : ∃ t c', c = .service (.command t c')
  · obtain ⟨t, c', rfl⟩ := command
    exact command_sparesFault hc
  · refine (B.program_asks c).mono fun q asks => ?_
    cases asks
    case peer_use => exact absurd rfl (driver _)
    all_goals simp_all [Request.SparesFault, Call.ChangesFault, Service.ChangesFault,
      Operation.ChangesFault]

/-- An atom that does not change the faults of a session leaves them as they are. -/
lemma fault_eq_of_atom {a : Atom σ} (ha : (Request.atom a).SparesFault s) (created : s < w.issued)
    {r : a.Answer × World σ} (hr : a.apply w = .ok r) :
    (r.2.block s).fault = (w.block s).fault := by
  have performs := Atom.Performs.effect hr
  by_cases uses : ∃ m, a = .control s m
  · obtain ⟨m, rfl⟩ := uses
    rw [performs.of_control.2]
    exact ControlMethod.apply_fault (fun changes => ha ⟨rfl, changes⟩) _
  · rw [performs.block_eq_of_lt created fun m same => uses ⟨m, same⟩]

/-- A call that does not change the faults of a session leaves them as they are. -/
theorem fault_eq_of_perform (lower : B.AppliesFaults s h) (attached : w.Attached s h) {c : Call}
    (hc : ¬ c.ChangesFault s) {x : Outcome σ c.Answer} (hx : B.perform depth c w = .ok x) :
    (x.world.block s).fault = (w.block s).fault := by
  -- What leaves the driver is known as a whole; only the driver's own programs are looked into.
  induction depth generalizing c w with
  | zero => exact absurd hx perform_zero_ne
  | succ depth ih =>
    by_cases driver : ∀ p, c ≠ .peer p
    · obtain ⟨y, hy, rfl⟩ := perform_succ_iff.mp hx
      have inside : w.Attached s h →
          y.world.Attached s h ∧ (y.world.block s).fault = (w.block s).fault := by
        refine run_of_only (R := fun u v => u.Attached s h →
          v.Attached s h ∧ (v.block s).fault = (u.block s).fault) ?_ ?_ ?_ ?_
          (program_sparesFault hc driver) hy
        · exact fun u hu => ⟨hu, rfl⟩
        · intro u v z huv hvz hu
          obtain ⟨hv, same⟩ := huv hu
          obtain ⟨hz, same'⟩ := hvz hv
          exact ⟨hz, same'.trans same⟩
        · intro a ha u r hr hu
          exact ⟨hu.later (Atom.Performs.effect hr).issued_le, fault_eq_of_atom ha hu.created hr⟩
        · exact fun c hc u x hx hu => ⟨attached_of_perform hu hx, ih hu hc hx⟩
      exact (inside attached).2
    · obtain ⟨p, rfl⟩ := not_forall_not.mp driver
      exact lower.spares p _ w x attached hc hx

/-! ## Commands about the faults -/

/-- The policy has nothing to say about a command, and the journal is told nothing before it is
passed on. -/
def Passes (s : SessionId) (c : Command) : Prop :=
  (Session.command s c : Action σ _) = .ask (.atom (.profile s)) fun p =>
    .ask (.call (.peer (.operate .driver p.lower s c.operation c.args))) (conclusion c)

/-- A command that is passed on is its operation, and perhaps a line in the journal afterwards. -/
lemma perform_of_passes {c : Command} (passes : Passes (σ := σ) s c) (attached : w.Attached s h)
    {x : Outcome σ CommandAnswer} (hx : B.perform depth (.service (.command s c)) w = .ok x) :
    ∃ d y, B.perform d (.peer (.operate .driver h s c.operation c.args)) w = .ok y ∧
      x.result = c.concluded y.result ∧ (x.world = y.world ∨
        ∃ n z, B.perform d (.peer (.log n)) y.world = .ok z ∧ x.world = z.world) := by
  obtain ⟨d, inner, -, run, -⟩ := exists_of_perform hx
  have asked : B.run d (Session.command s c) w = .ok ⟨x.result, x.world, inner⟩ := run
  rw [passes] at asked
  obtain ⟨r, read, rest⟩ := run_atom_iff.mp asked
  obtain ⟨profile, -, same⟩ := (Atom.Performs.effect read).of_profile
  rw [profile, same, attached.lower] at rest
  obtain ⟨y, z, performed, concluded, whole⟩ := run_call_iff.mp rest
  obtain ⟨result, world, -⟩ := (Outcome.mk.injEq ..).mp whole
  refine ⟨d, y, performed, ?_⟩
  rw [result, world]
  unfold conclusion at concluded
  split at concluded
  · obtain rfl := run_done_iff.mp concluded
    exact ⟨rfl, .inl rfl⟩
  · next e _ =>
    obtain ⟨u, v, told, done, rfl⟩ := run_call_iff.mp concluded
    obtain rfl := run_done_iff.mp done
    exact ⟨rfl, .inr ⟨_, u, told, rfl⟩⟩

namespace AppliesFaults

variable {x : Outcome σ CommandAnswer}

/-- The operation of a change either makes the change or fails and leaves the control block as it
is. -/
lemma changes (lower : B.AppliesFaults s h) (x : FaultChange) {caller : Caller}
    (attached : w.Attached s h) {y : Outcome σ x.command.operation.Answer}
    (hy : B.perform depth (.peer (.operate caller h s x.command.operation x.command.args)) w =
      .ok y) :
    match x.command.operation.error? y.result with
    | none => ∃ st, y.world.block s = { (x.method.apply (w.block s)).2 with state := st }
    | some _ => y.world.block s = w.block s := by
  obtain ⟨r, v, calls⟩ := y
  cases x with
  | raise f =>
    have raised := lower.raises f caller depth w _ attached hy
    cases r <;> exact raised
  | clear f =>
    have cleared := lower.clears f caller depth w _ attached hy
    cases r <;> exact cleared

/-- A command that is passed on leaves the faults as its operation does, and the setup as well. -/
lemma perform_of_passes (lower : B.AppliesFaults s h) {c : Command} (passes : Passes (σ := σ) s c)
    (attached : w.Attached s h) (hx : B.perform depth (.service (.command s c)) w = .ok x) :
    ∃ d y, B.perform d (.peer (.operate .driver h s c.operation c.args)) w = .ok y ∧
      x.result = c.concluded y.result ∧ (x.world.block s).fault = (y.world.block s).fault ∧
      (y.world.block s).SameSetup (x.world.block s) := by
  obtain ⟨d, y, performed, result, same | ⟨n, z, told, same⟩⟩ :=
    Board.perform_of_passes passes attached hx
  · exact ⟨d, y, performed, result, same ▸ rfl, same ▸ .refl _⟩
  · have later := attached_of_perform attached performed
    refine ⟨d, y, performed, result, ?_, ?_⟩
    · rw [same]
      exact lower.spares (.log n) d y.world z later id told
    · rw [same]
      exact lower.journal n d y.world z later told

/-- A command that changes the faults does so if it succeeds, does not if it fails, and leaves the
mode, the limits and the parameters as they are. -/
lemma of_change (lower : B.AppliesFaults s h) (attached : w.Attached s h) {y : FaultChange}
    (hx : B.perform depth (.service (.command s y.command)) w = .ok x) :
    (∀ i, (x.world.block s).fault.has i =
      if x.result.result.isOk && y.faults.has i then y.present else (w.block s).fault.has i) ∧
      (w.block s).SameSetup (x.world.block s) := by
  have passes : Passes (σ := σ) s y.command := by cases y <;> rfl
  have typed : y.command.isTyped = true := by cases y <;> rfl
  obtain ⟨d, z, performed, result, fault, setup⟩ := lower.perform_of_passes passes attached hx
  have applied := lower.changes y attached performed
  rw [fault, result, Command.result_concluded _ typed]
  cases outcome : y.command.operation.error? z.result with
  | none =>
    rw [outcome] at applied
    obtain ⟨st, applied⟩ := applied
    rw [applied] at setup ⊢
    exact ⟨fun i => y.has_apply (w.block s) i, (y.sameSetup (w.block s) st).trans setup⟩
  | some e =>
    rw [outcome] at applied
    dsimp only at applied
    rw [applied] at setup ⊢
    exact ⟨fun i => rfl, setup⟩

/-- A command that asks for the faults is told all of them, and leaves the mode, the limits and the
parameters as they are. -/
lemma of_getFault (lower : B.AppliesFaults s h) (attached : w.Attached s h) {held : FaultFlags}
    (hx : B.perform depth (.service (.command s (.getFault held))) w = .ok x) :
    (∀ v, x.result.result = .ok v → x.result.command = .getFault (w.block s).fault) ∧
      (w.block s).SameSetup (x.world.block s) := by
  obtain ⟨d, ⟨⟨r, left⟩, v, calls⟩, performed, result, -, setup⟩ :=
    lower.perform_of_passes (c := .getFault held) rfl attached hx
  obtain ⟨kept, told⟩ := lower.tellsFaults held .driver d w _ attached performed
  refine ⟨fun v ok => ?_, kept.trans setup⟩
  rw [result] at ok ⊢
  cases r with
  | error e => cases ok
  | ok u => exact congrArg Command.getFault (told rfl)

/-- A command that asks for the coarse state is told all of the faults with it. -/
lemma of_getState (lower : B.AppliesFaults s h) (attached : w.Attached s h) {held : State}
    (hx : B.perform depth (.service (.command s (.getState held))) w = .ok x) {v : UInt64}
    (ok : x.result.result = .ok v) :
    ∃ st, x.result.command = .getState ⟨st, (w.block s).fault⟩ := by
  obtain ⟨d, ⟨⟨r, left⟩, u, calls⟩, performed, result, -⟩ :=
    lower.perform_of_passes (c := .getState held) rfl attached hx
  rw [result] at ok ⊢
  cases r with
  | error e => cases ok
  | ok u =>
    have told := lower.tellsState held .driver d w _ attached performed rfl
    exact ⟨left.state, congrArg (fun f => Command.getState ⟨left.state, f⟩) told⟩

end AppliesFaults

end Board

end LedDriver
