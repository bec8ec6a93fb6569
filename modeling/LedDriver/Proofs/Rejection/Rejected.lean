import LedDriver.Proofs.System.Discretion
import LedDriver.Proofs.Command.Forwarding

/-!
# Rejected calls

The calls that the driver itself rejects, whatever the lower half would have done: an open that
finds the greatest count of references, an open or a close that gives up waiting for the permit, and
a command that the policy does not admit.  Where the journal and the waiting are discreet about a
part of the state of the surroundings, such a call lets no lower half work, masks no interrupts, and
leaves the memory of every session and that part as they were (`Board.rejected_spec`).
-/

namespace LedDriver

variable {σ τ ρ α : Type}

namespace CallTree

/-- The wait for a permit with which a call begins ended with an error. -/
def Interrupted (t : CallTree σ) : Prop :=
  ∃ g p v e v' ts us, t.inner = .node (.routine (.wait g p)) v (.error e) v' ts :: us

/-- A call that the driver itself rejects. -/
inductive Rejected : CallTree σ → Prop
  /-- An open found the greatest count of references admitted. -/
  | full {s : SessionId} {w w' : World σ} {ts : List (CallTree σ)}
    (full : (w.profile s).config.maxOpens.toNat ≤ (w.count s).toNat) :
    Rejected (.node (.service (.openDevice s)) w (.error .tooManyOpens) w' ts)
  /-- An open gave up waiting for the permit. -/
  | openInterrupted {s : SessionId} {w w' : World σ} {x : Except DeviceError Unit}
    {ts : List (CallTree σ)}
    (gaveUp : (CallTree.node (.service (.openDevice s)) w x w' ts).Interrupted) :
    Rejected (.node (.service (.openDevice s)) w x w' ts)
  /-- A close gave up waiting for the permit. -/
  | closeInterrupted {s : SessionId} {w w' : World σ} {x : Except DeviceError Unit}
    {ts : List (CallTree σ)}
    (gaveUp : (CallTree.node (.service (.closeDevice s)) w x w' ts).Interrupted) :
    Rejected (.node (.service (.closeDevice s)) w x w' ts)
  /-- The policy does not admit a command. -/
  | refused {s : SessionId} {c : Command} {w w' : World σ} {x : CommandAnswer}
    {ts : List (CallTree σ)} (refused : ¬ c.Admitted (w.block s)) :
    Rejected (.node (.service (.command s c)) w x w' ts)

/-- If the call is a command, it is answered with its error, and everything that was lent for it is
given back as it was. -/
def GivesBack : CallTree σ → Prop
  | node (.service (.command _ c)) _ x _ _ => x = ⟨.error c.denial, c⟩
  | _ => True

end CallTree

open CallTree

namespace Board

variable {B : Board σ} {depth : Nat} {w : World σ} {s : SessionId} {view : σ → τ} {lower : σ → ρ}

/-! ## Opens and closes -/

/-- A program that waits for a permit first does its work and gives the permit back if it gets one;
if not, it has done nothing else. -/
lemma run_waiting {g : SemaphoreId} {p : PlatformId} {body : Action σ α} {f : DeviceError → α}
    {next : Except DeviceError Unit → Action σ α} {x : Outcome σ α}
    (hx : B.run depth ((Routine.wait g p).make >>= next) w = .ok x)
    (refused : ∀ e, next (.error e) = .done (f e))
    (granted : next (.ok ()) = body.bind fun a => (Atom.post g).act >>= fun _ => pure a) :
    ∃ y, B.perform depth (.routine (.wait g p)) w = .ok y ∧
      ((∃ e, y.result = .error e ∧ x = ⟨f e, y.world, y.calls⟩) ∨
        y.result = .ok () ∧ ∃ z, B.run depth body y.world = .ok z ∧
          x = ⟨z.result, z.world.posted g, y.calls ++ z.calls⟩) := by
  obtain ⟨y, z, waited, rest, rfl⟩ := run_call_iff.mp hx
  refine ⟨y, waited, ?_⟩
  rw [Program.bind_done] at rest
  cases answer : y.result with
  | error e =>
    rw [answer, refused] at rest
    cases run_done_iff.mp rest
    exact .inl ⟨e, rfl, by simp⟩
  | ok _ =>
    rw [answer, granted] at rest
    obtain ⟨u, v, worked, posted, rfl⟩ := run_bind_iff.mp rest
    have ended := run_of_effect posted rfl
    cases run_done_iff.mp ended
    exact .inr ⟨rfl, u, worked, by simp [World.posted]⟩

/-- An open or a close waits for the permit first. -/
lemma run_withPermit {body : Profile → Action σ (Except DeviceError Unit)}
    {x : Outcome σ (Except DeviceError Unit)}
    (hx : B.run depth ((Atom.profile s).act >>= fun p =>
      Semaphore.withPermit (.guard s) p.platform (body p)) w = .ok x) :
    s < w.issued ∧
      ∃ y, B.perform depth (.routine (.wait (.guard s) (w.profile s).platform)) w = .ok y ∧
        ((∃ e, y.result = .error e ∧ x = ⟨.error e, y.world, y.calls⟩) ∨
          y.result = .ok () ∧ ∃ z, B.run depth (body (w.profile s)) y.world = .ok z ∧
            x = ⟨z.result, z.world.posted (.guard s), y.calls ++ z.calls⟩) := by
  obtain ⟨r, effect, run⟩ := run_atom_iff.mp hx
  obtain ⟨created, effect⟩ := Atom.apply_eq_ok_iff.mp effect
  cases effect
  exact ⟨created s rfl, run_waiting run (fun _ => rfl) rfl⟩

/-- An open or a close that gave up waiting has done nothing else, and answers why it gave up. -/
lemma withPermit_interrupted (waiting : B.WaitingKeeps lower)
    {body : Profile → Action σ (Except DeviceError Unit)} {x : Outcome σ (Except DeviceError Unit)}
    (hx : B.run depth ((Atom.profile s).act >>= fun p =>
      Semaphore.withPermit (.guard s) p.platform (body p)) w = .ok x) {g : SemaphoreId}
    {p : PlatformId} {v v' : World σ} {e : DeviceError} {ts us : List (CallTree σ)}
    (gaveUp : x.calls = .node (.routine (.wait g p)) v (.error e) v' ts :: us) :
    Idle x.calls ∧ x.result = .error e ∧ x.world.map lower = w.map lower := by
  obtain ⟨-, y, waited, outcome⟩ := run_withPermit hx
  obtain ⟨idle, spec⟩ := wait_spec waiting waited
  obtain ⟨d, inner, -, -, calls⟩ := exists_of_perform waited
  rcases outcome with ⟨e', answer, rfl⟩ | ⟨answer, z, worked, rfl⟩
  · rw [calls, answer] at gaveUp
    cases gaveUp
    rcases spec with ⟨taken, -⟩ | ⟨-, -, same⟩
    · rw [answer] at taken
      cases taken
    · exact ⟨idle, rfl, same⟩
  · rw [calls, answer] at gaveUp
    cases gaveUp

/-- An open that has the permit and finds the greatest count of references writes it down and does
nothing else. -/
lemma openHolding_full (journal : B.JournalKeeps view) {p : Profile}
    (full : p.config.maxOpens.toNat ≤ (w.count s).toNat) {x : Outcome σ (Except DeviceError Unit)}
    (hx : B.run depth (Session.openHolding s p) w = .ok x) :
    Idle x.calls ∧ x.world.map view = w.map view := by
  have run := run_of_effect hx rfl
  have refused : (ReferenceCount.mk (w.count s) p.config.maxOpens).raised = .error .tooManyOpens :=
    ReferenceCount.raised_eq_error_iff.mpr ⟨full, rfl⟩
  simp only [Program.bind_done, refused] at run
  obtain ⟨y, z, told, done, rfl⟩ := run_call_iff.mp run
  cases run_done_iff.mp done
  obtain ⟨calls, same⟩ := discreet_spec (c := .log (.openLimit p.config.maxOpens)) (journal _) told
  refine ⟨?_, same⟩
  rw [calls]
  exact Idle.append (.node id idle_nil) idle_nil

/-- An open that finds the greatest count of references admitted does nothing but write it down,
unless it gives up waiting. -/
lemma openDevice_full (waiting : B.WaitingKeeps lower) (journal : B.JournalKeeps view)
    (full : (w.profile s).config.maxOpens.toNat ≤ (w.count s).toNat)
    {x : Outcome σ (Except DeviceError Unit)} (hx : B.run depth (Session.openDevice s) w = .ok x)
    (patient : ∀ g p v e v' ts us,
      x.calls ≠ .node (.routine (.wait g p)) v (.error e) v' ts :: us) :
    Idle x.calls ∧ x.world.map view = w.map view := by
  obtain ⟨-, y, waited, outcome⟩ := run_withPermit hx
  obtain ⟨idle, spec⟩ := wait_spec waiting waited
  obtain ⟨d, inner, -, -, calls⟩ := exists_of_perform waited
  rcases outcome with ⟨e, answer, rfl⟩ | ⟨answer, z, worked, rfl⟩
  · rw [answer] at calls
    exact absurd calls (patient _ _ _ _ _ _ _)
  · rcases spec with ⟨-, -, after⟩ | ⟨⟨e, failed⟩, -⟩
    · rw [after] at worked
      obtain ⟨idle', same⟩ := openHolding_full (w := w.taken (.guard s)) journal full worked
      refine ⟨idle.append idle', ?_⟩
      calc (z.world.posted (.guard s)).map view
          = (z.world.map view).posted (.guard s) := rfl
        _ = ((w.taken (.guard s)).map view).posted (.guard s) := by rw [same]
        _ = w.map view := by simp
    · rw [answer] at failed
      cases failed

/-! ## Commands -/

/-- A command that uses the control block finds its lock free. -/
lemma free_of_run_control {m : ControlMethod} {f : m.Answer → Action σ α} {x : Outcome σ α}
    (hx : B.run depth ((Session.control s m).bind f) w = .ok x) :
    s < w.issued ∧ (w.control s).held = false := by
  obtain ⟨r, effect, -⟩ := run_atom_iff.mp hx
  obtain ⟨created, effect⟩ := Atom.apply_eq_ok_iff.mp effect
  refine ⟨created s rfl, ?_⟩
  simp only [Atom.effect, SpinLock.acquire?] at effect
  cases held : (w.control s).held with
  | false => rfl
  | true =>
    rw [held] at effect
    cases effect

/-- The run of a command that the policy refuses: one line of the journal. -/
lemma run_refused {c : Command} {r : Refusal} (hr : c.refusal? (w.block s) = some r)
    {x : Outcome σ CommandAnswer} (hx : B.run depth (Session.command s c) w = .ok x) :
    ((B.tell depth (some (.refused r))).bind fun _ => Run.pure (c.rejected r.error)) w = .ok x := by
  have typed (hc : s < w.issued ∧ (w.control s).held = false) :
      ((B.tell depth (some (.refused r))).bind fun _ => Run.pure (c.rejected r.error)) w =
        .ok x := by
    rw [run_command hc.1 hc.2 c, hr] at hx
    exact hx
  cases c with
  | start | setLimits | setParams =>
    obtain ⟨y, z, looked, -⟩ := run_bind_iff.mp hx
    exact typed (free_of_run_control looked)
  | passthrough n arg =>
    have refused : B.run depth (Session.command s (.passthrough n arg)) =
        (B.tell depth (some (.refused r))).bind fun _ =>
          Run.pure ((Command.passthrough n arg).rejected r.error) := by
      have decided : (Session.admission s (.passthrough n arg) : Action σ _) = .done (some r) :=
        congrArg Program.done hr
      rw [Session.command, decided]
      rfl
    rw [← refused]
    exact hx
  | stop | setMode | getState | setFault | getFault | cleanFault => cases hr

/-- A command that the policy does not admit does nothing but write it down, and leaves the caller
what it was given. -/
lemma command_refused (journal : B.JournalKeeps view) {c : Command}
    (refused : ¬ c.Admitted (w.block s)) {x : Outcome σ CommandAnswer}
    (hx : B.run depth (Session.command s c) w = .ok x) :
    Idle x.calls ∧ x.result = ⟨.error c.denial, c⟩ ∧ x.world.map view = w.map view := by
  obtain ⟨r, hr⟩ : ∃ r, c.refusal? (w.block s) = some r := by
    rw [← Option.isSome_iff_exists, Option.isSome_iff_ne_none]
    exact mt Command.refusal?_eq_none_iff.mp refused
  have run := run_refused hr hx
  simp only [Run.bind, tell] at run
  cases told : B.perform depth (.peer (.log (.refused r))) w with
  | error e =>
    rw [told] at run
    cases run
  | ok y =>
    rw [told] at run
    cases run
    obtain ⟨calls, same⟩ := discreet_spec (c := .log (.refused r)) (journal _) told
    refine ⟨?_, ?_, same⟩
    · rw [calls]
      exact Idle.append (.node id idle_nil) idle_nil
    · rw [← Command.error_of_refusal? hr]
      rfl

/-- A command does not wait for a permit. -/
lemma command_not_interrupted {c : Command} {t : CallTree σ}
    (performed : B.perform depth t.call t.before = .ok ⟨t.answer, t.after, [t]⟩)
    (ht : t.call = .service (.command s c)) : ¬ t.Interrupted := by
  rintro ⟨g, p, v, e, v', ts, us, gaveUp⟩
  obtain ⟨d, inner, -, run, calls⟩ := exists_of_perform performed
  have same : t.inner = inner := congrArg CallTree.inner (List.singleton_inj.mp calls)
  have asked := asked_of_mem (B.program_asks t.call) run
    (t := .node (.routine (.wait g p)) v (.error e) v' ts)
    (by rw [← same, gaveUp]; exact List.mem_cons_self ..)
  rw [ht] at asked
  cases asked

/-! ## Rejected calls -/

/-- A rejected call lets no lower half work, masks no interrupts, leaves everything as it was but
for the state of the surroundings that the journal and the waiting have to do with, and gives back
what it was lent. -/
theorem rejected_spec (waiting : B.WaitingKeeps lower) (journal : B.JournalKeeps lower)
    {t : CallTree σ} (performed : B.perform depth t.call t.before = .ok ⟨t.answer, t.after, [t]⟩)
    (rejected : t.Rejected) :
    Idle t.inner ∧ t.after.map lower = t.before.map lower ∧ t.GivesBack := by
  obtain ⟨d, inner, -, run, calls⟩ := exists_of_perform performed
  obtain ⟨c, w, x, w', ts⟩ := t
  obtain rfl : ts = inner := congrArg CallTree.inner (List.singleton_inj.mp calls)
  cases rejected with
  | full full =>
    by_cases gaveUp : ∃ g p v e v' ts' us,
        ts = CallTree.node (.routine (.wait g p)) v (.error e) v' ts' :: us
    · obtain ⟨g, p, v, e, v', ts', us, gaveUp⟩ := gaveUp
      obtain ⟨idle, -, same⟩ := withPermit_interrupted waiting run gaveUp
      exact ⟨idle, same, trivial⟩
    · obtain ⟨idle, same⟩ := openDevice_full waiting journal full run
        fun g p v e v' ts' us same => gaveUp ⟨g, p, v, e, v', ts', us, same⟩
      exact ⟨idle, same, trivial⟩
  | openInterrupted gaveUp | closeInterrupted gaveUp =>
    obtain ⟨g, p, v, e, v', ts', us, gaveUp⟩ := gaveUp
    obtain ⟨idle, -, same⟩ := withPermit_interrupted waiting run gaveUp
    exact ⟨idle, same, trivial⟩
  | refused refused =>
    obtain ⟨idle, answer, same⟩ := command_refused journal refused run
    exact ⟨idle, same, answer⟩

/-- A call that is rejected for another reason than an interrupted wait leaves everything as it was
but for the state of the surroundings that the journal has to do with. -/
theorem map_eq_of_rejected (waiting : B.WaitingKeeps lower) (journal : B.JournalKeeps view)
    {t : CallTree σ} (performed : B.perform depth t.call t.before = .ok ⟨t.answer, t.after, [t]⟩)
    (rejected : t.Rejected) (patient : ¬ t.Interrupted) : t.after.map view = t.before.map view := by
  obtain ⟨d, inner, -, run, calls⟩ := exists_of_perform performed
  obtain ⟨c, w, x, w', ts⟩ := t
  obtain rfl : ts = inner := congrArg CallTree.inner (List.singleton_inj.mp calls)
  cases rejected with
  | full full =>
    obtain ⟨-, same⟩ := openDevice_full waiting journal full run
      fun g p v e v' ts' us same => patient ⟨g, p, v, e, v', ts', us, same⟩
    exact same
  | openInterrupted gaveUp | closeInterrupted gaveUp => exact absurd gaveUp patient
  | refused refused => exact (command_refused journal refused run).2.2

end Board

end LedDriver
