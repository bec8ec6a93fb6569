import LedDriver.Proofs.System.Runs
import LedDriver.Proofs.System.Trees

/-!
# Forwarding of commands

What becomes of a command when a party sends it.  A command that the table of the policy admits is
one call of the operation that belongs to it, on the payload as it is, between the lines that the
journal receives; a command that is not admitted is one line of the journal and an error
(`Board.run_command`).  This is an equation between runs, so that the command returns whenever the
calls do that it is made of.  `Board.command_dispatched` puts it together.
-/

namespace LedDriver

variable {σ α : Type}

/-! ## The run of a command -/

/-- The world in which the control block of a session was changed by a method. -/
def World.revise (w : World σ) (s : SessionId) (m : ControlMethod) : World σ :=
  { w with control := update w.control s ((w.control s).store (m.apply (w.block s)).2) }

lemma World.block_revise (w : World σ) (s : SessionId) (m : ControlMethod) :
    (w.revise s m).block s = (m.apply (w.block s)).2 := by simp [revise, block]

lemma World.block_revise_of_ne (w : World σ) (m : ControlMethod) {s t : SessionId} (h : s ≠ t) :
    (w.revise t m).block s = w.block s := by simp [revise, block, update_of_ne _ _ h]

/-- A method that leaves the control block as it is leaves the world as it is. -/
lemma World.revise_eq_self {w : World σ} {s : SessionId} {m : ControlMethod}
    (h : (m.apply (w.block s)).2 = w.block s) : w.revise s m = w := by
  unfold revise
  rw [h]
  exact congrArg (fun f => { w with control := f }) (update_eq_self w.control s)

namespace Board

variable {B : Board σ} {depth : Nat} {w : World σ} {s : SessionId}

/-- Tells the journal something, or nothing. -/
def tell (B : Board σ) (depth : Nat) : Option Notice → Run σ Unit
  | none => pure ()
  | some n => B.perform depth (.peer (.log n))

/-- The use of a control block whose lock is free. -/
lemma run_control (created : s < w.issued) (free : (w.control s).held = false) (m : ControlMethod) :
    B.run depth (Session.control s m) w = .ok ⟨(m.apply (w.block s)).1, w.revise s m, []⟩ := by
  let locked : World σ := { w with control := update w.control s { w.control s with held := true } }
  have acquired : (Atom.acquire (.control s)).apply w = .ok ((), locked) := by
    simp [Atom.apply, Atom.session?, created, Atom.effect, SpinLock.acquire?, free, locked]
  have used : (Atom.control s m).apply locked =
      .ok ((m.apply (w.block s)).1, locked.revise s m) := by
    simp [Atom.apply, Atom.session?, created, Atom.effect, locked, World.revise, World.block]
  have released : (Atom.release (.control s)).apply (locked.revise s m) =
      .ok ((), w.revise s m) := by
    simp [Atom.apply, Atom.session?, created, Atom.effect, locked, World.revise, World.block,
      SpinLock.release, SpinLock.store, free]
  refine (run_atom acquired).trans ?_
  refine (run_atom used).trans ?_
  exact run_atom released

/-- The use of a control block that is carried out answers and leaves what the method says. -/
lemma perform_control {m : ControlMethod} {x : Outcome σ m.Answer}
    (hx : B.perform depth (.service (.control s m)) w = .ok x) :
    x.result = (m.apply (w.block s)).1 ∧ x.world = w.revise s m := by
  obtain ⟨d, inner, -, run, -⟩ := exists_of_perform hx
  obtain ⟨r, acquired, -⟩ := run_atom_iff.mp run
  obtain ⟨created, effect⟩ := Atom.apply_eq_ok_iff.mp acquired
  have free : (w.control s).held = false := by
    simp only [Atom.effect] at effect
    split at effect
    · next l hl => exact (SpinLock.acquire?_eq_some_iff.mp hl).1
    · cases effect
  have known : B.run d (Session.control s m) w = .ok ⟨(m.apply (w.block s)).1, w.revise s m, []⟩ :=
    run_control (created s rfl) free m
  obtain ⟨result, world, -⟩ := (Outcome.mk.injEq ..).mp (Except.ok.inj (run.symm.trans known))
  exact ⟨result, world⟩

/-- The policy is held against the control block as it is, and nothing is changed. -/
lemma run_admission (created : s < w.issued) (free : (w.control s).held = false) (c : Command) :
    B.run depth (Session.admission s c) w = .ok ⟨c.refusal? (w.block s), w, []⟩ := by
  have look (m : ControlMethod) (h : (m.apply (w.block s)).2 = w.block s)
      (f : m.Answer → Option Refusal) :
      B.run depth ((Session.control s m).bind fun x => .done (f x)) w =
        .ok ⟨f (m.apply (w.block s)).1, w, []⟩ := by
    refine run_bind_iff.mpr ⟨_, _, run_control created free m, run_done_iff.mpr rfl, ?_⟩
    rw [World.revise_eq_self h]
    rfl
  cases c with
  | start => exact look .snapshot rfl ControlBlock.startRefusal?
  | setLimits l => exact look .limits rfl Limits.changeRefusal?
  | setParams p => exact look .params rfl fun params => params.changeRefusal? p
  | stop | setMode | getState | setFault | getFault | cleanFault | passthrough => rfl

/-- The announcement of a command. -/
lemma run_announce (c : Command) :
    B.run depth (Session.announce c) = B.tell depth c.announcement? := by
  cases c with
  | passthrough n arg => exact bind_pure (B.perform depth (.peer (.log (.forwarding n arg))))
  | start | stop | setMode | setLimits | getState | setFault | getFault | cleanFault
  | setParams => rfl

/-- What the journal is told keeps what is fixed about a session. -/
lemma issued_le_of_tell {n : Option Notice} {x : Outcome σ Unit} (h : B.tell depth n w = .ok x) :
    w.issued ≤ x.world.issued ∧ ∀ s < w.issued, x.world.profile s = w.profile s := by
  cases n with
  | none =>
    cases h
    exact ⟨Nat.le_refl _, fun _ _ => rfl⟩
  | some n => exact issued_le_of_perform h

/-- The run of a command that is passed on: one call of its operation, on its payload as it is. -/
def forwarding (B : Board σ) (depth : Nat) (h : LowerId) (s : SessionId) (c : Command) :
    Run σ CommandAnswer :=
  (B.tell depth c.announcement?).bind fun _ =>
    (B.perform depth (.peer (.operate .driver h s c.operation c.args))).bind fun x =>
      (B.tell depth ((c.operation.error? x).map c.failureNotice)).bind fun _ =>
        Run.pure (c.concluded x)

/-- What is left of a command when its operation has answered. -/
def conclusion (c : Command) (x : c.operation.Answer) : Action σ CommandAnswer :=
  match (c.concluded x).result with
  | .ok _ => pure (c.concluded x)
  | .error e => do
    (Peer.log (c.failureNotice e)).make
    pure (c.concluded x)

/-- A failure is told to the journal. -/
lemma run_conclusion (c : Command) (x : c.operation.Answer) :
    B.run depth (conclusion c x) =
      (B.tell depth ((c.operation.error? x).map c.failureNotice)).bind fun _ =>
        Run.pure (c.concluded x) := by
  unfold conclusion
  cases hr : (c.concluded x).result with
  | ok v =>
    rw [Command.error?_eq_none hr]
    exact (Run.pure_bind () fun _ => Run.pure (c.concluded x)).symm
  | error e =>
    rw [(c.result_concluded_eq_error_iff x e).mp hr]
    rfl

/-- A command that is passed on. -/
lemma run_forward (created : s < w.issued) (c : Command) :
    B.run depth (Session.forward s c) w = B.forwarding depth (w.profile s).lower s c w := by
  have parts : B.run depth (Session.forward s c) =
      (B.tell depth c.announcement?).bind fun _ =>
        B.run depth (.ask (.atom (.profile s)) fun p =>
          .ask (.call (.peer (.operate .driver p.lower s c.operation c.args))) (conclusion c)) := by
    rw [← run_announce, ← run_bind, Session.forward_eq]
    rfl
  rw [parts]
  unfold forwarding
  simp only [Run.bind]
  cases hy : B.tell depth c.announcement? w with
  | error e => rfl
  | ok y =>
    obtain ⟨issued, known⟩ := issued_le_of_tell hy
    have profile : (Atom.profile s).apply y.world = .ok (w.profile s, y.world) := by
      simp [Atom.apply, Atom.session?, Nat.lt_of_lt_of_le created issued, Atom.effect,
        known s created]
    dsimp only
    rw [run_atom profile, run_ask]
    simp only [run_conclusion]
    rfl

/-- The run of a command, in the two cases of the policy. -/
lemma run_command (created : s < w.issued) (free : (w.control s).held = false) (c : Command) :
    B.run depth (Session.command s c) w =
      match c.refusal? (w.block s) with
      | some r => ((B.tell depth (some (.refused r))).bind fun _ =>
          Run.pure (c.rejected r.error)) w
      | none => B.forwarding depth (w.profile s).lower s c w := by
  have parts : B.run depth (Session.command s c) =
      (B.run depth (Session.admission s c)).bind fun r => B.run depth (match r with
        | some r => do
          (Peer.log (.refused r)).make
          pure (c.rejected r.error)
        | none => Session.forward s c) := by
    rw [← run_bind]
    rfl
  rw [parts]
  simp only [Run.bind, run_admission created free c]
  cases c.refusal? (w.block s) with
  | some r =>
    have told : B.run depth ((Peer.log (.refused r)).make >>= fun _ => pure (c.rejected r.error)) =
        (B.tell depth (some (.refused r))).bind fun _ => Run.pure (c.rejected r.error) := rfl
    dsimp only
    rw [told]
    simp only [Run.bind]
    cases B.tell depth (some (.refused r)) w <;> rfl
  | none =>
    dsimp only
    rw [run_forward created c]
    cases B.forwarding depth (w.profile s).lower s c w <;> rfl

/-- A command that is carried out is its run. -/
lemma perform_command (s : SessionId) (c : Command) :
    B.perform (depth + 1) (.service (.command s c)) =
      (B.run depth (Session.command s c)).asCall (.service (.command s c)) := rfl

/-- What the journal leaves alone is left alone by what it is told; it has a tree for each
notice. -/
lemma tell_spec {n : Option Notice} {x : Outcome σ Unit} (h : B.tell depth n w = .ok x) :
    (∀ t ∈ x.calls, ∃ m, t.call = .peer (.log m)) ∧
      ∀ {κ : Type} (f : World σ → κ),
        (∀ m u y, B.perform depth (.peer (.log m)) u = .ok y → f y.world = f u) →
        f x.world = f w := by
  cases n with
  | none =>
    cases h
    exact ⟨List.forall_mem_nil _, fun f _ => rfl⟩
  | some n =>
    refine ⟨?_, fun f keep => keep n w x h⟩
    obtain ⟨d, inner, -, -, calls⟩ := exists_of_perform h
    intro t ht
    rw [calls] at ht
    obtain rfl := List.mem_singleton.mp ht
    exact ⟨n, rfl⟩

/-- What a command that is passed on has done: one call of its operation, and before and after it
nothing but lines of the journal. -/
lemma forwarding_spec {h : LowerId} {c : Command} {x : Outcome σ CommandAnswer}
    (hx : B.forwarding depth h s c w = .ok x) :
    ∃ (told : List (CallTree σ)) (v : World σ) (answer : c.operation.Answer) (v' : World σ)
      (nested noted : List (CallTree σ)),
      x.calls = told ++
        .node (.peer (.operate .driver h s c.operation c.args)) v answer v' nested :: noted ∧
      (∀ t ∈ told ++ noted, ∃ n, t.call = .peer (.log n)) ∧ x.result = c.concluded answer ∧
      ∀ {κ : Type} (f : World σ → κ),
        (∀ n u y, B.perform depth (.peer (.log n)) u = .ok y → f y.world = f u) →
        f v = f w ∧ f x.world = f v' := by
  unfold forwarding at hx
  simp only [Run.bind] at hx
  cases ha : B.tell depth c.announcement? w with
  | error e =>
    rw [ha] at hx
    cases hx
  | ok a =>
    rw [ha] at hx
    dsimp only at hx
    cases hy : B.perform depth (.peer (.operate .driver h s c.operation c.args)) a.world with
    | error e =>
      rw [hy] at hx
      cases hx
    | ok y =>
      rw [hy] at hx
      dsimp only at hx
      cases hz : B.tell depth ((c.operation.error? y.result).map c.failureNotice) y.world with
      | error e =>
        rw [hz] at hx
        cases hx
      | ok z =>
        rw [hz] at hx
        cases hx
        obtain ⟨before, kept⟩ := tell_spec ha
        obtain ⟨after, kept'⟩ := tell_spec hz
        obtain ⟨d, nested, -, -, calls⟩ := exists_of_perform hy
        refine ⟨a.calls, a.world, y.result, y.world, nested, z.calls, ?_, ?_, rfl, ?_⟩
        · simp [calls]
        · intro t ht
          rcases List.mem_append.mp ht with ht | ht
          · exact before t ht
          · exact after t ht
        · intro κ f keep
          exact ⟨kept f keep, kept' f keep⟩

/-- The dispatcher passes on exactly what the policy admits, and as it is.  A command that is
admitted is one call of the operation that belongs to it, with its payload, and lines of the journal
before and after; a command that is not admitted is one line of the journal and an error.  The run
of the command is given in full, so that it returns if these calls return.  What the journal leaves
alone, such as a control block, is afterwards as the operation left it, or as it was before if there
was none.  The command can be told from the call; its answer tells what the operation answered and
what it left in the buffer. -/
theorem command_dispatched (B : Board σ) (depth : Nat) {w : World σ} {s : SessionId}
    (created : s < w.issued) (free : (w.control s).held = false) (c : Command) :
    (c.Admitted (w.block s) →
      B.perform (depth + 1) (.service (.command s c)) w =
          (B.forwarding depth (w.profile s).lower s c).asCall (.service (.command s c)) w ∧
        ∀ x, B.perform (depth + 1) (.service (.command s c)) w = .ok x →
          ∃ (told : List (CallTree σ)) (v : World σ) (answer : c.operation.Answer) (v' : World σ)
            (nested noted : List (CallTree σ)),
            x.calls = [.node (.service (.command s c)) w x.result x.world (told ++
              .node (.peer (.operate .driver (w.profile s).lower s c.operation c.args)) v answer v'
                nested :: noted)] ∧
            (∀ t ∈ told ++ noted, ∃ n, t.call = .peer (.log n)) ∧ x.result = c.concluded answer ∧
            ∀ {κ : Type} (f : World σ → κ),
              (∀ n u y, B.perform depth (.peer (.log n)) u = .ok y → f y.world = f u) →
              f v = f w ∧ f x.world = f v') ∧
    (¬ c.Admitted (w.block s) → ∃ r : Refusal,
      B.perform (depth + 1) (.service (.command s c)) w =
          ((B.tell depth (some (.refused r))).bind fun _ => Run.pure ⟨.error c.denial, c⟩).asCall
            (.service (.command s c)) w ∧
        ∀ x, B.perform (depth + 1) (.service (.command s c)) w = .ok x →
          ∃ t, x.calls = [.node (.service (.command s c)) w x.result x.world [t]] ∧
            t.call = .peer (.log (.refused r)) ∧ x.result = ⟨.error c.denial, c⟩ ∧
            ∀ {κ : Type} (f : World σ → κ),
              (∀ n u y, B.perform depth (.peer (.log n)) u = .ok y → f y.world = f u) →
              f x.world = f w) ∧
    (∀ c' : Command, c'.request = c.request → c' = c) ∧
    (∀ answer : c.operation.Answer,
      (c.concluded answer).command.request = ⟨c.operation, c.operation.left c.args answer⟩ ∧
        (c.isTyped = true → (c.concluded answer).result = match c.operation.error? answer with
          | none => .ok 0
          | some e => .error e)) ∧
    ∀ n arg (answer : Operation.ioctl.Answer),
      ((Command.passthrough n arg).concluded answer).result = answer.1 := by
  refine ⟨?_, ?_, fun c' => Command.request_injective, ?_, fun n arg answer => rfl⟩
  · intro admitted
    have run : B.perform (depth + 1) (.service (.command s c)) w =
        (B.forwarding depth (w.profile s).lower s c).asCall (.service (.command s c)) w := by
      rw [perform_command]
      simp only [Run.asCall]
      rw [run_command created free c, Command.refusal?_eq_none_iff.mpr admitted]
    refine ⟨run, ?_⟩
    intro x hx
    rw [run] at hx
    simp only [Run.asCall] at hx
    cases hy : B.forwarding depth (w.profile s).lower s c w with
    | error e =>
      rw [hy] at hx
      cases hx
    | ok y =>
      rw [hy] at hx
      cases hx
      obtain ⟨told, v, answer, v', nested, noted, calls, rest⟩ := forwarding_spec hy
      refine ⟨told, v, answer, v', nested, noted, ?_, rest⟩
      rw [← calls]
  · intro refused
    obtain ⟨r, hr⟩ : ∃ r, c.refusal? (w.block s) = some r := by
      rw [← Option.isSome_iff_exists, Option.isSome_iff_ne_none]
      exact mt Command.refusal?_eq_none_iff.mp refused
    have run : B.perform (depth + 1) (.service (.command s c)) w =
        ((B.tell depth (some (.refused r))).bind fun _ => Run.pure ⟨.error c.denial, c⟩).asCall
          (.service (.command s c)) w := by
      rw [perform_command]
      simp only [Run.asCall]
      rw [run_command created free c, hr, ← Command.error_of_refusal? hr]
      rfl
    refine ⟨r, run, ?_⟩
    intro x hx
    rw [run] at hx
    simp only [Run.asCall, Run.bind, tell] at hx
    cases hy : B.perform depth (.peer (.log (.refused r))) w with
    | error e =>
      rw [hy] at hx
      cases hx
    | ok y =>
      rw [hy] at hx
      cases hx
      obtain ⟨d, inner, -, -, calls⟩ := exists_of_perform hy
      refine ⟨.node (.peer (.log (.refused r))) w y.result y.world inner, ?_, rfl, rfl, ?_⟩
      · simp [calls]
      · intro κ f keep
        exact keep _ w y hy
  · intro answer
    exact ⟨c.request_concluded answer, fun typed => c.result_concluded typed answer⟩

/-- On a new device, a command that locks the limits is passed on and locks them, and a command to
start is not passed on. -/
theorem command_dispatched_locking :
    ∃ w : World Unit, 0 < w.issued ∧ (w.control 0).held = false ∧
      (∃ x, (Board.obedient (pure (.ok ()))).perform 4
          (.service (.command 0 (.setLimits ⟨.zero, true⟩))) w = .ok x ∧
        (x.world.block 0).limits = ⟨.zero, true⟩ ∧
        ∃ v answer v' nested, x.result = (Command.setLimits ⟨.zero, true⟩).concluded answer ∧
          ∃ told noted,
            x.calls = [.node (.service (.command 0 (.setLimits ⟨.zero, true⟩))) w x.result x.world
              (told ++ .node (.peer (.operate .driver 0 0 .limitsSet ⟨.zero, true⟩)) v answer v'
                nested :: noted)]) ∧
      ∃ x t, (Board.obedient (pure (.ok ()))).perform 4 (.service (.command 0 .start)) w = .ok x ∧
        x.calls = [.node (.service (.command 0 .start)) w x.result x.world [t]] ∧
        x.result = ⟨.error .permissionDenied, .start⟩ := by
  refine ⟨(World.initial ()).create ⟨0, 0, Config.default⟩, by decide, rfl, ?_, ?_⟩
  · have locks : ((Board.obedient (pure (.ok ()))).perform 4
        (.service (.command 0 (.setLimits ⟨.zero, true⟩)))
        ((World.initial ()).create ⟨0, 0, Config.default⟩)).map
          (fun x => (x.world.block 0).limits) = .ok ⟨.zero, true⟩ := by decide +kernel
    obtain ⟨passed, -⟩ := command_dispatched (Board.obedient (pure (.ok ()))) 3
      (w := (World.initial ()).create ⟨0, 0, Config.default⟩) (s := 0) (by decide) rfl
      (Command.setLimits ⟨.zero, true⟩)
    cases hx : (Board.obedient (pure (.ok ()))).perform 4
        (.service (.command 0 (.setLimits ⟨.zero, true⟩)))
        ((World.initial ()).create ⟨0, 0, Config.default⟩) with
    | error e =>
      rw [hx] at locks
      cases locks
    | ok x =>
      rw [hx] at locks
      obtain ⟨told, v, answer, v', nested, noted, calls, -, result, -⟩ := (passed rfl).2 x hx
      exact ⟨x, rfl, Except.ok.inj locks, v, answer, v', nested, result, told, noted, calls⟩
  · obtain ⟨-, refused, -⟩ := command_dispatched (Board.obedient (pure (.ok ()))) 3
      (w := (World.initial ()).create ⟨0, 0, Config.default⟩) (s := 0) (by decide) rfl .start
    obtain ⟨r, run, result⟩ := refused fun admitted => nomatch admitted.1
    obtain ⟨t, calls, -, denied, -⟩ := result _ rfl
    exact ⟨_, t, rfl, calls, denied⟩

end Board

end LedDriver
