import LedDriver.Proofs.ControlBlock.Latch

/-!
# Starting the output

The driver checks a snapshot of the control block before it starts the output, and holds nothing
between the check and the start.  The check is safe all the same, since what it requires of the
limits cannot change once the limits are locked.

`Session.start_record` tells what a start that ended has done, and `Session.start_checked` what one
that reaches the lower half has seen.  From these and from the latch of the limits it follows that
the limits are locked and positive whenever the lower half is called, and ever after, and that the
limits' part of the check gives the same answer for ever once the limits are locked
(`Runs.start_safe`).
-/

namespace LedDriver

variable {σ α : Type} {n : Nat}

/-- The limits are locked and allow a positive current. -/
def Limits.Ready (l : Limits) : Prop := l.lock = true ∧ l.isPositive = true

/-- A positive current is a number, is not zero, and is not negative. -/
lemma Limits.isPositive_iff {l : Limits} : l.isPositive = true ↔
    l.current.isNaN = false ∧ l.current.isZero = false ∧ l.current.negative = false := by
  have zero : Binary32.zero.isNaN = false ∧ Binary32.zero.rank = 0 := by decide
  have sign : 0 < l.current.rank ↔ l.current.isZero = false ∧ l.current.negative = false := by
    unfold Binary32.rank Binary32.isZero
    cases l.current.negative with
    | false => simp [Nat.pos_iff_ne_zero]
    | true => simp
  simp [isPositive, Binary32.lt, zero.1, zero.2, sign]

/-- The call with which the driver starts the output of a session. -/
def Call.start (h : LowerId) (s : SessionId) : Call := .peer (.operate .driver h s .start ())

/-- The policy refused the command that did these deeds. -/
def WasRefused (d : List (Deed σ)) : Prop := ∃ r, Deed.received (.peer (.log (.refused r))) () ∈ d

/-- The output cannot run in a mode that is neither continuous nor flashing. -/
lemma OpMode.isRunnable_eq_false_iff {m : OpMode} :
    m.isRunnable = false ↔ m ≠ .continuous ∧ m ≠ .flash := by
  simp [isRunnable]

namespace Session

/-- The limits' part of the check of a start, and the part of the mode. -/
lemma startRefusal?_eq_none_iff {b : ControlBlock} :
    b.startRefusal? = none ↔ b.limits.Ready ∧ b.mode.isRunnable = true := by
  unfold ControlBlock.startRefusal? Limits.Ready
  cases b.limits.lock <;> cases b.limits.isPositive <;> cases b.mode.isRunnable <;> simp

/-- What the program of a start does after it looked at the control block. -/
def startChecked (s : SessionId) (b : ControlBlock) : Action σ CommandAnswer :=
  match b.startRefusal? with
  | some r => do
    (Peer.log (.refused r)).make
    pure (Command.start.rejected r.error)
  | none => forward s .start

/-- The program of a start: it takes a snapshot under the lock, and goes on without it. -/
lemma command_start (s : SessionId) :
    (command s .start : Action σ _) = .ask (.atom (.acquire (.control s))) fun _ =>
      .ask (.atom (.control s .snapshot)) fun b =>
        .ask (.atom (.release (.control s))) fun _ => startChecked s b := rfl

/-- A start that does something has a snapshot first, or is about to take one. -/
lemma follows_start {s : SessionId} {d : List (Deed σ)} {q : Action σ CommandAnswer}
    (h : Follows (command s .start) d q) :
    (∃ a next, q = .ask (.atom a) next) ∨
      ∃ b d', d = .acted (.acquire (.control s)) () :: .acted (.control s .snapshot) b ::
        .acted (.release (.control s)) () :: d' ∧ Follows (startChecked s b) d' q := by
  rw [command_start] at h
  obtain ⟨-, rfl⟩ | ⟨_, d₁, rfl, h₁⟩ := follows_atom_iff.mp h
  · exact .inl ⟨_, _, rfl⟩
  obtain ⟨-, rfl⟩ | ⟨b, d₂, rfl, h₂⟩ := follows_atom_iff.mp h₁
  · exact .inl ⟨_, _, rfl⟩
  obtain ⟨-, rfl⟩ | ⟨_, d₃, rfl, h₃⟩ := follows_atom_iff.mp h₂
  · exact .inl ⟨_, _, rfl⟩
  exact .inr ⟨b, d₃, rfl, h₃⟩

/-- A start that calls the lower half has seen limits and a mode that it accepts. -/
lemma start_checked {s : SessionId} {d : List (Deed σ)} {h : LowerId}
    {next : Except DeviceError Unit → Action σ CommandAnswer}
    (hf : Follows (command s .start) d (.ask (.call (.start h s)) next)) :
    ∃ b, Deed.acted (.control s .snapshot) b ∈ d ∧ b.limits.Ready ∧ b.mode.isRunnable = true := by
  obtain ⟨_, _, hq⟩ | ⟨b, d', rfl, hc⟩ := follows_start hf
  · cases hq
  · refine ⟨b, by simp, startRefusal?_eq_none_iff.mp ?_⟩
    unfold startChecked at hc
    split at hc
    · obtain ⟨-, hq⟩ | ⟨_, _, rfl, hd⟩ := follows_call_iff.mp hc
      · cases hq
      · obtain ⟨-, hq⟩ := follows_done_iff.mp hd
        cases hq
    · assumption

/-- A start that ended has taken one snapshot.  If the snapshot was refused, the lower half was not
called and the client is told that it has no permission; otherwise the lower half was called. -/
lemma start_record {s : SessionId} {d : List (Deed σ)} {r : CommandAnswer}
    (hf : Follows (command s .start) d (.done r)) :
    ∃ b, Deed.acted (.control s .snapshot) b ∈ d ∧
      ((b.startRefusal? ≠ none ∧ WasRefused d ∧ (∀ h x, Deed.received (.start h s) x ∉ d) ∧
          r = Command.start.rejected .permissionDenied) ∨
        (b.startRefusal? = none ∧ ¬ WasRefused d ∧ ∃ h x, Deed.received (.start h s) x ∈ d)) := by
  obtain ⟨_, _, hq⟩ | ⟨b, d', rfl, hc⟩ := follows_start hf
  · cases hq
  refine ⟨b, by simp, ?_⟩
  unfold startChecked at hc
  split at hc
  · next e he =>
    left
    obtain ⟨_, _, rfl, hd⟩ := hc.of_call
    obtain ⟨rfl, rfl⟩ := hd.of_done
    refine ⟨by simp [he], ⟨e, by simp⟩, by simp [Call.start], ?_⟩
    unfold ControlBlock.startRefusal? at he
    split at he
    · cases he
      rfl
    · split at he
      · cases he
        rfl
      · cases he
  · next he =>
    right
    obtain ⟨p, d₁, rfl, h₁⟩ := hc.of_atom
    obtain ⟨x, d₂, rfl, h₂⟩ := h₁.of_call
    refine ⟨he, ?_, p.lower, x, by simp [Call.start]⟩
    cases x with
    | ok _ =>
      obtain ⟨rfl, -⟩ := h₂.of_done
      simp [WasRefused]
    | error e =>
      obtain ⟨_, d₃, rfl, h₃⟩ := h₂.of_call
      obtain ⟨rfl, -⟩ := h₃.of_done
      simp [WasRefused, Command.failureNotice]

end Session

/-- Only a start that was admitted makes the driver call the lower half to start. -/
lemma Call.eq_of_asks_start {c : Call} {h : LowerId} {s : SessionId}
    (ha : c.Asks (.call (.start h s) : Request σ)) : c = .service (.command s .start) := by
  generalize hq : (Request.call (Call.start h s) : Request σ) = q at ha
  cases ha <;> try cases hq
  next c _ =>
    cases c <;> cases hq
    rfl

namespace Pool

variable {B : Board σ} {P Q R : Pool n σ α} {l l' : List (Fin n × Label σ)} {own : σ}
  {clients : Fin n → Reaction σ α} {s : SessionId}

/-- When the driver starts the output, it does so for a start with a snapshot that it accepts, and
the limits are as the snapshot shows them. -/
lemma Runs.exists_start (run : Runs B (start own clients) l P) {i : Fin n} {h : LowerId}
    (step : Step B P (i, .called (.start h s)) Q) :
    ∃ f ∈ (P.parties i).frames, f.owner = some (.service (.command s .start)) ∧
      ∃ b, Deed.acted (.control s .snapshot) b ∈ f.past ∧ b.limits.Ready ∧
        b.mode.isRunnable = true ∧ (P.world.block s).limits = b.limits := by
  obtain ⟨old, new, rest, hold, -, -, turn⟩ := run.turn step
  generalize Q.world = w at turn
  generalize hc : Call.start h s = c at turn
  cases turn with
  | @call o w₀ d _ ask =>
    subst hc
    have frame : ⟨o, w₀, d, none⟩ ∈ (P.parties i).frames := by simp [hold]
    cases o with
    | none => cases ask.allows
    | some c =>
      obtain rfl := Call.eq_of_asks_start ask.allows
      obtain ⟨next, hf⟩ := ask
      obtain ⟨b, hb, ready, runnable⟩ := Session.start_checked hf
      refine ⟨_, frame, rfl, b, hb, ready, runnable, ?_⟩
      exact run.frame_of_progress (frameInvariant_snapshot s .limits) frame b hb ready.1

/-- Starting is safe without a lock.  Whenever the driver starts the output, the limits are locked
and positive, and so they are ever after; and once the limits are locked, every start that begins
sees the same limits, so that it is refused always if they are not positive, and otherwise exactly
when it sees a mode in which the output cannot run. -/
theorem Runs.start_safe (run : Runs B (start own clients) l P) (later : Runs B P l' Q)
    (s : SessionId) :
    (∀ i h R, Step B P (i, .called (.start h s)) R →
      (∀ b ∈ [P.world.block s, Q.world.block s], b.limits.Ready ∧ b.limits.current.isNaN = false ∧
        b.limits.current.isZero = false ∧ b.limits.current.negative = false) ∧
      ∃ f ∈ (P.parties i).frames, f.owner = some (.service (.command s .start)) ∧
        ∃ b, Deed.acted (.control s .snapshot) b ∈ f.past ∧
          b.limits = (P.world.block s).limits ∧ b.mode.isRunnable = true) ∧
    ((P.world.block s).limits.lock = true →
      ((P.world.block s).limits.isPositive = false →
        ∀ i h, (i, Label.called (.start h s)) ∉ l') ∧
      ∀ i w r d, (i, Label.returned (.service (.command s .start)) w r d) ∈ l' →
        (w.block s).limits.lock = true →
        ∃ b, Deed.acted (.control s .snapshot) b ∈ d ∧ b.limits = (P.world.block s).limits ∧
          (b.limits.isPositive = false → WasRefused d) ∧
          (b.limits.isPositive = true →
            (WasRefused d ↔ b.mode ≠ .continuous ∧ b.mode ≠ .flash)) ∧
          (WasRefused d → r = Command.start.rejected .permissionDenied) ∧
          (WasRefused d ↔ ∀ h x, Deed.received (.start h s) x ∉ d)) := by
  have ready_of_start {l₁ R i h S} (run : Runs B (start own clients) l₁ R)
      (step : Step B R (i, .called (.start h s)) S) : (R.world.block s).limits.Ready := by
    obtain ⟨_, -, -, b, -, ready, -, same⟩ := run.exists_start step
    rw [same]
    exact ready
  refine ⟨fun i h R step => ⟨?_, ?_⟩, fun locked => ⟨?_, ?_⟩⟩
  · have now := ready_of_start run step
    have same : (Q.world.block s).limits = (P.world.block s).limits :=
      run.stored_eq (k := .limits) later now.1
    have then_ : (Q.world.block s).limits.Ready := same ▸ now
    rintro b hb
    rcases List.mem_pair.mp hb with rfl | rfl
    · exact ⟨now, Limits.isPositive_iff.mp now.2⟩
    · exact ⟨then_, Limits.isPositive_iff.mp then_.2⟩
  · obtain ⟨f, hf, owner, b, hb, -, runnable, same⟩ := run.exists_start step
    exact ⟨f, hf, owner, b, hb, same.symm, runnable⟩
  · intro notPositive i h he
    obtain ⟨_, _, R, S, -, before, step, -⟩ := later.exists_step he
    have same : (R.world.block s).limits = (P.world.block s).limits :=
      run.stored_eq (k := .limits) before locked
    have ready := ready_of_start (run.trans before) step
    rw [same, Limits.Ready, notPositive] at ready
    exact Bool.noConfusion ready.2
  · intro i w r d he begun
    obtain ⟨_, _, R, S, -, before, step, -⟩ := later.exists_step he
    obtain ⟨frame, hf⟩ := (run.trans before).frame_of_return step
    obtain ⟨since, -, shown⟩ :=
      (run.trans before).frame_of_progress (frameInvariant_locked s .limits) frame begun
    have same := run.stored_eq (k := .limits) before locked
    obtain ⟨b, hb, outcome⟩ := Session.start_record hf
    have seen : b.limits = (P.world.block s).limits := (shown b hb).trans (since.symm.trans same)
    refine ⟨b, hb, seen, ?_⟩
    rw [← OpMode.isRunnable_eq_false_iff]
    rcases outcome with ⟨refused, was, uncalled, hr⟩ | ⟨admitted, wasNot, h, x, called⟩
    · refine ⟨fun _ => was, fun positive => iff_of_true was ?_, fun _ => hr,
        iff_of_true was uncalled⟩
      have ready : b.limits.Ready := ⟨seen ▸ locked, positive⟩
      by_contra runnable
      exact refused (Session.startRefusal?_eq_none_iff.mpr ⟨ready, by simpa using runnable⟩)
    · obtain ⟨ready, runnable⟩ := Session.startRefusal?_eq_none_iff.mp admitted
      refine ⟨fun notPositive => ?_, fun _ => iff_of_false wasNot ?_, fun was => absurd was wasNot,
        iff_of_false wasNot fun uncalled => uncalled h x called⟩
      · rw [Limits.Ready, notPositive] at ready
        exact Bool.noConfusion ready.2
      · simp [runnable]

/-- A client that starts the output of a device twice: with limits alone, and with a mode as
well. -/
def startingTwice : Reaction Unit Unit := do
  let _ ← (Service.register ⟨"/dev/led", 0, 0, Config.default, none⟩).use
  let _ ← (Service.command 0 (.setLimits ⟨⟨0x3F800000⟩, true⟩)).use
  let _ ← (Service.command 0 .start).use
  let _ ← (Service.command 0 (.setMode .flash)).use
  let _ ← (Service.command 0 .start).use
  pure ()

/-- The second start of this client reaches the lower half. -/
theorem start_safe_startingTwice :
    ∃ (l l' : List (Fin 1 × Label Unit)) (P Q R : Pool 1 Unit Unit),
      Runs (.obedient (pure (.ok ()))) (start () fun _ => startingTwice) l P ∧
        Runs (.obedient (pure (.ok ()))) P l' Q ∧
        Step (.obedient (pure (.ok ()))) P (0, .called (.start 0 0)) R ∧
        (P.world.block 0).limits.Ready ∧ (Q.world.block 0).limits.Ready := by
  let B : Board Unit := .obedient (pure (.ok ()))
  let P₀ : Pool 1 Unit Unit := start () fun _ => startingTwice
  have h₁ : (P₀.play B (.replicate 45 0)).isSome := rfl
  have h₂ : (((P₀.play B (.replicate 45 0)).get h₁).2.play B (.replicate 3 0)).isSome := rfl
  have first := runs_of_isSome h₁
  have second := runs_of_isSome h₂
  have step : Step B ((P₀.play B (.replicate 45 0)).get h₁).2 (0, .called (.start 0 0)) _ :=
    .party (step_of_step? rfl)
  obtain ⟨safe, -⟩ := first.start_safe second 0
  obtain ⟨ready, -⟩ := safe 0 0 _ step
  exact ⟨_, _, _, _, _, first, second, step, (ready _ (by simp)).1, (ready _ (by simp)).1⟩

end Pool

end LedDriver
