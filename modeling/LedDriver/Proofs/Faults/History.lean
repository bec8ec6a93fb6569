import LedDriver.Proofs.Faults.Changes

/-!
# The history of the faults

What a client has done to the faults of a device can be read off the calls that it made: each fault
of the byte is a register of its own, which is written by the commands to raise and to clear faults
that have it in their byte and succeed (`CallTree.lastWrite?`).  `World.Written` says that between
two worlds the faults have become what was written to them.  One call of a client is such a passage
(`AppliesFaults.written_of_perform`), passages can be put together (`World.Written.trans`), and so a
whole run is one up to each of its calls and to its end (`AppliesFaults.written_of_run`).  The
theorem `AppliesFaults.faults_last_writer` is about a device that begins without faults.
-/

namespace LedDriver

variable {σ α : Type}

namespace CallTree

/-- What a call has written to a fault of a session: a command to raise or to clear faults has done
so if it succeeded and the fault is among them. -/
def faultWrite? (s : SessionId) (i : Nat) : CallTree σ → Option Bool
  | node (.service (.command t (.setFault f))) _ x _ _ =>
    if t = s ∧ x.result.isOk = true ∧ f.has i = true then some true else none
  | node (.service (.command t (.cleanFault f))) _ x _ _ =>
    if t = s ∧ x.result.isOk = true ∧ f.has i = true then some false else none
  | _ => none

/-- What some calls, one after the other, have written last to a fault of a session. -/
def lastWrite? (s : SessionId) (i : Nat) (ts : List (CallTree σ)) : Option Bool :=
  (ts.filterMap (faultWrite? s i)).getLast?

variable {s : SessionId} {i : Nat}

/-- Of two parts of a history the later one counts, unless nothing was written in it. -/
lemma lastWrite?_append (ts us : List (CallTree σ)) :
    lastWrite? s i (ts ++ us) = (lastWrite? s i us).or (lastWrite? s i ts) := by
  rw [lastWrite?, List.filterMap_append, List.getLast?_append]
  rfl

lemma lastWrite?_singleton (t : CallTree σ) : lastWrite? s i [t] = t.faultWrite? s i := by
  unfold lastWrite?
  cases h : t.faultWrite? s i <;> simp [h]

/-- A change of the faults writes to those in its byte if it succeeds. -/
lemma faultWrite?_change (y : FaultChange) (w v : World σ) (x : CommandAnswer)
    (inner : List (CallTree σ)) :
    (node (.service (.command s y.command)) w x v inner).faultWrite? s i =
      if x.result.isOk && y.faults.has i then some y.present else none := by
  cases y <;> simp [faultWrite?, FaultChange.faults, FaultChange.present]

/-- Nothing else writes to the faults. -/
lemma faultWrite?_eq_none {t : CallTree σ} (h : ¬ t.call.ChangesFault s) :
    t.faultWrite? s i = none := by
  unfold faultWrite?
  split
  · exact if_neg fun both => h ⟨both.1, trivial⟩
  · exact if_neg fun both => h ⟨both.1, trivial⟩
  · rfl

end CallTree

open CallTree

/-- After some calls each fault of a session is as it was last written, or as it was before if it
was not written. -/
structure World.Written (s : SessionId) (h : LowerId) (w : World σ) (ts : List (CallTree σ))
    (v : World σ) : Prop where
  attached : v.Attached s h
  fault : ∀ i, (v.block s).fault.has i = (lastWrite? s i ts).getD ((w.block s).fault.has i)

variable {s : SessionId} {h : LowerId}

lemma World.Attached.written {w : World σ} (attached : w.Attached s h) : w.Written s h [] w :=
  ⟨attached, fun _ => rfl⟩

lemma World.Written.trans {u v w : World σ} {ts us : List (CallTree σ)} (first : u.Written s h ts v)
    (second : v.Written s h us w) : u.Written s h (ts ++ us) w where
  attached := second.attached
  fault i := by rw [second.fault, first.fault, lastWrite?_append, Option.getD_or]

namespace Board.AppliesFaults

variable {B : Board σ} {depth : Nat} {w : World σ}

/-- A call of a client that changes the faults by commands only. -/
lemma written_of_perform (lower : B.AppliesFaults s h) (attached : w.Attached s h) {c : Service}
    (allowed : c.ChangesFault s → ∃ c', c = .command s c') {x : Outcome σ c.Answer}
    (hx : B.perform depth (.service c) w = .ok x) : w.Written s h x.calls x.world := by
  obtain ⟨d, inner, -, -, calls⟩ := exists_of_perform hx
  refine ⟨attached_of_perform attached hx, fun i => ?_⟩
  rw [calls, lastWrite?_singleton]
  by_cases changes : c.ChangesFault s
  · obtain ⟨c, rfl⟩ := allowed changes
    obtain ⟨y, rfl⟩ := Command.exists_change changes.2
    rw [faultWrite?_change, (lower.of_change attached hx).1 i]
    split <;> rfl
  · have changes : ¬ (Call.service c).ChangesFault s := changes
    rw [faultWrite?_eq_none (t := .node _ w x.result x.world inner) changes,
      fault_eq_of_perform lower attached changes hx]
    rfl

/-- At the end of a run of a client, and whenever it makes a call, the faults are as it wrote them
last. -/
lemma written_of_run (lower : B.AppliesFaults s h) {client : Reaction σ α}
    (keep : client.Only (Use.Within fun c => c.ChangesFault s → ∃ c', c = .command s c'))
    (attached : w.Attached s h) {x : Outcome σ α} (run : B.run depth client.action w = .ok x) :
    w.Written s h x.calls x.world ∧
      ∀ l t r, x.calls = l ++ t :: r → w.Written s h l t.before := by
  induction client generalizing w x with
  | done a =>
    obtain rfl := run_done_iff.mp run
    exact ⟨attached.written, fun l t r whole => by simp at whole⟩
  | ask u next ih =>
    cases u with
    | own f =>
      have first : w.Written s h [] { w with own := f w.own } :=
        ⟨⟨attached.created, attached.lower⟩, fun _ => rfl⟩
      obtain ⟨last, before⟩ := ih _ (keep.2 _) first.attached (run_own_iff.mp run)
      exact ⟨first.trans last, fun l t r whole => first.trans (before l t r whole)⟩
    | service c =>
      obtain ⟨y, z, hy, rest, rfl⟩ := run_use_iff.mp run
      have first := lower.written_of_perform attached keep.1 hy
      obtain ⟨last, before⟩ := ih _ (keep.2 _) first.attached rest
      refine ⟨first.trans last, fun l t r whole => ?_⟩
      obtain ⟨d, inner, -, -, calls⟩ := exists_of_perform hy
      rw [calls] at first
      simp only [calls, List.singleton_append] at whole
      -- The call in question is this one, or it is made in what is left of the client.
      cases l with
      | nil =>
        cases whole
        exact attached.written
      | cons t' l =>
        obtain ⟨rfl, others⟩ := List.cons.inj whole
        exact first.trans (before l t r others)

/-- Each fault of a session is a register that holds what was last written to it: whatever a client
does, as long as it changes the faults by commands, and whatever fails, a fault is there exactly if
the last command to raise or to clear it that succeeded was one to raise it.  So it is whenever the
client makes a call, and at the end.  A command that asks for the faults, or for the coarse state,
and succeeds is told all of them, and a command about the faults leaves the mode, the limits and the
parameters as they are. -/
theorem faults_last_writer (lower : B.AppliesFaults s h) {client : Reaction σ α}
    (keep : client.Only (Use.Within fun c => c.ChangesFault s → ∃ c', c = .command s c'))
    (attached : w.Attached s h) (clear : (w.block s).fault = Flags.empty)
    {x : Outcome σ α} (run : B.run depth client.action w = .ok x) :
    (∀ i, (x.world.block s).fault.has i = true ↔ lastWrite? s i x.calls = some true) ∧
      ∀ l t r, x.calls = l ++ t :: r →
        (∀ i, (t.before.block s).fault.has i = true ↔ lastWrite? s i l = some true) ∧
        (∀ held u y v inner, t = .node (.service (.command s (.getFault held))) u y v inner →
          ∀ z, y.result = .ok z → y.command = .getFault (t.before.block s).fault) ∧
        (∀ held u y v inner, t = .node (.service (.command s (.getState held))) u y v inner →
          ∀ z, y.result = .ok z → ∃ st, y.command = .getState ⟨st, (t.before.block s).fault⟩) ∧
        ∀ f, t.call = .service (.command s (.setFault f)) ∨
            t.call = .service (.command s (.cleanFault f)) ∨
            t.call = .service (.command s (.getFault f)) →
          (t.before.block s).SameSetup (t.after.block s) := by
  have register {ts : List (CallTree σ)} {v : World σ} (written : w.Written s h ts v) (i : Nat) :
      (v.block s).fault.has i = true ↔ lastWrite? s i ts = some true := by
    rw [written.fault, clear, Flags.has_empty]
    cases lastWrite? s i ts <;> simp
  obtain ⟨last, before⟩ := lower.written_of_run keep attached run
  refine ⟨register last, fun l t r whole => ?_⟩
  have begun := before l t r whole
  have performed := perform_of_mem run (t := t) (by simp [whole])
  refine ⟨register begun, ?_, ?_, ?_⟩
  · rintro held u y v inner rfl z ok
    exact (lower.of_getFault begun.attached performed).1 z ok
  · rintro held u y v inner rfl z ok
    exact lower.of_getState begun.attached performed ok
  · obtain ⟨c, u, y, v, inner⟩ := t
    rintro f (called | called | called)
    · obtain rfl : c = .service (.command s (FaultChange.raise f).command) := called
      exact (lower.of_change begun.attached performed).2
    · obtain rfl : c = .service (.command s (FaultChange.clear f).command) := called
      exact (lower.of_change begun.attached performed).2
    · obtain rfl : c = .service (.command s (.getFault f)) := called
      exact (lower.of_getFault begun.attached performed).2

end Board.AppliesFaults

/-! ## A lower half that fails now and then -/

/-- A lower half that keeps account of the faults in the control block, but fails to raise them
every other time. -/
def LowerHalf.flaky : LowerHalf Bool where
  provided := pure Flags.all
  operate s
    | .faultSet, f => do
      if ← Reaction.own not then pure (.error .io)
      else do
        (Service.control s (.raiseFault f)).use
        (Service.control s (.setState .fault)).use
        pure (.ok ())
    | .faultClean, f => do
      (Service.control s (.clearFault f)).use
      pure (.ok ())
    | .faultGet, _ => do
      let f ← (Service.control s .faults).use
      pure (.ok (), f)
    | .stateGet, _ => do
      let st ← (Service.control s .state).use
      pure (.ok (), st)
    | o, args => pure (o.succeeded args)
  discard := pure ()

namespace Board

/-- A board with such a lower half. -/
def flaky : Board Bool := { Board.obedient (pure (.ok ())) with lower := fun _ => LowerHalf.flaky }

variable {depth : Nat} {s : SessionId}

/-- What uses control blocks with methods that do not change the faults of a session leaves them as
they are. -/
lemma fault_eq_of_reaction {B : Board σ} {r : Reaction σ α}
    (hr : r.Only (Use.Within fun c => ∃ t m, c = .control t m ∧ ¬ (t = s ∧ m.ChangesFault)))
    {w : World σ} {x : Outcome σ α} (run : B.run depth r.action w = .ok x) :
    (x.world.block s).fault = (w.block s).fault := by
  induction r generalizing w x with
  | done a =>
    obtain rfl := run_done_iff.mp run
    rfl
  | ask u next ih =>
    cases u with
    | own f =>
      have kept := ih _ (hr.2 _) (run_own_iff.mp run)
      exact kept
    | service c =>
      obtain ⟨t, m, rfl, spares⟩ := hr.1
      obtain ⟨y, z, used, rest, rfl⟩ := run_use_iff.mp run
      exact (ih _ (hr.2 _) rest).trans ((perform_control used).2 ▸ w.fault_revise spares)

/-- Apart from its changes of the faults, the board uses no control block to change them. -/
lemma flaky_only {p : Peer} (hp : ¬ (Call.peer p).ChangesFault s) : (flaky.reaction p).Only
    (Use.Within fun c => ∃ t m, c = .control t m ∧ ¬ (t = s ∧ m.ChangesFault)) := by
  cases p with
  | operate caller h t o args =>
    cases o with
    | faultSet =>
      have off (m : ControlMethod) : ¬ (t = s ∧ m.ChangesFault) := fun both => hp ⟨both.1, trivial⟩
      refine ⟨trivial, fun refused => ?_⟩
      cases refused with
      | true => trivial
      | false => exact ⟨⟨t, _, rfl, off _⟩, fun _ => ⟨⟨t, _, rfl, off _⟩, fun _ => trivial⟩⟩
    | faultClean => exact ⟨⟨t, _, rfl, fun both => hp ⟨both.1, trivial⟩⟩, fun _ => trivial⟩
    | faultGet | stateGet => exact ⟨⟨t, _, rfl, And.right⟩, fun _ => trivial⟩
    | setup | shutdown | start | stop | modeSet | limitsSet | paramsSet | ioctl => trivial
  | provided | discard | enter | leave | checkWait | relax | log | publish => trivial

/-- The lower half of the board keeps account of the faults of every session. -/
lemma flaky_appliesFaults (s : SessionId) (h : LowerId) : flaky.AppliesFaults s h where
  raises f caller depth w y _ hy := by
    obtain ⟨d, inner, -, run, -⟩ := exists_of_perform hy
    have chosen := run_own_iff.mp run
    obtain ⟨issued, profile, control, count, semaphore, table, own⟩ := w
    cases own with
    | true =>
      obtain ⟨result, world, -⟩ := (Outcome.mk.injEq ..).mp (run_done_iff.mp chosen)
      rw [result, world]
      rfl
    | false =>
      obtain ⟨u, z, raised, rest, whole⟩ := run_use_iff.mp chosen
      obtain ⟨u', z', stated, last, rfl⟩ := run_use_iff.mp rest
      obtain rfl := run_done_iff.mp last
      obtain ⟨result, world, -⟩ := (Outcome.mk.injEq ..).mp whole
      rw [result, world, (perform_control stated).2, World.block_revise, (perform_control raised).2,
        World.block_revise]
      exact ⟨.fault, rfl⟩
  clears f caller depth w y _ hy := by
    obtain ⟨d, inner, -, run, -⟩ := exists_of_perform hy
    obtain ⟨u, z, cleared, last, whole⟩ := run_use_iff.mp run
    obtain rfl := run_done_iff.mp last
    obtain ⟨result, world, -⟩ := (Outcome.mk.injEq ..).mp whole
    rw [result, world, (perform_control cleared).2, World.block_revise]
    exact ⟨_, rfl⟩
  spares p depth w y _ hp hy := by
    obtain ⟨d, inner, -, run, -⟩ := exists_of_perform hy
    exact fault_eq_of_reaction (x := ⟨y.result, y.world, inner⟩) (flaky_only hp) run
  tellsFaults held caller depth w y _ hy := by
    obtain ⟨d, inner, -, run, -⟩ := exists_of_perform hy
    obtain ⟨u, z, read, last, whole⟩ := run_use_iff.mp run
    obtain rfl := run_done_iff.mp last
    obtain ⟨result, world, -⟩ := (Outcome.mk.injEq ..).mp whole
    rw [result, world, (perform_control read).1, (perform_control read).2, World.block_revise]
    exact ⟨.refl _, fun _ => rfl⟩
  tellsState held caller depth w y _ hy := by
    obtain ⟨d, inner, -, run, -⟩ := exists_of_perform hy
    obtain ⟨u, z, read, last, whole⟩ := run_use_iff.mp run
    obtain rfl := run_done_iff.mp last
    obtain ⟨result, -⟩ := (Outcome.mk.injEq ..).mp whole
    rw [result, (perform_control read).1]
    exact fun _ => rfl
  journal n depth w y _ hy := by
    obtain ⟨d, inner, -, run, -⟩ := exists_of_perform hy
    obtain ⟨-, world, -⟩ := (Outcome.mk.injEq ..).mp (run_done_iff.mp run)
    rw [world]
    exact .refl _

end Board

/-- A client that opens a device, raises faults twice, where the first time fails and some of the
faults have no name, clears one of them, asks which are left, and closes the device. -/
def Reaction.faultingTwice : Reaction Bool (CommandAnswer × CommandAnswer) := do
  let _ ← (Service.openDevice 0).use
  let _ ← (Service.command 0 (.setFault ⟨0x01⟩)).use
  let _ ← (Service.command 0 (.setFault ⟨0x90⟩)).use
  let _ ← (Service.command 0 (.cleanFault ⟨0x80⟩)).use
  let faults ← (Service.command 0 (.getFault Flags.empty)).use
  let state ← (Service.command 0 (.getState ⟨.init, Flags.empty⟩)).use
  let _ ← (Service.closeDevice 0).use
  pure (faults, state)

open Board in
/-- Of the faults that this client raises, one was not raised, one was raised and cleared, and one
without a name is left. -/
theorem faults_last_writer_faultingTwice :
    ∃ x, flaky.run 6 Reaction.faultingTwice.action
        ((World.initial true).create ⟨0, 0, Config.default⟩) = .ok x ∧
      x.result.1.command = .getFault ⟨0x10⟩ ∧ x.result.2.command = .getState ⟨.fault, ⟨0x10⟩⟩ ∧
      lastWrite? 0 0 x.calls = none ∧ (x.world.block 0).fault.has 0 = false ∧
      lastWrite? 0 4 x.calls = some true ∧ (x.world.block 0).fault.has 4 = true ∧
      lastWrite? 0 7 x.calls = some false ∧ (x.world.block 0).fault.has 7 = false := by
  let w : World Bool := (World.initial true).create ⟨0, 0, Config.default⟩
  have answers : (flaky.run 6 Reaction.faultingTwice.action w).map
      (fun x => (x.result.1.command, x.result.2.command)) =
        .ok (.getFault ⟨0x10⟩, .getState ⟨.fault, ⟨0x10⟩⟩) := by decide +kernel
  have writes : (flaky.run 6 Reaction.faultingTwice.action w).map
      (fun x => [0, 4, 7].map fun i => lastWrite? 0 i x.calls) =
        .ok [none, some true, some false] := by decide +kernel
  cases hx : flaky.run 6 Reaction.faultingTwice.action w with
  | error e =>
    rw [hx] at answers
    cases answers
  | ok x =>
    rw [hx] at answers writes
    have keep : Reaction.faultingTwice.Only (Use.Within fun c =>
        c.ChangesFault 0 → ∃ c', c = .command 0 c') :=
      ⟨False.elim, fun _ => ⟨fun _ => ⟨_, rfl⟩, fun _ => ⟨fun _ => ⟨_, rfl⟩, fun _ =>
        ⟨fun _ => ⟨_, rfl⟩, fun _ => ⟨fun _ => ⟨_, rfl⟩, fun _ => ⟨fun _ => ⟨_, rfl⟩, fun _ =>
          ⟨False.elim, fun _ => trivial⟩⟩⟩⟩⟩⟩⟩
    obtain ⟨register, -⟩ := (flaky_appliesFaults 0 0).faults_last_writer keep (w := w)
      ⟨by decide, rfl⟩ rfl hx
    simp only [Except.map, Except.ok.injEq, Prod.mk.injEq, List.map_cons, List.map_nil,
      List.cons.injEq, and_true] at answers writes
    obtain ⟨never, raised, cleared⟩ := writes
    refine ⟨x, rfl, answers.1, answers.2, never, ?_, raised, (register 4).mpr raised, cleared, ?_⟩
    · rw [← Bool.not_eq_true, register 0, never]
      exact nofun
    · rw [← Bool.not_eq_true, register 7, cleared]
      exact nofun

end LedDriver
