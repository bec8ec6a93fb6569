import LedDriver.Proofs.Command.Forwarding
import LedDriver.Proofs.Settings.Setting
import LedDriver.Proofs.System.Runs

/-!
# Commands one at a time

A client alone with the driver, who sets values one after the other (`Setting.inTurn`).  For each
command it is chosen in advance whether the lower half stores the value or fails with an error of
its own (`Board.storing`).  What the driver does then is what `Setting.inOrder` says
(`Board.run_storing_inTurn`).
-/

namespace LedDriver

/-- Fails with the error that was chosen, or performs a store if none was chosen. -/
def Reaction.unlessChosen (store : Reaction (Option DeviceError) (Except DeviceError Unit)) :
    Reaction (Option DeviceError) (Except DeviceError Unit) := do
  match ← Reaction.own id with
  | some e => pure (.error e)
  | none => store

/-- A lower half that stores what it is told to, unless it was chosen that it fails. -/
def LowerHalf.storing : LowerHalf (Option DeviceError) where
  provided := pure Flags.all
  operate s
    | .limitsSet, l => Reaction.unlessChosen (Service.control s (.storeLimits l)).use
    | .paramsSet, p => Reaction.unlessChosen (Service.control s (.storeParams p)).use
    | o, args => pure (o.succeeded args)
  discard := pure ()

/-- A board with such a lower half. -/
def Board.storing : Board (Option DeviceError) :=
  { Board.obedient (pure (.ok ())) with lower := fun _ => LowerHalf.storing }

/-- A client that sets values one after the other, having chosen for each whether the lower half
fails. -/
def Setting.inTurn (s : SessionId) : List (Setting × Option DeviceError) →
    Reaction (Option DeviceError) (List CommandAnswer)
  | [] => pure []
  | (x, failure) :: xs => do
    let _ ← Reaction.own fun _ => failure
    let y ← (Service.command s x.command).use
    let rest ← inTurn s xs
    pure (y :: rest)

/-- One reaction and then another. -/
lemma Reaction.action_bind {σ α β : Type} (r : Reaction σ α) (f : α → Reaction σ β) :
    Reaction.action (r >>= f) = r.action.bind fun a => (f a).action := by
  induction r with
  | done a => rfl
  | ask u next ih =>
    have first : Reaction.action (Program.ask u next >>= f) =
        u.act.bind fun x => Reaction.action (next x >>= f) := rfl
    have whole : (Reaction.action (Program.ask u next)).bind (fun a => (f a).action) =
        (u.act.bind fun x => Reaction.action (next x)).bind fun a => (f a).action := rfl
    rw [first, whole, Program.bind_assoc]
    simp only [ih]

/-- The first command and the others. -/
lemma Setting.inTurn_cons (s : SessionId) (x : Setting) (failure : Option DeviceError)
    (xs : List (Setting × Option DeviceError)) : (inTurn s ((x, failure) :: xs)).action =
      .ask (.atom (.own fun _ => failure)) fun _ =>
        .ask (.call (.service (.command s x.command))) fun y =>
          (inTurn s xs).action.bind fun rest => .done (y :: rest) := by
  have others (y : CommandAnswer) : (inTurn s xs >>= fun rest => pure (y :: rest)).action =
      (inTurn s xs).action.bind fun rest => .done (y :: rest) := Reaction.action_bind _ _
  simp only [← others]
  rfl

namespace Board

variable {w : World (Option DeviceError)} {s : SessionId} {b : ControlBlock} {x : Setting}

/-- The journal of the board takes what it is told. -/
lemma perform_storing_log (depth : Nat) (m : Notice) (w : World (Option DeviceError)) :
    storing.perform (depth + 1) (.peer (.log m)) w =
      .ok ⟨(), w, [.node (.peer (.log m)) w () w []]⟩ :=
  rfl

lemma tell_storing (depth : Nat) (m : Option Notice) (w : World (Option DeviceError)) :
    ∃ calls, storing.tell (depth + 1) m w = .ok ⟨(), w, calls⟩ := by
  cases m with
  | none => exact ⟨[], rfl⟩
  | some m => exact ⟨_, perform_storing_log depth m w⟩

/-- A store under the lock. -/
lemma perform_storing_control (depth : Nat) (m : ControlMethod) (created : s < w.issued)
    (free : w.control s = SpinLock.free b) :
    ∃ calls, storing.perform (depth + 1) (.service (.control s m)) w =
      .ok ⟨(m.apply b).1, w.revise s m, calls⟩ := by
  have run := @run_control _ storing depth w s created
    (by rw [free, SpinLock.held_free]) m
  have block : w.block s = b := by rw [World.block, free, SpinLock.free]
  rw [block] at run
  exact ⟨_, perform_succ_iff.mpr ⟨_, run, rfl⟩⟩

/-- A store unless the lower half fails by choice. -/
lemma run_unlessChosen (depth : Nat) (m : ControlMethod) (created : s < w.issued)
    (free : w.control s = SpinLock.free b) (store : Reaction _ (Except DeviceError Unit))
    (result : m.Answer → Except DeviceError Unit)
    (stores : store.action = .ask (.call (.service (.control s m))) fun v => .done (result v)) :
    ∃ z v calls, storing.run (depth + 1) (Reaction.unlessChosen store).action w =
        .ok ⟨z, v, calls⟩ ∧
      ((∃ e, w.own = some e ∧ z = .error e ∧ v = w) ∨
        (w.own = none ∧ z = result (m.apply b).1 ∧ v = w.revise s m)) := by
  have asked : storing.run (depth + 1) (Reaction.unlessChosen store).action w =
      storing.run (depth + 1) (match w.own with
        | some e => .done (.error e)
        | none => store.action) w := by
    refine (run_atom (a := .own id) rfl).trans ?_
    obtain ⟨issued, profile, control, count, semaphore, table, own⟩ := w
    cases own <;> rfl
  rw [asked]
  cases w.own with
  | some e => exact ⟨_, _, _, rfl, .inl ⟨e, rfl, rfl, rfl⟩⟩
  | none =>
    obtain ⟨calls, stored⟩ := perform_storing_control depth m created free
    exact ⟨_, _, _, stores ▸ run_call_iff.mpr ⟨_, _, stored, rfl, rfl⟩, .inr ⟨rfl, rfl, rfl⟩⟩

/-- The operation that sets a value. -/
lemma perform_storing_work (depth : Nat) (h : LowerId) (x : Setting) (created : s < w.issued)
    (free : w.control s = SpinLock.free b) :
    ∃ z v calls, storing.perform (depth + 2)
        (.peer (.operate .driver h s x.command.operation x.command.args)) w = .ok ⟨z, v, calls⟩ ∧
      ((∃ e, w.own = some e ∧ x.reported z = .error e ∧ v = w) ∨
        (w.own = none ∧ x.reported z = x.stored (x.store.apply b).1 ∧ v = w.revise s x.store)) := by
  cases x with
  | limits new =>
    obtain ⟨z, v, calls, run, outcome⟩ := run_unlessChosen depth (.storeLimits new) created free
      (Service.control s (.storeLimits new)).use id rfl
    exact ⟨z, v, _, perform_succ_iff.mpr ⟨_, run, rfl⟩, outcome⟩
  | params new =>
    obtain ⟨z, v, calls, run, outcome⟩ := run_unlessChosen depth (.storeParams new) created free
      (Service.control s (.storeParams new)).use id rfl
    exact ⟨z, v, _, perform_succ_iff.mpr ⟨_, run, rfl⟩, outcome⟩

/-- A command that sets a value, carried out alone. -/
lemma perform_storing_command (depth : Nat) (x : Setting) (created : s < w.issued)
    (free : w.control s = SpinLock.free b) :
    ∃ v c calls, storing.perform (depth + 3) (.service (.command s x.command)) w =
        .ok ⟨x.answer (x.carryOut w.own b.settings).1, v, calls⟩ ∧
      v.issued = w.issued ∧ v.control s = SpinLock.free c ∧
      c.settings = (x.carryOut w.own b.settings).2 := by
  have block : w.block s = b := by rw [World.block, free, SpinLock.free]
  have run := @run_command _ storing (depth + 2) w s created
    (by rw [free, SpinLock.held_free]) x.command
  rw [block, ← Setting.refusal?_settings] at run
  cases refused : b.settings.refusal? x with
  | some r =>
    rw [refused] at run
    rw [Setting.carryOut_of_refusal? refused, ← Setting.error_of_refusal? refused]
    exact ⟨w, b, _, perform_succ_iff.mpr ⟨_, run, rfl⟩, rfl, free, rfl⟩
  | none =>
    rw [refused] at run
    obtain ⟨z, v, calls, worked, outcome⟩ :=
      perform_storing_work depth (w.profile s).lower x created free
    obtain ⟨noted, told⟩ := tell_storing (depth + 1)
      ((x.command.operation.error? z).map x.command.failureNotice) v
    have silent : x.command.announcement? = none := by cases x <;> rfl
    have forwarded : storing.forwarding (depth + 2) (w.profile s).lower s x.command w =
        .ok ⟨x.command.concluded z, v, [] ++ (calls ++ (noted ++ []))⟩ := by
      unfold forwarding
      rw [silent]
      refine Run.bind_ok (x := ⟨(), w, []⟩)
        (y := ⟨x.command.concluded z, v, calls ++ (noted ++ [])⟩) rfl ?_
      refine Run.bind_ok (x := ⟨z, v, calls⟩) (y := ⟨x.command.concluded z, v, noted ++ []⟩)
        worked ?_
      exact Run.bind_ok (x := ⟨(), v, noted⟩) (y := ⟨x.command.concluded z, v, []⟩) told rfl
    rw [Setting.concluded_eq] at forwarded
    have whole := perform_succ_iff (c := .service (.command s x.command)).mpr
      ⟨_, run.trans forwarded, rfl⟩
    rcases outcome with ⟨e, own, reported, rfl⟩ | ⟨own, reported, rfl⟩
    · rw [own, Setting.carryOut_of_failure refused, ← reported]
      exact ⟨_, b, _, whole, rfl, free, rfl⟩
    · have inRange := (Setting.refusal?_eq_none_iff.mp refused).2
      rw [own, Setting.carryOut_of_inRange inRange, ← reported]
      refine ⟨_, (x.store.apply b).2, _, whole, rfl, ?_, rfl⟩
      simp [World.revise, block, free, SpinLock.store, SpinLock.free]

/-- Commands that are carried out one after the other are carried out in order. -/
theorem run_storing_inTurn (depth : Nat) (xs : List (Setting × Option DeviceError))
    (created : s < w.issued) (free : w.control s = SpinLock.free b) :
    ∃ v c calls, storing.run (depth + 3) (Setting.inTurn s xs).action w =
        .ok ⟨(xs.zip (Setting.inOrder xs b.settings).1).map fun y => y.1.1.answer y.2, v, calls⟩ ∧
      v.control s = SpinLock.free c ∧ c.settings = (Setting.inOrder xs b.settings).2 := by
  induction xs generalizing w b with
  | nil => exact ⟨w, b, [], rfl, free, rfl⟩
  | cons y xs ih =>
    obtain ⟨x, failure⟩ := y
    let chosen : World (Option DeviceError) := { w with own := failure }
    obtain ⟨u, b', calls, done, issued, free', set⟩ :=
      perform_storing_command depth x (w := chosen) created free
    obtain ⟨v, c, calls', rest, free'', final⟩ := ih (by rwa [issued]) free'
    rw [set] at rest final
    refine ⟨v, c, calls ++ (calls' ++ []), ?_, free'', final⟩
    rw [Setting.inTurn_cons]
    refine (run_atom (a := .own fun _ => failure) rfl).trans ?_
    exact run_call_iff.mpr ⟨_, _, done, run_bind_iff.mpr ⟨_, _, rest, rfl, rfl⟩, rfl⟩

end Board

end LedDriver
