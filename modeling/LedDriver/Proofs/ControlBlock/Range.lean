import LedDriver.Proofs.Command.Start
import LedDriver.Proofs.System.Services

/-!
# Parameters in range

The control block takes any parameters that it is told to store; only the policy looks at their
ranges.  Parameters reach a control block by being handed on: a command hands them to an operation
of the lower half, which hands them to the control block.  If nobody but this chain stores
parameters (`Board.HandsOn`), then all parameters that are handed to a session are those of an
admitted command (`Runs.handsInRange`), and the parameters in its control block are always in range
(`Runs.params_inRange`).
-/

namespace LedDriver

variable {σ α : Type} {n : Nat}

/-! ## Ranges -/

namespace Params

/-- What it means for parameters to be in range: each is a number, and it lies between its
bounds. -/
structure InRange (p : Params) : Prop where
  brightness_number : p.brightness.isNaN = false
  brightness_bounds : 0 ≤ p.brightness.rank ∧ p.brightness.rank ≤ Binary32.hundred.rank
  frequency_number : p.frequency.isNaN = false
  frequency_bound : 0 ≤ p.frequency.rank
  duty_number : p.duty.isNaN = false
  duty_bounds : 0 ≤ p.duty.rank ∧ p.duty.rank ≤ Binary32.hundred.rank

end Params

lemma Binary32.zero_le_iff {x : Binary32} : zero.le x = true ↔ x.isNaN = false ∧ 0 ≤ x.rank := by
  have number : zero.isNaN = false := rfl
  have origin : zero.rank = 0 := rfl
  simp [le, number, origin]

lemma Binary32.isPercentage_iff {x : Binary32} :
    x.isPercentage = true ↔ x.isNaN = false ∧ 0 ≤ x.rank ∧ x.rank ≤ hundred.rank := by
  have number : hundred.isNaN = false := rfl
  rw [isPercentage, Bool.and_eq_true, zero_le_iff]
  simp only [le, number, Bool.and_eq_true, Bool.not_eq_true', decide_eq_true_eq]
  constructor
  · rintro ⟨⟨isNumber, low⟩, -, high⟩
    exact ⟨isNumber, low, high⟩
  · rintro ⟨isNumber, low, high⟩
    exact ⟨⟨isNumber, low⟩, ⟨isNumber, trivial⟩, high⟩

lemma Params.inRange_iff {p : Params} : p.inRange = true ↔ p.InRange := by
  rw [inRange, Bool.and_eq_true, Bool.and_eq_true, Binary32.isPercentage_iff,
    Binary32.zero_le_iff, Binary32.isPercentage_iff]
  constructor
  · rintro ⟨⟨⟨b, bs⟩, f, fs⟩, d, ds⟩
    exact ⟨b, bs, f, fs, d, ds⟩
  · rintro ⟨b, bs, f, fs, d, ds⟩
    exact ⟨⟨⟨b, bs⟩, f, fs⟩, d, ds⟩

/-! ## Handing on -/

/-- The parameters that a call hands to a session past the policy. -/
def Call.handed? (s : SessionId) : Call → Option Params
  | .service (.control t (.storeParams p)) => if t = s then some p else none
  | .service (.operate t .paramsSet p) => if t = s then some p else none
  | .peer (.operate _ _ t .paramsSet p) => if t = s then some p else none
  | _ => none

/-- If a request hands parameters to a session, they have a property. -/
def Request.Hands (s : SessionId) (ok : Params → Prop) : Request σ → Prop
  | .atom (.control t (.storeParams p)) => t = s → ok p
  | .atom _ => True
  | .call c => ∀ p, c.handed? s = some p → ok p

/-- If the use of a service hands parameters to a session, they have a property. -/
def Use.Hands (s : SessionId) (ok : Params → Prop) : Use σ → Prop
  | .own _ => True
  | .service c => ∀ p, (Call.service c).handed? s = some p → ok p

/-- The surroundings hand no parameters to a session but those that were handed to them, perhaps
with another lock. -/
def Board.HandsOn (B : Board σ) (s : SessionId) : Prop :=
  ∀ c : Peer, (B.reaction c).Only
    (Use.Hands s fun q => ∃ p, (Call.peer c).handed? s = some p ∧ q = { p with lock := q.lock })

open Program

variable {s : SessionId} {ok : Params → Prop}

/-- What the surroundings hand on has a property if that of each of their uses implies it. -/
lemma Reaction.action_hands {ok' : Params → Prop} {r : Reaction σ α} (h : r.Only (Use.Hands s ok))
    (imp : ∀ p, ok p → ok' p) : r.action.Only (Request.Hands s ok') := by
  induction r with
  | done a => trivial
  | ask u next ih =>
    cases u with
    | own f => exact ⟨trivial, fun x => ih x (h.2 x)⟩
    | service c => exact ⟨fun p hp => imp p (h.1 p hp), fun x => ih x (h.2 x)⟩

/-- The lock of parameters has nothing to do with their ranges. -/
lemma Params.inRange_of_eq {p q : Params} (h : p.inRange = true)
    (same : q = { p with lock := q.lock }) : q.inRange = true := by
  rw [same]
  exact h

/-- The operation and its argument tell the command. -/
lemma Command.handed?_operate {t : SessionId} {h : LowerId} {c : Command} {p : Params}
    (hp : (Call.peer (.operate .driver h t c.operation c.args)).handed? s = some p) :
    c = .setParams p := by
  cases c <;> first | cases hp | skip
  next q =>
    simp only [Call.handed?, args] at hp
    split at hp <;> cases hp
    rfl

/-- The operation of a command hands on no parameters but its own. -/
lemma Command.operate_hands {t : SessionId} {c : Command} (hc : ∀ p, c = .setParams p → ok p)
    (h : LowerId) : Request.Hands s ok
      (.call (.peer (.operate .driver h t c.operation c.args)) : Request σ) :=
  fun p hp => hc p (handed?_operate hp)

/-- A command hands parameters on only if the policy admits them. -/
lemma Session.command_hands (t : SessionId) (c : Command) :
    (Session.command t c : Action σ _).Only (Request.Hands s fun p => p.inRange = true) := by
  have looks (m : ControlMethod) (hm : m ∈ [ControlMethod.snapshot, .limits, .params]) :
      (Request.atom (.control t m) : Request σ).Hands s fun p => p.inRange = true := by
    cases m with
    | storeParams p => simp at hm
    | _ => trivial
  have logs (n : Notice) : (Request.call (.peer (.log n)) : Request σ).Hands s fun p =>
      p.inRange = true := nofun
  have otherwise (other : ∀ p, c ≠ .setParams p) :
      (Session.command t c : Action σ _).Only (Request.Hands s fun p => p.inRange = true) :=
    command_only trivial looks trivial trivial
      (Command.operate_hands fun p hp => absurd hp (other p)) logs
  cases c with
  | setParams p =>
    -- The command is passed on only where the policy admits it, whatever the control block holds.
    have program : (Session.command t (.setParams p) : Action σ _) =
        ((Session.control t .params).bind fun held => .done (held.changeRefusal? p)).bind _ := rfl
    rw [program, bind_assoc]
    refine (locked_only trivial (looks .params (by simp)) trivial).bind fun held => ?_
    cases decided : held.changeRefusal? p with
    | some r => exact only_ask (logs _) fun _ => trivial
    | none =>
      have inRange := (Params.changeRefusal?_eq_none_iff.mp decided).2
      refine forward_only trivial (Command.operate_hands fun q hq => ?_) logs
      cases hq
      exact inRange
  | start | setLimits | stop | setMode | getState | setFault | getFault | cleanFault
  | passthrough => exact otherwise (by rintro _ ⟨⟩)

/-- On such a board a call hands on only parameters in range, if those that it was handed are in
range. -/
theorem Board.HandsOn.program_hands {B : Board σ} (board : B.HandsOn s) {c : Call}
    (given : ∀ p, c.handed? s = some p → p.inRange = true) :
    (B.program c).Only (Request.Hands s fun p => p.inRange = true) := by
  have other (h : ∀ q : Request σ, c.Asks q → q.Hands s fun p => p.inRange = true) :
      (B.program c).Only (Request.Hands s fun p => p.inRange = true) := (B.program_asks c).mono h
  cases c with
  | service c =>
    cases c with
    | command t c => exact Session.command_hands t c
    | control t m =>
      refine locked_only trivial ?_ trivial
      cases m <;> first | trivial | skip
      rintro rfl
      exact given _ (if_pos rfl)
    | operate t o args =>
      refine only_ask trivial fun _ => only_query fun p hp => given p ?_
      cases o <;> first | cases hp | exact hp
    | openDevice | closeDevice | provided | openCount | config | register | table | tryWait | wait
    | post => exact other fun q asks => by cases asks <;> trivial
  | routine c => exact other fun q asks => by cases asks <;> trivial
  | peer c =>
    refine Reaction.action_hands (board c) ?_
    rintro q ⟨p, hp, same⟩
    exact Params.inRange_of_eq (given p hp) same

/-- A method leaves parameters in range, unless it stores others. -/
lemma ControlMethod.inRange_apply {m : ControlMethod} {b : ControlBlock}
    (hb : b.params.inRange = true) (hm : ∀ p, m = .storeParams p → p.inRange = true) :
    (m.apply b).2.params.inRange = true := by
  cases m with
  | storeParams p =>
    simp only [apply]
    split
    · exact hb
    · exact hm p rfl
  | storeLimits l =>
    simp only [apply]
    split <;> exact hb
  | snapshot | mode | setMode | limits | params | state | setState | faults | raiseFault
  | clearFault => exact hb

namespace Pool

variable {B : Board σ} {P Q : Pool n σ α} {l l' : List (Fin n × Label σ)} {own : σ}
  {clients : Fin n → Reaction σ α} {i : Fin n}

/-- All calls of a run that hand parameters to a session hand it parameters in range. -/
def HandsInRange (s : SessionId) (l : List (Fin n × Label σ)) : Prop :=
  ∀ i c, (i, Label.called c) ∈ l → ∀ p, c.handed? s = some p → p.inRange = true

/-- After calls that hand on only parameters in range, a run asks for no others. -/
lemma Runs.request_hands (run : Runs B (start own clients) l P) (board : B.HandsOn s)
    (keep : ∀ i, (clients i).Only (Use.Hands s fun _ => False)) (handed : HandsInRange s l)
    {e : Label σ} (step : Step B P (i, e) Q) (begins : ∀ c w x d, e ≠ .returned c w x d) :
    e.request.Hands s fun p => p.inRange = true := by
  obtain ⟨o, w₀, d, rest, frames, source⟩ := run.exists_source step begins
  refine source _ ?_
  cases o with
  | none => exact Reaction.action_hands (keep i) fun _ => False.elim
  | some c =>
    have called : (i, Label.called c) ∈ l :=
      run.called_of_frame (frames ▸ List.mem_cons_self ..) rfl
    exact board.program_hands (handed i c called)

/-- Parameters are handed to a session only if they are in range. -/
theorem Runs.handsInRange (run : Runs B (start own clients) l P) (board : B.HandsOn s)
    (keep : ∀ i, (clients i).Only (Use.Hands s fun _ => False)) : HandsInRange s l := by
  induction run with
  | refl => exact fun _ _ h => absurd h List.not_mem_nil
  | @tail Q R l e run step ih =>
    intro i c called p hp
    rcases List.mem_append.mp called with called | called
    · exact ih i c called p hp
    · obtain rfl := List.mem_singleton.mp called
      have hands := run.request_hands board keep ih step fun _ _ _ _ => nofun
      exact hands p hp

/-- In every reachable state the parameters of a session are in range. -/
lemma Runs.inRange (run : Runs B (start own clients) l P) (board : B.HandsOn s)
    (keep : ∀ i, (clients i).Only (Use.Hands s fun _ => False)) :
    (P.world.block s).params.inRange = true := by
  induction run with
  | refl => rfl
  | @tail Q R l e run step ih =>
    obtain ⟨i, e⟩ := e
    rcases step.world_eq with ⟨a, x, rfl, performs⟩ | ⟨-, same⟩
    · have hands := run.request_hands board keep (run.handsInRange board keep) step
        fun _ _ _ _ => nofun
      by_cases uses : ∃ m, a = .control s m
      · obtain ⟨m, rfl⟩ := uses
        rw [performs.of_control.2]
        refine ControlMethod.inRange_apply ih ?_
        rintro p rfl
        exact hands rfl
      · rw [performs.block_eq run.blank fun m hm => uses ⟨m, hm⟩]
        exact ih
    · rw [same]
      exact ih

/-- The parameters of a session are always in range if its lower half stores only what its operation
to set them is told to store: whatever is sent to the session, however calls fail and nest.  Once
the parameters are locked they stay, and they are what every later start finds: in the control block
when the lower half is told to start, and in the snapshot that the start takes. -/
theorem Runs.params_inRange (run : Runs B (start own clients) l P) (later : Runs B P l' Q)
    (board : B.HandsOn s) (keep : ∀ i, (clients i).Only (Use.Hands s fun _ => False)) :
    (P.world.block s).params.InRange ∧
      ((P.world.block s).params.lock = true →
        (Q.world.block s).params = (P.world.block s).params ∧
          (∀ i k h R, Step B Q (i, .called (.peer (.operate k h s .start ()))) R →
            (R.world.block s).params = (P.world.block s).params) ∧
          (∀ i f b, f ∈ (Q.parties i).frames → .acted (.control s .snapshot) b ∈ f.past →
            (f.before.block s).params.lock = true → b.params = (P.world.block s).params) ∧
          ∀ i w x d, (i, Label.returned (.service (.command s .start)) w x d) ∈ l' →
            (w.block s).params.lock = true →
            ∃ b, .acted (.control s .snapshot) b ∈ d ∧ b.params = (P.world.block s).params) := by
  refine ⟨Params.inRange_iff.mp (run.inRange board keep), fun locked => ?_⟩
  have stays {l₁ : List (Fin n × Label σ)} {R : Pool n σ α} (after : Runs B P l₁ R) :
      (R.world.block s).params = (P.world.block s).params :=
    run.stored_eq (k := .params) after locked
  have shown {l₁ : List (Fin n × Label σ)} {R : Pool n σ α} (after : Runs B P l₁ R) {i : Fin n}
      {f : Frame σ} (hf : f ∈ (R.parties i).frames) {b : ControlBlock}
      (hb : .acted (.control s .snapshot) b ∈ f.past)
      (begun : (f.before.block s).params.lock = true) : b.params = (P.world.block s).params := by
    obtain ⟨since, -, seen⟩ :=
      (run.trans after).frame_of_progress (frameInvariant_locked s .params) hf begun
    have same : b.params = (R.world.block s).params := (seen b hb).trans since.symm
    exact same.trans (stays after)
  refine ⟨stays later, ?_, fun i f b hf hb begun => shown later hf hb begun, ?_⟩
  · intro i k h R step
    exact stays (later.tail step)
  · intro i w x d he begun
    obtain ⟨_, _, R, S, -, before, step, -⟩ := later.exists_step he
    obtain ⟨frame, hf⟩ := (run.trans before).frame_of_return step
    obtain ⟨b, hb, -⟩ := Session.start_record hf
    exact ⟨b, hb, shown before frame hb begun⟩

/-- A client that sets the parameters of a device to something that is no number, sets and locks
them, and starts the output. -/
def lockingParams : Reaction Unit Unit := do
  let _ ← (Service.register ⟨"/dev/led", 0, 0, Config.default, none⟩).use
  let _ ← (Service.control 0 (.storeLimits ⟨⟨0x3F800000⟩, true⟩)).use
  let _ ← (Service.control 0 (.setMode .flash)).use
  let _ ← (Service.command 0 (.setParams ⟨⟨0x7FC00000⟩, ⟨0⟩, ⟨0⟩, true⟩)).use
  let _ ← (Service.command 0 (.setParams ⟨⟨0x42480000⟩, ⟨0x3F800000⟩, ⟨0x42480000⟩, true⟩)).use
  let _ ← (Service.command 0 .start).use
  pure ()

/-- An obedient lower half stores only what it is told to store. -/
lemma Board.obedient_handsOn (s : SessionId) :
    (Board.obedient (pure (.ok ()) : Reaction σ (Except DeviceError Unit))).HandsOn s := by
  intro c
  cases c with
  | operate k h t o args =>
    cases o with
    | paramsSet =>
      refine ⟨fun q hq => ⟨q, ?_, rfl⟩, fun _ => trivial⟩
      obtain ⟨here, rfl⟩ : t = s ∧ args = q := by simpa [Call.handed?] using hq
      exact if_pos here
    | modeSet | limitsSet => exact ⟨nofun, fun _ => trivial⟩
    | setup | shutdown | start | stop | stateGet | faultSet | faultGet | faultClean | ioctl =>
      trivial
  | provided | discard | enter | leave | checkWait | relax | log | publish => trivial

/-- The parameters that this client locks are in range, and the lower half finds them when it
starts. -/
theorem params_inRange_lockingParams :
    ∃ (l l' : List (Fin 1 × Label Unit)) (P Q R : Pool 1 Unit Unit),
      Runs (.obedient (pure (.ok ()))) (start () fun _ => lockingParams) l P ∧
        Runs (.obedient (pure (.ok ()))) P l' Q ∧
        Step (.obedient (pure (.ok ()))) Q (0, .called (.start 0 0)) R ∧
        (P.world.block 0).params.lock = true ∧ (P.world.block 0).params.InRange ∧
        (R.world.block 0).params = (P.world.block 0).params := by
  let B : Board Unit := .obedient (pure (.ok ()))
  let P₀ : Pool 1 Unit Unit := start () fun _ => lockingParams
  have h₁ : (P₀.play B (.replicate 40 0)).isSome := rfl
  have h₂ : (((P₀.play B (.replicate 40 0)).get h₁).2.play B (.replicate 5 0)).isSome := rfl
  have first := runs_of_isSome h₁
  have second := runs_of_isSome h₂
  have step : Step B (((P₀.play B (.replicate 40 0)).get h₁).2.play B (.replicate 5 0) |>.get h₂).2
      (0, .called (.start 0 0)) _ := .party (step_of_step? rfl)
  have board : B.HandsOn 0 := Board.obedient_handsOn 0
  have keep : ∀ i : Fin 1, lockingParams.Only (Use.Hands 0 fun _ => False) := fun _ =>
    ⟨nofun, fun _ => ⟨nofun, fun _ => ⟨nofun, fun _ => ⟨nofun, fun _ => ⟨nofun, fun _ =>
      ⟨nofun, fun _ => trivial⟩⟩⟩⟩⟩⟩
  obtain ⟨inRange, stays⟩ := first.params_inRange second board keep
  obtain ⟨-, starts, -⟩ := stays rfl
  exact ⟨_, _, _, _, _, first, second, step, rfl, inRange, starts 0 .driver 0 _ step⟩

end Pool

end LedDriver
