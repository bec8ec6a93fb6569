import LedDriver.Proofs.Rejection.Rejected
import LedDriver.Proofs.SetupPolicy.Unseen

/-!
# Opens before the policy is asked

An open is an attempt and a report.  The attempt ends with an answer, or with the error of setting
up the hardware; only in the latter case does the report depend on the policy
(`Session.openDevice_eq`).  The error can be read off the calls that the open has made
(`Board.setupError?_attempt`), so that an open under one policy is the same as under the other but
for its answer (`Board.perform_openDevice`).
-/

namespace LedDriver

variable {σ α β : Type} {s : SessionId} {q : SetupPolicy}

/-- The world in which another open count is stored. -/
def World.counting (w : World σ) (s : SessionId) (n : UInt8) : World σ :=
  { w with count := update w.count s n }

/-- What an open comes to before the policy is asked. -/
inductive Attempt where
  /-- The answer is settled. -/
  | settled (answer : Except DeviceError Unit)
  /-- The hardware could not be set up. -/
  | failed (e : DeviceError)

/-- The answer of an open under a policy. -/
def Attempt.report (q : SetupPolicy) : Attempt → Except DeviceError Unit
  | settled answer => answer
  | failed e => q.report? e

/-- The error of setting up the hardware. -/
def Attempt.error? : Attempt → Option DeviceError
  | settled _ => none
  | failed e => some e

namespace Session

/-- The work of an open up to its report. -/
def attemptHolding (s : SessionId) (p : Profile) : Action σ Attempt := do
  let count ← (Atom.count s).act
  match (ReferenceCount.mk count p.config.maxOpens).raised with
  | .error e => do
    (Peer.log (.openLimit p.config.maxOpens)).make
    pure (.settled (.error e))
  | .ok next =>
    if next = 1 then do
      match ← operateMasked s p .setup () with
      | .error e => do
        (Peer.log (.setupFailed e)).make
        pure (.failed e)
      | .ok () => do
        (Atom.setCount s next).act
        pure (.settled (.ok ()))
    else do
      (Atom.setCount s next).act
      pure (.settled (.ok ()))

/-- An open up to its report, once the profile is known. -/
def attempt (s : SessionId) (p : Profile) : Action σ Attempt := do
  match ← (Routine.wait (.guard s) p.platform).make with
  | .error e => pure (.settled (.error e))
  | .ok () => do
    let a ← attemptHolding s p
    (Atom.post (.guard s)).act
    pure a

/-- The work of an open is that of the attempt with the report. -/
lemma openHolding_eq (s : SessionId) (p : Profile) :
    (openHolding s p : Action σ _) =
      (attemptHolding s p).bind fun a => .done (a.report p.config.setupFailure) := by
  unfold openHolding attemptHolding
  simp only [Program.bind_eq_bind, Program.bind_assoc]
  congr 1
  funext count
  cases (ReferenceCount.mk count p.config.maxOpens).raised with
  | error e => rfl
  | ok next =>
    dsimp only
    split
    · rw [Program.bind_assoc]
      congr 1
      funext x
      cases x <;> rfl
    · rfl

/-- An open is an attempt and a report. -/
theorem openDevice_eq (s : SessionId) :
    (openDevice s : Action σ _) = (Atom.profile s).act >>= fun p =>
      (attempt s p).bind fun a => .done (a.report p.config.setupFailure) := by
  unfold openDevice attempt Semaphore.withPermit
  simp only [Program.bind_eq_bind, Program.bind_assoc]
  congr 1
  funext p
  congr 1
  funext x
  cases x with
  | error e => rfl
  | ok _ =>
    dsimp only
    rw [openHolding_eq, Program.bind_assoc, Program.bind_assoc]
    rfl

/-- An attempt does not go by the policy. -/
lemma attempt_under (s : SessionId) (p : Profile) (q : SetupPolicy) :
    (attempt s (p.under q) : Action σ _) = attempt s p := by
  refine congrArg (Program.ask _) ?_
  funext x
  cases x <;> rfl

lemma attempt_blind (s : SessionId) (p : Profile) :
    (attempt s p : Action σ _).Only (Request.Blind s) := by
  refine Program.only_ask (Routine.blind _) fun x => ?_
  cases x with
  | error e => trivial
  | ok _ =>
    refine Program.Only.bind ?_ fun a => Program.only_ask trivial fun _ => trivial
    refine Program.only_ask trivial fun count => ?_
    split
    · exact Program.only_ask (Peer.blind _) fun _ => trivial
    · split
      · refine (operateMasked_blind p _ _).bind fun r => ?_
        cases r with
        | error e => exact Program.only_ask (Peer.blind _) fun _ => trivial
        | ok _ => exact Program.only_ask trivial fun _ => trivial
      · exact Program.only_ask trivial fun _ => trivial

end Session

/-- The error with which the driver's call to set up the hardware of a session ends. -/
def Call.failedSetup? (s : SessionId) : (c : Call) → c.Answer → Option DeviceError
  | .peer (.operate .driver _ t .setup _), .error e => if t = s then some e else none
  | _, _ => none

namespace CallTree

/-- The error with which the driver's call to set up the hardware of a session ended. -/
def failedSetup? (s : SessionId) : CallTree σ → Option DeviceError
  | node c _ x _ _ => c.failedSetup? s x

/-- The error with which an attempt to set up the hardware of a session ended, among the calls that
an open of it makes. -/
def setupError? (s : SessionId) (ts : List (CallTree σ)) : Option DeviceError :=
  ts.findSome? (failedSetup? s)

lemma setupError?_append (ts us : List (CallTree σ)) :
    setupError? s (ts ++ us) = (setupError? s ts).or (setupError? s us) :=
  List.findSome?_append

end CallTree

open CallTree

namespace Board

variable {B : Board σ} {depth : Nat} {w : World σ} {p : Profile}

/-- The run of a program whose result is put in another form. -/
lemma run_map {p : Action σ α} {f : α → β} :
    B.run depth (p.bind fun a => .done (f a)) w =
      (B.run depth p w).map fun x => ⟨f x.result, x.world, x.calls⟩ := by
  rw [run_bind]
  simp only [Run.bind]
  cases B.run depth p w with
  | error e => rfl
  | ok x => simp [Except.map]

/-- A call is an attempt to set up the hardware that failed, or it is not. -/
lemma setupError?_perform {c : Call} {x : Outcome σ c.Answer} (hx : B.perform depth c w = .ok x) :
    setupError? s x.calls = c.failedSetup? s x.result := by
  obtain ⟨d, inner, -, -, calls⟩ := exists_of_perform hx
  rw [calls]
  simp [setupError?, failedSetup?]

/-- A call of the lower half in a critical section shows whether it could set up the hardware. -/
lemma setupError?_masked {x : Outcome σ (Except DeviceError Unit)}
    (hx : B.run depth (Session.operateMasked s p .setup ()) w = .ok x) :
    setupError? s x.calls = match x.result with
      | .error e => some e
      | .ok _ => none := by
  obtain ⟨y, z, entered, rest, rfl⟩ := run_call_iff.mp hx
  obtain ⟨u, v, operated, rest', rfl⟩ := run_call_iff.mp rest
  obtain ⟨r, t, left, done, rfl⟩ := run_call_iff.mp rest'
  cases run_done_iff.mp done
  simp only [setupError?_append, setupError?_perform entered, setupError?_perform operated,
    setupError?_perform left, Call.failedSetup?]
  cases u.result <;> simp [setupError?]

/-- The work of an open: it is refused, or it counts one more reference, or it finds none and sets
up the hardware first. -/
lemma attemptHolding_spec {x : Outcome σ Attempt}
    (hx : B.run depth (Session.attemptHolding s p) w = .ok x) :
    (∃ e y, (ReferenceCount.mk (w.count s) p.config.maxOpens).raised = .error e ∧
      B.perform depth (.peer (.log (.openLimit p.config.maxOpens))) w = .ok y ∧
      x = ⟨.settled (.error e), y.world, y.calls⟩) ∨
    (w.count s ≠ 0 ∧ ∃ n, (ReferenceCount.mk (w.count s) p.config.maxOpens).raised = .ok n ∧
      x = ⟨.settled (.ok ()), w.counting s n, []⟩) ∨
    (w.count s = 0 ∧ p.config.maxOpens ≠ 0 ∧
      ∃ y, B.run depth (Session.operateMasked s p .setup ()) w = .ok y ∧
        ((y.result = .ok () ∧ x = ⟨.settled (.ok ()), y.world.counting s 1, y.calls⟩) ∨
          ∃ e z, y.result = .error e ∧
            B.perform depth (.peer (.log (.setupFailed e))) y.world = .ok z ∧
            x = ⟨.failed e, z.world, y.calls ++ z.calls⟩)) := by
  have run := run_of_effect hx rfl
  cases raised : (ReferenceCount.mk (w.count s) p.config.maxOpens).raised with
  | error e =>
    simp only [Program.bind_done, raised] at run
    obtain ⟨y, z, told, done, rfl⟩ := run_call_iff.mp run
    cases run_done_iff.mp done
    exact .inl ⟨e, y, rfl, told, by simp⟩
  | ok n =>
    refine .inr ?_
    obtain ⟨-, first⟩ := ReferenceCount.raised_eq_one_iff raised
    obtain ⟨-, bound⟩ := ReferenceCount.raised_eq_ok_iff.mp raised
    simp only [Program.bind_done, raised] at run
    by_cases one : n = 1
    · subst one
      refine .inr ⟨first.mp rfl, ?_, ?_⟩
      · intro none
        rw [none] at bound
        exact Nat.not_succ_le_zero 0 bound
      rw [if_pos rfl] at run
      obtain ⟨y, z, operated, rest, rfl⟩ := run_bind_iff.mp run
      refine ⟨y, operated, ?_⟩
      cases answer : y.result with
      | error e =>
        rw [answer] at rest
        obtain ⟨u, v, told, done, rfl⟩ := run_call_iff.mp rest
        cases run_done_iff.mp done
        exact .inr ⟨e, u, rfl, told, by simp⟩
      | ok _ =>
        rw [answer] at rest
        have ended := run_of_effect rest rfl
        cases run_done_iff.mp ended
        exact .inl ⟨rfl, by simp [World.counting]⟩
    · rw [if_neg one] at run
      have ended := run_of_effect run rfl
      cases run_done_iff.mp ended
      exact .inl ⟨fun none => one (first.mpr none), n, rfl, rfl⟩

/-- An attempt waits for the permit first.  If it gets one, it does its work and gives the permit
back. -/
lemma attempt_spec {x : Outcome σ Attempt} (hx : B.run depth (Session.attempt s p) w = .ok x) :
    ∃ y, B.perform depth (.routine (.wait (.guard s) p.platform)) w = .ok y ∧
      ((∃ e, y.result = .error e ∧ x = ⟨.settled (.error e), y.world, y.calls⟩) ∨
        y.result = .ok () ∧ ∃ z, B.run depth (Session.attemptHolding s p) y.world = .ok z ∧
          x = ⟨z.result, z.world.posted (.guard s), y.calls ++ z.calls⟩) :=
  run_waiting hx (fun _ => rfl) rfl

/-- The error of setting up the hardware can be read off the calls of an attempt. -/
theorem setupError?_attempt {x : Outcome σ Attempt}
    (hx : B.run depth (Session.attempt s p) w = .ok x) :
    setupError? s x.calls = x.result.error? := by
  have holding {v : World σ} {z : Outcome σ Attempt}
      (hz : B.run depth (Session.attemptHolding s p) v = .ok z) :
      setupError? s z.calls = z.result.error? := by
    obtain ⟨e, y, -, told, rfl⟩ | ⟨-, n, -, rfl⟩ | ⟨-, -, y, operated, outcome⟩ :=
      attemptHolding_spec hz
    · exact setupError?_perform told
    · rfl
    · have shown := setupError?_masked operated
      obtain ⟨answer, rfl⟩ | ⟨e, u, answer, told, rfl⟩ := outcome
      · rw [answer] at shown
        exact shown
      · rw [answer] at shown
        rw [setupError?_append, shown]
        rfl
  obtain ⟨y, waited, ⟨e, -, rfl⟩ | ⟨-, z, worked, rfl⟩⟩ := attempt_spec hx
  · exact setupError?_perform waited
  · rw [setupError?_append, setupError?_perform waited, holding worked]
    rfl

/-- The run of an open is that of its attempt, with the report of the policy for an answer. -/
theorem run_openDevice (created : s < w.issued) :
    B.run depth (Session.openDevice s) w =
      (B.run depth (Session.attempt s (w.profile s)) w).map fun x =>
        ⟨x.result.report (w.profile s).config.setupFailure, x.world, x.calls⟩ := by
  have read : (Atom.profile s).apply w = .ok (w.profile s, w) :=
    Atom.apply_eq_ok_iff.mpr ⟨by rintro _ ⟨⟩; exact created, rfl⟩
  rw [Session.openDevice_eq]
  exact (run_atom read).trans run_map

/-- An open is carried out as its attempt is, with the report of the policy for an answer. -/
theorem perform_openDevice (created : s < w.issued) :
    B.perform (depth + 1) (.service (.openDevice s)) w =
      (B.run depth (Session.attempt s (w.profile s)) w).map fun x =>
        ⟨x.result.report (w.profile s).config.setupFailure, x.world,
          [.node (.service (.openDevice s)) w
            (x.result.report (w.profile s).config.setupFailure) x.world x.calls]⟩ := by
  have whole : B.perform (depth + 1) (.service (.openDevice s)) w =
      Run.asCall (.service (.openDevice s)) (B.run depth (Session.openDevice s)) w := rfl
  rw [whole]
  simp only [Run.asCall, run_openDevice created]
  cases B.run depth (Session.attempt s (w.profile s)) w <;> rfl

end Board

end LedDriver
