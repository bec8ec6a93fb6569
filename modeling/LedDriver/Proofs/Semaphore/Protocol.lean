import LedDriver.Proofs.Semaphore.Attempts
import LedDriver.Proofs.System.Behalf

/-!
# The protocol of a wait

What a party does while it waits for a permit, under all schedules.  A wait tries to take a permit;
when an attempt fails, it asks the platform once whether to go on, lets others run once, and tries
again (`Semaphore.protocol`).  It ends with the first attempt that takes a permit or with the first
refusal of the platform.  A wait goes on by waiting again, so that what it does itself is what is
done in a chain of waits, and not in a call that one of them makes (`Moment.event?`).

Whatever other parties do, and whatever the platform does when it is called, a wait that is carried
out has done a whole protocol (`Board.Enacts.of_wait`), and a wait in progress the beginning of one
(`Board.Inside.of_wait`).
-/

namespace LedDriver

variable {σ α : Type} {n : Nat}

/-! ## The protocol -/

/-- A call begins or ends. -/
inductive CallEvent where
  | begins (c : Call)
  | ends (c : Call) (answer : c.Answer)

/-- What a wait ends with if this is the last that it did: the attempt that took a permit, or the
refusal of the platform. -/
def CallEvent.verdict? : CallEvent → Option (Except DeviceError Unit)
  | ends (.routine (.tryWait _)) true => some (.ok ())
  | ends (.peer (.checkWait _)) (.error e) => some (.error e)
  | _ => none

namespace Semaphore

/-- An attempt to take a permit. -/
def tries (g : SemaphoreId) (x : Bool) : List CallEvent :=
  [.begins (.routine (.tryWait g)), .ends (.routine (.tryWait g)) x]

/-- The platform is asked whether to go on. -/
def asks (p : PlatformId) (r : Except DeviceError Unit) : List CallEvent :=
  [.begins (.peer (.checkWait p)), .ends (.peer (.checkWait p)) r]

/-- Others are let run. -/
def relaxes (p : PlatformId) : List CallEvent :=
  [.begins (.peer (.relax p)), .ends (.peer (.relax p)) ()]

/-- An attempt that fails, and what is done before the next one. -/
def round (g : SemaphoreId) (p : PlatformId) : List CallEvent :=
  tries g false ++ (asks p (.ok ()) ++ relaxes p)

/-- What a wait does that ends with a result after a number of rounds. -/
def protocol (g : SemaphoreId) (p : PlatformId) (r : Except DeviceError Unit) : Nat → List CallEvent
  | 0 =>
    match r with
    | .ok () => tries g true
    | .error e => tries g false ++ asks p (.error e)
  | rounds + 1 => round g p ++ protocol g p r rounds

/-- The last that is done in a protocol is what its result comes from. -/
lemma verdict?_protocol (g : SemaphoreId) (p : PlatformId) (r : Except DeviceError Unit)
    (rounds : Nat) : (protocol g p r rounds).getLast?.bind CallEvent.verdict? = some r := by
  induction rounds with
  | zero => cases r <;> rfl
  | succ rounds ih =>
    obtain ⟨e, last, verdict⟩ := Option.bind_eq_some_iff.mp ih
    rw [protocol, List.getLast?_append, last]
    exact verdict

end Semaphore

/-! ## Steps of a wait -/

/-- A wait for a permit on a platform. -/
def Call.isWait (g : SemaphoreId) (p : PlatformId) : Call → Bool
  | .routine (.wait g' p') => g' = g && p' = p
  | _ => false

/-- The calls in progress in a step, down to a depth. -/
def Moment.above (depth : Nat) (m : Moment σ) : List Call :=
  (m.calls.take (m.calls.length - depth)).map Prod.snd

/-- What a call that waits, or one of the calls with which it goes on waiting, begins or ends in a
step.  The call that waits is the one at a depth. -/
def Moment.event? (waits : Call → Bool) (depth : Nat) (m : Moment σ) : Option CallEvent :=
  match m.label with
  | .acted _ _ => none
  | .called c => if !waits c && (m.above depth).all waits then some (.begins c) else none
  | .returned c _ x _ =>
    if !waits c && (m.above depth).tail.all waits then some (.ends c x) else none

/-- A step takes a permit of a semaphore, and is made by the call at a depth or by inner procedures
that it calls. -/
def Moment.takesFor (g : SemaphoreId) (depth : Nat) (m : Moment σ) : Bool :=
  m.label.takes g && (m.above depth).all Call.isRoutine

section Steps

variable {waits : Call → Bool} {g : SemaphoreId} {m : Moment σ} {R S : List (Nat × Call)} {k : Nat}
  {c : Call}

lemma Moment.above_append (h : m.calls = R ++ S) : m.above S.length = R.map Prod.snd := by
  simp [above, h]

lemma Moment.above_cons (h : m.calls = R ++ (k, c) :: S) :
    m.above S.length = m.above ((k, c) :: S).length ++ [c] := by
  have whole : m.calls = (R ++ [(k, c)]) ++ S := by simp [h]
  rw [above_append whole, above_append h]
  simp

/-- What is done in a call by which a wait goes on is done by the wait. -/
lemma Moment.event?_wait (within : (k, c) :: S <:+ m.calls) (wait : waits c = true) :
    m.event? waits S.length = m.event? waits ((k, c) :: S).length := by
  obtain ⟨R, calls⟩ := within
  unfold event?
  rw [above_cons calls.symm]
  split
  · rfl
  · simp [wait]
  · cases m.above ((k, c) :: S).length <;> simp [wait]

/-- What is done in another call is not done by the wait itself. -/
lemma Moment.event?_other (within : (k, c) :: S <:+ m.calls) (other : waits c = false)
    (deeper : ∀ c' w x d, m.label = .returned c' w x d → ∃ y, y :: (k, c) :: S <:+ m.calls) :
    m.event? waits S.length = none := by
  unfold event?
  split
  · rfl
  · obtain ⟨R, calls⟩ := within
    rw [above_cons calls.symm]
    simp [other]
  · next c' w x d label =>
    obtain ⟨y, R, calls⟩ := deeper c' w x d label
    have whole : m.calls = (R ++ [y]) ++ (k, c) :: S := by simp [← calls]
    rw [above_cons whole, above_append whole]
    cases R <;> simp [other]

/-- A call that the wait itself makes begins. -/
lemma Moment.event?_called (waits : Call → Bool) (k : Nat) (S : List (Nat × Call)) (c : Call) :
    (⟨k, S, .called c⟩ : Moment σ).event? waits S.length =
      if waits c = true then none else some (.begins c) := by
  have top : (⟨k, S, .called c⟩ : Moment σ).above S.length = [] := above_append (R := []) rfl
  cases h : waits c <;> simp [event?, top, h]

/-- A call that the wait itself made ends. -/
lemma Moment.event?_returned (waits : Call → Bool) (k t : Nat) (S : List (Nat × Call)) (c : Call)
    (w : World σ) (x : c.Answer) (d : List (Deed σ)) :
    (⟨t, (k, c) :: S, .returned c w x d⟩ : Moment σ).event? waits S.length =
      if waits c = true then none else some (.ends c x) := by
  have top : (⟨t, (k, c) :: S, .returned c w x d⟩ : Moment σ).above S.length = [c] :=
    above_append (R := [(k, c)]) rfl
  cases h : waits c <;> simp [event?, top, h]

/-- What inner procedures of an inner procedure take is taken for it. -/
lemma Moment.takesFor_routine (within : (k, c) :: S <:+ m.calls) (routine : c.isRoutine = true) :
    m.takesFor g S.length = m.takesFor g ((k, c) :: S).length := by
  obtain ⟨R, calls⟩ := within
  unfold takesFor
  rw [above_cons calls.symm]
  simp [routine]

/-- What is taken in a call of another kind is not taken for the procedure itself. -/
lemma Moment.takesFor_other (within : (k, c) :: S <:+ m.calls) (other : c.isRoutine = false) :
    m.takesFor g S.length = false := by
  obtain ⟨R, calls⟩ := within
  unfold takesFor
  rw [above_cons calls.symm]
  simp [other]

end Steps

/-- What a call that waits, at a depth, begins and ends in some steps. -/
def events (waits : Call → Bool) (depth : Nat) (T : List (Moment σ)) : List CallEvent :=
  T.filterMap (Moment.event? waits depth)

/-- How many permits are taken in some steps for an inner procedure at a depth. -/
def takenFor (g : SemaphoreId) (depth : Nat) (T : List (Moment σ)) : Nat :=
  T.countP (Moment.takesFor g depth)

@[simp] lemma events_nil (waits : Call → Bool) (depth : Nat) :
    events waits depth ([] : List (Moment σ)) = [] := rfl

@[simp] lemma takenFor_nil (g : SemaphoreId) (depth : Nat) :
    takenFor g depth ([] : List (Moment σ)) = 0 := rfl

section Calls

variable {B : Board σ} {waits : Call → Bool} {g : SemaphoreId} {S : List (Nat × Call)} {k t : Nat}
  {c : Call} {w : World σ} {x : c.Answer} {d : List (Deed σ)} {q : Action σ c.Answer}
  {T T' : List (Moment σ)} {S' : List (Nat × Call)} {c' : Call} {q' : Action σ c'.Answer}

lemma events_append (waits : Call → Bool) (depth : Nat) (T T' : List (Moment σ)) :
    events waits depth (T ++ T') = events waits depth T ++ events waits depth T' :=
  List.filterMap_append ..

lemma events_called (waits : Call → Bool) (k : Nat) (S : List (Nat × Call)) (c : Call)
    (T : List (Moment σ)) : events waits S.length (⟨k, S, .called c⟩ :: T) =
      (if waits c = true then [] else [.begins c]) ++ events waits S.length T := by
  rw [events, List.filterMap_cons, Moment.event?_called]
  cases waits c <;> rfl

lemma events_returned (waits : Call → Bool) (k t : Nat) (S : List (Nat × Call)) (c : Call)
    (w : World σ) (x : c.Answer) (d : List (Deed σ)) (T : List (Moment σ)) :
    events waits S.length (⟨t, (k, c) :: S, .returned c w x d⟩ :: T) =
      (if waits c = true then [] else [.ends c x]) ++ events waits S.length T := by
  rw [events, List.filterMap_cons, Moment.event?_returned]
  cases waits c <;> rfl

/-- What is done in a call that is not a wait is not done by the wait. -/
lemma events_other (inner : B.Inside ((k, c) :: S) c T S' c' q') (other : waits c = false) :
    events waits S.length T = [] := by
  refine List.filterMap_eq_nil_iff.mpr fun m hm => ?_
  exact m.event?_other (inner.suffix hm) other fun c' w x d label =>
    inner.suffix_of_returned hm label

/-- What is done in a wait by which a wait goes on is done by the wait. -/
lemma events_through (inner : B.Inside ((k, c) :: S) c T S' c' q') (wait : waits c = true) :
    events waits S.length T = events waits ((k, c) :: S).length T :=
  List.filterMap_congr fun m hm => m.event?_wait (inner.suffix hm) wait

/-- A call that is not a wait begins and ends. -/
lemma events_call (inner : B.Enacts ((k, c) :: S) (B.program c) T q) (other : waits c = false) :
    events waits S.length (⟨k, S, .called c⟩ :: (T ++ ⟨t, (k, c) :: S, .returned c w x d⟩ :: T')) =
      .begins c :: .ends c x :: events waits S.length T' := by
  rw [events_called, events_append, events_other (.here inner) other, events_returned]
  simp [other]

/-- A wait that goes on by waiting again does what it goes on with. -/
lemma events_wait (inner : B.Enacts ((k, c) :: S) (B.program c) T q) (wait : waits c = true) :
    events waits S.length (⟨k, S, .called c⟩ :: (T ++ ⟨t, (k, c) :: S, .returned c w x d⟩ :: T')) =
      events waits ((k, c) :: S).length T ++ events waits S.length T' := by
  rw [events_called, events_append, events_through (.here inner) wait, events_returned]
  simp [wait]

/-- For an inner procedure is taken what the inner procedures that it calls take. -/
lemma takenFor_routine (inner : B.Enacts ((k, c) :: S) (B.program c) T q)
    (routine : c.isRoutine = true) :
    takenFor g S.length (⟨k, S, .called c⟩ :: (T ++ ⟨t, (k, c) :: S, .returned c w x d⟩ :: T')) =
      takenFor g ((k, c) :: S).length T + takenFor g S.length T' := by
  have inside : takenFor g S.length T = takenFor g ((k, c) :: S).length T :=
    List.countP_congr fun m hm => by rw [m.takesFor_routine (inner.suffix hm) routine]
  rw [takenFor, List.countP_cons_of_neg Bool.false_ne_true, List.countP_append, ← takenFor, inside,
    List.countP_cons_of_neg Bool.false_ne_true, ← takenFor]

/-- What is taken in a call of another kind is not taken for an inner procedure. -/
lemma takenFor_other (inner : B.Enacts ((k, c) :: S) (B.program c) T q)
    (other : c.isRoutine = false) :
    takenFor g S.length (⟨k, S, .called c⟩ :: (T ++ ⟨t, (k, c) :: S, .returned c w x d⟩ :: T')) =
      takenFor g S.length T' := by
  have inside : takenFor g S.length T = 0 := by
    refine List.countP_eq_zero.mpr fun m hm => ?_
    rw [m.takesFor_other (inner.suffix hm) other]
    exact Bool.false_ne_true
  rw [takenFor, List.countP_cons_of_neg Bool.false_ne_true, List.countP_append, ← takenFor, inside,
    Nat.zero_add, List.countP_cons_of_neg Bool.false_ne_true, ← takenFor]

end Calls

/-! ## How far a wait has come -/

namespace Semaphore

/-- How far a wait has come with what it has done itself, and what is left of it. -/
inductive Position (g : SemaphoreId) (p : PlatformId) :
    List CallEvent → Nat → Action σ (Except DeviceError Unit) → Prop
  | start : Position g p [] 0 (wait g p)
  | failed (next : Except DeviceError Unit → Action σ (Except DeviceError Unit)) :
      Position g p (tries g false) 0 (.ask (.call (.peer (.checkWait p))) next)
  | allowed (next : Unit → Action σ (Except DeviceError Unit)) :
      Position g p (tries g false ++ asks p (.ok ())) 0 (.ask (.call (.peer (.relax p))) next)
  | again (next : Except DeviceError Unit → Action σ (Except DeviceError Unit)) :
      Position g p (round g p) 0 (.ask (.call (.routine (.wait g p))) next)
  | finished (r : Except DeviceError Unit) (rounds : Nat) :
      Position g p (protocol g p r rounds) (if r.isOk = true then 1 else 0) (.done r)

lemma Position.of_done {g : SemaphoreId} {p : PlatformId} {E : List CallEvent} {m : Nat}
    {r : Except DeviceError Unit} (h : Position (σ := σ) g p E m (.done r)) :
    ∃ rounds, E = protocol g p r rounds ∧ m = if r.isOk = true then 1 else 0 := by
  generalize hq : (Program.done r : Action σ (Except DeviceError Unit)) = q at h
  cases h with
  | finished r rounds =>
    cases hq
    exact ⟨rounds, rfl, rfl⟩
  | start | failed | allowed | again => cases hq

/-- A wait has done the beginning of a protocol. -/
lemma Position.exists_protocol {g : SemaphoreId} {p : PlatformId} {E : List CallEvent} {m : Nat}
    {q : Action σ (Except DeviceError Unit)} (h : Position g p E m q) :
    ∃ r rounds, E <+: protocol g p r rounds := by
  cases h with
  | start => exact ⟨.ok (), 0, List.nil_prefix⟩
  | failed next => exact ⟨.error .timedOut, 0, List.prefix_append ..⟩
  | allowed next => exact ⟨.ok (), 1, relaxes p ++ tries g true, rfl⟩
  | again next => exact ⟨.ok (), 1, List.prefix_append ..⟩
  | finished r rounds => exact ⟨r, rounds, List.prefix_rfl⟩

/-- A wait that has got its result has nothing left. -/
lemma Position.of_verdict {g : SemaphoreId} {p : PlatformId} {E : List CallEvent} {m : Nat}
    {q : Action σ (Except DeviceError Unit)} (h : Position g p E m q) {r : Except DeviceError Unit}
    (verdict : E.getLast?.bind CallEvent.verdict? = some r) : q = .done r := by
  cases h with
  | start | failed | allowed | again => cases verdict
  | finished r' rounds =>
    rw [verdict?_protocol] at verdict
    cases verdict
    rfl

/-- A wait goes on by waiting again after a round, or by a call that belongs to a protocol. -/
lemma Position.of_call {g : SemaphoreId} {p : PlatformId} {E : List CallEvent} {m : Nat} {c : Call}
    {next : c.Answer → Action σ (Except DeviceError Unit)}
    (h : Position g p E m (.ask (.call c) next)) :
    (c = .routine (.wait g p) ∧ E = round g p) ∨
      (c.isWait g p = false ∧ ∃ r rounds, E ++ [.begins c] <+: protocol g p r rounds) := by
  generalize hq : (Program.ask (.call c) next : Action σ (Except DeviceError Unit)) = q at h
  cases h with
  | start =>
    cases hq
    exact .inr ⟨rfl, .ok (), 0, [_], rfl⟩
  | failed next =>
    cases hq
    exact .inr ⟨rfl, .error .timedOut, 0, [_], rfl⟩
  | allowed next =>
    cases hq
    exact .inr ⟨rfl, .ok (), 1, [_, _, _], rfl⟩
  | again next =>
    cases hq
    exact .inl ⟨rfl, rfl⟩
  | finished r rounds => cases hq

end Semaphore

/-- For an attempt is taken what is taken in it. -/
lemma Attempted.takenFor_eq {g : SemaphoreId} {S : List (Nat × Call)} {T : List (Moment σ)}
    {known : Prop} {x : Bool} (h : Attempted g S T known x) : takenFor g S.length T = x.toNat := by
  rw [← h.taken]
  refine List.countP_congr fun m hm => ?_
  obtain ⟨R, calls, routines⟩ := h.alone m hm
  have all : (R.map Prod.snd).all Call.isRoutine = true := by simpa using routines
  rw [Moment.takesFor, Moment.above_append calls, all, Bool.and_true]

namespace Board

variable {B : Board σ} {S : List (Nat × Call)} {T : List (Moment σ)} {g : SemaphoreId}
  {p : PlatformId}

/-- A wait is carried out by its protocol. -/
theorem Enacts.of_wait {q : Action σ (Except DeviceError Unit)}
    (h : B.Enacts S (Semaphore.wait g p) T q) :
    Semaphore.Position g p (events (Call.isWait g p) S.length T) (takenFor g S.length T) q := by
  -- A wait goes on with another wait, which has fewer steps.
  induction hn : T.length using Nat.strong_induction_on generalizing S T q with
  | h n ih =>
    obtain ⟨rfl, rfl⟩ | ⟨k, t, w, x, d, T₁, T₂, rfl, tried, rest⟩ := enacts_call_iff.mp h
    · exact .start
    rw [events_call tried rfl, takenFor_routine tried rfl, (of_tryWait tried).takenFor_eq]
    cases x with
    | true =>
      obtain ⟨rfl, rfl⟩ := enacts_done_iff.mp rest
      exact .finished (.ok ()) 0
    | false =>
      obtain ⟨rfl, rfl⟩ | ⟨k', t', w', r, d', T₃, T₄, rfl, asked, rest⟩ := enacts_call_iff.mp rest
      · exact .failed _
      rw [events_call asked rfl, takenFor_other asked rfl]
      cases r with
      | error e =>
        obtain ⟨rfl, rfl⟩ := enacts_done_iff.mp rest
        exact .finished (.error e) 0
      | ok y =>
        obtain ⟨rfl, rfl⟩ | ⟨k₂, t₂, w₂, r, d₂, T₅, T₆, rfl, relaxed, rest⟩ :=
          enacts_call_iff.mp rest
        · exact .allowed _
        rw [events_call relaxed rfl, takenFor_other relaxed rfl]
        obtain ⟨rfl, rfl⟩ | ⟨k₃, t₃, w₃, r, d₃, T₇, T₈, rfl, waited, rest⟩ :=
          enacts_call_iff.mp rest
        · exact .again _
        obtain ⟨rfl, rfl⟩ := enacts_done_iff.mp rest
        have wait : Call.isWait g p (.routine (.wait g p)) = true := by simp [Call.isWait]
        have less : T₇.length < n := by
          simp only [List.length_cons, List.length_append] at hn
          omega
        obtain ⟨rounds, done, taken⟩ := (ih T₇.length less waited rfl).of_done
        rw [events_wait waited wait, takenFor_routine waited rfl, done, taken]
        rw [events_nil, takenFor_nil, List.append_nil, Nat.add_zero, Bool.toNat_false, Nat.zero_add]
        exact .finished r (rounds + 1)

/-- A wait in progress has done the beginning of a protocol.  If it has got its result, it and all
the waits by which it went on have nothing left to do but to end with the result. -/
theorem Inside.of_wait {S' : List (Nat × Call)} {c₀ c : Call} {q : Action σ c.Answer}
    (h : B.Inside S c₀ T S' c q) (waits : c₀ = .routine (.wait g p)) :
    (∃ r rounds, events (Call.isWait g p) S.length T <+: Semaphore.protocol g p r rounds) ∧
    ∀ r, (events (Call.isWait g p) S.length T).getLast?.bind CallEvent.verdict? = some r →
      (⟨c, q⟩ : Σ c : Call, Action σ c.Answer) = ⟨.routine (.wait g p), .done r⟩ := by
  induction h with
  | here h =>
    subst waits
    have position := Enacts.of_wait h
    refine ⟨position.exists_protocol, fun r verdict => ?_⟩
    rw [position.of_verdict verdict]
  | @inside S _ _ c' _ T₁ T₂ k next _ h inner ih =>
    subst waits
    rw [events_append, events_called]
    rcases (Enacts.of_wait h).of_call with ⟨rfl, round⟩ | ⟨other, r, rounds, begins⟩
    · have wait : Call.isWait g p (.routine (.wait g p)) = true := by simp [Call.isWait]
      obtain ⟨⟨r, rounds, more⟩, result⟩ := ih rfl
      rw [events_through inner wait, round, if_pos wait, List.nil_append]
      refine ⟨⟨r, rounds + 1, (List.prefix_append_right_inj _).mpr more⟩,
        fun r verdict => result r ?_⟩
      -- The round before did not give a result, so that it is the later wait that has got it.
      rw [List.getLast?_append] at verdict
      cases later : (events (Call.isWait g p)
        ((k, .routine (.wait g p)) :: S).length T₂).getLast? with
      | none =>
        rw [later] at verdict
        cases verdict
      | some e =>
        rw [later] at verdict
        exact verdict
    · rw [events_other inner other, other, if_neg Bool.false_ne_true, List.append_nil]
      refine ⟨⟨r, rounds, begins⟩, fun r verdict => ?_⟩
      rw [List.getLast?_append] at verdict
      cases verdict

end Board

end LedDriver
