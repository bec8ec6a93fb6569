import LedDriver.Proofs.Semaphore.Protocol
import LedDriver.Proofs.System.Discretion

/-!
# Waiting for a permit

What a wait does in a run, and how it ends.  In a run of several parties a wait does the beginning
of a protocol (`Pool.Runs.wait_beginning`), and the whole of one if it ends (`Pool.Runs.wait_over`);
when it has got its result, nobody can keep it from ending (`Pool.Runs.wait_ends`).  An attempt
takes a permit exactly if it finds one (`Pool.Runs.attempt_over`).

For one party alone, `Board.Awaits` describes a wait by the worlds that it finds at its attempts,
each `Board.Round` being what the platform does between two of them, which may include that permits
appear.  A wait that is so described is carried out, and does nothing but its protocol
(`Board.Awaits.perform`).  On a platform that answers from a script (`Board.Scripted`) the worlds
follow from the script.  The theorem `Semaphore.wait_follows_protocol` puts all of it together.
-/

namespace LedDriver

variable {σ α : Type} {n : Nat}

/-! ## Waits under all schedules -/

namespace Pool

variable {B : Board σ} {P : Pool n σ α} {l : List (Fin n × Label σ)} {base : World σ}
  {clients : Fin n → Reaction σ α} {i : Fin n} {g : SemaphoreId} {p : PlatformId}

/-- What was done on behalf of a wait that has ended is what carries it out, and its end. -/
lemma Runs.position_of_returned (run : Runs B (startIn base clients) l P) {k t : Nat}
    {S : List (Nat × Call)} {w : World σ} {r : Except DeviceError Unit} {d : List (Deed σ)}
    (ended : ⟨t, (k, .routine (.wait g p)) :: S, .returned (.routine (.wait g p)) w r d⟩ ∈
      moments i l) :
    Semaphore.Position (σ := σ) g p (events (Call.isWait g p) (S.length + 1) (behalf i l k))
      (takenFor g (S.length + 1) (behalf i l k)) (.done r) := by
  obtain ⟨T, whole, enacts⟩ := run.behalf_of_returned ended
  have silent : events (Call.isWait g p) (S.length + 1) [(⟨t, (k, .routine (.wait g p)) :: S,
      .returned (.routine (.wait g p)) w r d⟩ : Moment σ)] = [] := by
    simp [events, Moment.event?, Call.isWait]
  have keeps : takenFor g (S.length + 1) [(⟨t, (k, .routine (.wait g p)) :: S,
      .returned (.routine (.wait g p)) w r d⟩ : Moment σ)] = 0 := rfl
  rw [whole, events_append, silent, List.append_nil, takenFor, List.countP_append, ← takenFor,
    ← takenFor, keeps, Nat.add_zero]
  exact Board.Enacts.of_wait enacts

/-- A wait in progress, or one that has ended, has done the beginning of a protocol. -/
theorem Runs.wait_beginning (run : Runs B (startIn base clients) l P) {k : Nat}
    {S : List (Nat × Call)} (began : ⟨k, S, .called (.routine (.wait g p))⟩ ∈ moments i l) :
    ∃ r rounds, events (Call.isWait g p) (S.length + 1) (behalf i l k) <+:
      Semaphore.protocol g p r rounds := by
  rcases run.returned_of_called began with progress | ⟨t, w, x, d, ended⟩
  · obtain ⟨R, S', calls⟩ := List.append_of_mem progress
    obtain ⟨-, same⟩ := eq_of_time began (mem_of_calls calls) rfl
    cases same
    obtain ⟨_, _, _, _, _, -, inside⟩ := run.behalf_of_calls calls
    exact (inside.of_wait rfl).1
  · exact (run.position_of_returned ended).exists_protocol

/-- A wait that has ended has done a whole protocol with its result, and has taken one permit if it
succeeded and none if it was refused. -/
theorem Runs.wait_over (run : Runs B (startIn base clients) l P) {k t : Nat}
    {S : List (Nat × Call)} {w : World σ} {r : Except DeviceError Unit} {d : List (Deed σ)}
    (ended : ⟨t, (k, .routine (.wait g p)) :: S, .returned (.routine (.wait g p)) w r d⟩ ∈
      moments i l) :
    ∃ rounds, events (Call.isWait g p) (S.length + 1) (behalf i l k) =
        Semaphore.protocol g p r rounds ∧
      takenFor g (S.length + 1) (behalf i l k) = if r.isOk = true then 1 else 0 :=
  (run.position_of_returned ended).of_done

/-- The end of a wait is nothing that a wait does itself. -/
lemma events_behalf_snoc {w : World σ} {r : Except DeviceError Unit} {d : List (Deed σ)} {k : Nat}
    (depth : Nat) (l : List (Fin n × Label σ)) :
    events (Call.isWait g p) depth
        (behalf i (l ++ [(i, .returned (.routine (.wait g p)) w r d)]) k) =
      events (Call.isWait g p) depth (behalf i l k) := by
  rw [behalf, moments_snoc, List.filter_append, ← behalf, events_append]
  have silent :
      (moment i l (.returned (.routine (.wait g p)) w r d)).event? (Call.isWait g p) depth =
        none := by
    simp [moment, Moment.event?, Call.isWait]
  cases h : (moment i l (.returned (.routine (.wait g p)) w r d)).isFor k <;>
    simp [events, h, silent]

/-- Where a wait in progress has got its result, the innermost wait by which it went on ends with it
in a step of its party. -/
lemma Runs.exists_wait_end (run : Runs B (startIn base clients) l P) {k : Nat}
    {R S : List (Nat × Call)} (progress : calls i l = R ++ (k, .routine (.wait g p)) :: S)
    {r : Except DeviceError Unit} (verdict :
      (events (Call.isWait g p) (S.length + 1) (behalf i l k)).getLast?.bind CallEvent.verdict? =
        some r) :
    ∃ w d Q, Step B P (i, .returned (.routine (.wait g p)) w r d) Q := by
  obtain ⟨c', w, d, q, callers, party, inside⟩ := run.behalf_of_calls progress
  cases (inside.of_wait rfl).2 r verdict
  cases callers with
  | call _ w₀ past next outer =>
    have step : B.Step P.world (P.parties i) (.returned (.routine (.wait g p)) w r d) P.world
        ⟨_, w₀, past ++ [.received (.routine (.wait g p)) r], next r, outer⟩ := by
      rw [party]
      exact .return ..
    exact ⟨w, d, _, .party step⟩

/-- A wait in progress that has got its result ends with it, by steps of its party alone. -/
theorem Runs.wait_ends (run : Runs B (startIn base clients) l P) {k : Nat}
    {R S : List (Nat × Call)} (progress : calls i l = R ++ (k, .routine (.wait g p)) :: S)
    {r : Except DeviceError Unit} (verdict :
      (events (Call.isWait g p) (S.length + 1) (behalf i l k)).getLast?.bind CallEvent.verdict? =
        some r) :
    ∃ l' Q, Runs B P l' Q ∧ (∀ e ∈ l', e.1 = i) ∧ ∃ t w d,
      ⟨t, (k, .routine (.wait g p)) :: S, .returned (.routine (.wait g p)) w r d⟩ ∈
        moments i (l ++ l') := by
  induction R generalizing l P with
  | nil =>
    obtain ⟨w, d, Q, step⟩ := run.exists_wait_end progress verdict
    refine ⟨[(i, .returned (.routine (.wait g p)) w r d)], Q, .tail (.refl P) step, by simp,
      l.length, w, d, ?_⟩
    rw [moments_snoc, moment, progress]
    simp
  | cons y R ih =>
    obtain ⟨w, d, Q, step⟩ := run.exists_wait_end progress verdict
    have later : calls i (l ++ [(i, .returned (.routine (.wait g p)) w r d)]) =
        R ++ (k, .routine (.wait g p)) :: S := by
      rw [calls_snoc, Moment.after, moment, progress]
      rfl
    rw [← events_behalf_snoc (w := w) (r := r) (d := d)] at verdict
    obtain ⟨l', Q', rest, own, ended⟩ := ih (run.tail step) later verdict
    refine ⟨(i, .returned (.routine (.wait g p)) w r d) :: l', Q', .head step rest, ?_, ?_⟩
    · exact List.forall_mem_cons.mpr ⟨rfl, own⟩
    · rwa [List.append_cons]

/-- An attempt that has ended took one permit if it succeeded, and it found one then; if it failed
it took none, and the semaphore had none at some time during the attempt. -/
theorem Runs.attempt_over (run : Runs B (startIn base clients) l P) {k t : Nat}
    {S : List (Nat × Call)} {w : World σ} {x : Bool} {d : List (Deed σ)}
    (ended : ⟨t, (k, .routine (.tryWait g)) :: S, .returned (.routine (.tryWait g)) w x d⟩ ∈
      moments i l) :
    takenFor g (S.length + 1) (behalf i l k) = x.toNat ∧
    (x = true →
      ∃ m ∈ behalf i l k, m.label.takes g = true ∧ ∃ v, v ≠ 0 ∧ m.label.found? g = some v) ∧
    (x = false → Exhausted B base clients l g k t) := by
  obtain ⟨T, whole, enacts⟩ := run.behalf_of_returned ended
  have keeps : takenFor g (S.length + 1) [(⟨t, (k, .routine (.tryWait g)) :: S,
      .returned (.routine (.tryWait g)) w x d⟩ : Moment σ)] = 0 := rfl
  have taken : takenFor g (S.length + 1) (behalf i l k) = x.toNat := by
    rw [whole, takenFor, List.countP_append, ← takenFor, ← takenFor, keeps, Nat.add_zero]
    exact (Board.Enacts.of_tryWait enacts).takenFor_eq
  refine ⟨taken, fun success => ?_, fun failure => ?_⟩
  · subst success
    obtain ⟨m, hm, takes⟩ := List.countP_pos_iff.mp (Nat.lt_of_lt_of_eq Nat.zero_lt_one taken.symm)
    have takes : m.label.takes g = true := (Bool.and_eq_true_iff.mp takes).1
    exact ⟨m, hm, takes, run.found_of_takes (List.mem_of_mem_filter hm) takes⟩
  · subst failure
    exact run.exhausted_of_failed ended

end Pool

/-! ## Waits of one party alone -/

/-- What a call begins and ends, if it waits, with what the calls do by which it goes on waiting. -/
def CallTree.events (waits : Call → Bool) : CallTree σ → List CallEvent
  | node c _ x _ ts =>
    if waits c then ts.flatMap fun t => t.events waits else [.begins c, .ends c x]

namespace CallTree

variable {waits : Call → Bool} {c : Call} {w w' : World σ} {x : c.Answer} {ts : List (CallTree σ)}

/-- A call that waits does what the calls inside it do. -/
lemma events_wait (wait : waits c = true) :
    (node c w x w' ts).events waits = ts.flatMap (CallTree.events waits) := by
  simp only [events, wait, if_pos]

/-- A call that does not wait begins and ends. -/
lemma events_other (other : waits c = false) :
    (node c w x w' ts).events waits = [.begins c, .ends c x] := by
  simp only [events, other, if_neg Bool.false_ne_true]

end CallTree

namespace Board

variable {B : Board σ} {g : SemaphoreId} {p : PlatformId} {depth : Nat}

/-- An attempt finds no permit, the platform says to go on, and others run and leave another
world. -/
structure Round (B : Board σ) (depth : Nat) (g : SemaphoreId) (p : PlatformId) (w w' : World σ) :
    Prop where
  none : (w.semaphore g).permits = 0
  passed : ∃ v ts us, B.perform depth (.peer (.checkWait p)) w = .ok ⟨.ok (), v, ts⟩ ∧
    B.perform depth (.peer (.relax p)) v = .ok ⟨(), w', us⟩

/-- A wait that begins in a world ends with a result in another world, after a number of rounds. -/
inductive Awaits (B : Board σ) (depth : Nat) (g : SemaphoreId) (p : PlatformId) :
    World σ → Except DeviceError Unit → World σ → Nat → Prop
  | free {w : World σ} (some : (w.semaphore g).permits ≠ 0) :
      B.Awaits depth g p w (.ok ()) (w.taken g) 0
  | refused {w v : World σ} {e : DeviceError} {ts : List (CallTree σ)}
      (none : (w.semaphore g).permits = 0)
      (told : B.perform depth (.peer (.checkWait p)) w = .ok ⟨.error e, v, ts⟩) :
      B.Awaits depth g p w (.error e) v 0
  | round {w w' v : World σ} {r : Except DeviceError Unit} {m : Nat}
    (first : B.Round depth g p w w') (rest : B.Awaits depth g p w' r v m) :
      B.Awaits depth g p w r v (m + 1)

/-- A call that was carried out and is no wait begins and ends. -/
lemma events_of_perform {waits : Call → Bool} {c : Call} {w : World σ} {x : Outcome σ c.Answer}
    (h : B.perform depth c w = .ok x) (other : waits c = false) :
    x.calls.flatMap (CallTree.events waits) = [.begins c, .ends c x.result] := by
  obtain ⟨d, inner, -, -, calls⟩ := exists_of_perform h
  rw [calls, List.flatMap_singleton, CallTree.events_other other]

/-- Where the rounds of a wait and its end are given, the wait is carried out, and what it does is
its protocol. -/
theorem Awaits.perform {w w' : World σ} {r : Except DeviceError Unit} {m : Nat}
    (h : B.Awaits depth g p w r w' m) (session : w.Has g) : ∃ t,
    B.perform (depth + m + 3) (.routine (.wait g p)) w = .ok ⟨r, w', [t]⟩ ∧
      t.events (Call.isWait g p) = Semaphore.protocol g p r m := by
  have wait : Call.isWait g p (.routine (.wait g p)) = true := by simp [Call.isWait]
  induction h with
  | @free w some =>
    obtain ⟨inner, tried⟩ := B.perform_tryWait_free depth session some
    have waited : B.run (depth + 2) (Semaphore.wait g p) w = .ok ⟨.ok (), w.taken g, _⟩ :=
      run_call_iff.mpr ⟨_, _, tried, rfl, rfl⟩
    refine ⟨_, perform_succ_iff.mpr ⟨_, waited, rfl⟩, ?_⟩
    rw [CallTree.events_wait wait, List.flatMap_append, events_of_perform tried rfl]
    rfl
  | @refused w v e ts none told =>
    obtain ⟨inner, tried⟩ := B.perform_tryWait_none depth session none
    have told := perform_mono (Nat.le_add_right depth 2) told
    have waited : B.run (depth + 2) (Semaphore.wait g p) w = .ok ⟨.error e, v, _⟩ :=
      run_call_iff.mpr ⟨_, _, tried, run_call_iff.mpr ⟨_, _, told, rfl, rfl⟩, rfl⟩
    refine ⟨_, perform_succ_iff.mpr ⟨_, waited, rfl⟩, ?_⟩
    rw [CallTree.events_wait wait, List.flatMap_append, events_of_perform tried rfl,
      List.flatMap_append, events_of_perform told rfl]
    rfl
  | @round w w' v r m first rest ih =>
    obtain ⟨u, ts, us, told, relaxed⟩ := first.passed
    obtain ⟨inner, tried⟩ := B.perform_tryWait_none (depth + m + 1) session first.none
    have told := perform_mono (show depth ≤ depth + m + 3 by omega) told
    have relaxed := perform_mono (show depth ≤ depth + m + 3 by omega) relaxed
    have session' : w'.Has g := fun s hs => Nat.lt_of_lt_of_le (session s hs)
      ((issued_le_of_perform told).1.trans (issued_le_of_perform relaxed).1)
    obtain ⟨t, again, done⟩ := ih session'
    have waited : B.run (depth + m + 3) (Semaphore.wait g p) w = .ok ⟨r, v, _⟩ :=
      run_call_iff.mpr ⟨_, _, tried, run_call_iff.mpr ⟨_, _, told, run_call_iff.mpr
        ⟨_, _, relaxed, run_call_iff.mpr ⟨_, _, again, rfl, rfl⟩, rfl⟩, rfl⟩, rfl⟩
    refine ⟨_, perform_succ_iff.mpr ⟨_, waited, rfl⟩, ?_⟩
    rw [CallTree.events_wait wait, List.flatMap_append, events_of_perform tried rfl,
      List.flatMap_append, events_of_perform told rfl, List.flatMap_append,
      events_of_perform relaxed rfl, List.append_nil, List.flatMap_singleton, done]
    rfl

/-- A platform answers from a script, in which it keeps its place; others do nothing to the driver
while the platform checks a wait or lets them run. -/
structure Scripted (B : Board σ) (p : PlatformId) (script : Nat → Except DeviceError Unit)
    (position : σ → Nat) : Prop where
  checkWait : ∀ depth w, ∃ a, B.run depth (B.platform p).checkWait.action w =
    .ok ⟨script (position w.own), { w with own := a }, []⟩ ∧ position a = position w.own + 1
  relax : ∀ depth w, ∃ a, B.run depth (B.platform p).relax.action w =
    .ok ⟨(), { w with own := a }, []⟩ ∧ position a = position w.own

/-- Where there is no permit and nobody posts one, a wait goes on as long as the script lets it. -/
lemma Scripted.awaits {script : Nat → Except DeviceError Unit} {position : σ → Nat}
    (scripted : B.Scripted p script position) {k : Nat} {e : DeviceError} {w : World σ}
    (none : (w.semaphore g).permits = 0) (passes : ∀ j < k, script (position w.own + j) = .ok ())
    (fails : script (position w.own + k) = .error e) :
    ∃ a, B.Awaits 1 g p w (.error e) { w with own := a } k := by
  induction k generalizing w with
  | zero =>
    obtain ⟨a, told, -⟩ := scripted.checkWait 0 w
    rw [Nat.add_zero] at fails
    rw [fails] at told
    exact ⟨a, .refused none (perform_succ_iff.mpr ⟨_, told, rfl⟩)⟩
  | succ k ih =>
    obtain ⟨a, told, next⟩ := scripted.checkWait 0 w
    obtain ⟨b, relaxed, still⟩ := scripted.relax 0 { w with own := a }
    have place : position b = position w.own + 1 := still.trans next
    have passed : script (position w.own) = .ok () := passes 0 (Nat.succ_pos k)
    rw [passed] at told
    have round : B.Round 1 g p w { w with own := b } :=
      ⟨none, _, _, _, perform_succ_iff.mpr ⟨_, told, rfl⟩, perform_succ_iff.mpr ⟨_, relaxed, rfl⟩⟩
    obtain ⟨c, rest⟩ := ih (w := { w with own := b }) none
      (fun j hj => by
        rw [place, Nat.add_right_comm]
        exact passes (j + 1) (Nat.succ_lt_succ hj))
      (by
        rw [place, Nat.add_right_comm]
        exact fails)
    exact ⟨c, .round round rest⟩

/-- A wait whose rounds are given one after the other, up to an attempt that finds a permit or a
refusal. -/
lemma Awaits.of_rounds {w : Nat → World σ} {m : Nat} {r : Except DeviceError Unit} {v : World σ}
    (rounds : ∀ j < m, B.Round depth g p (w j) (w (j + 1)))
    (last : B.Awaits depth g p (w m) r v 0) :
    B.Awaits depth g p (w 0) r v m := by
  induction m generalizing w with
  | zero => exact last
  | succ m ih =>
    have rest :=
      ih (w := fun j => w (j + 1)) (fun j hj => rounds (j + 1) (Nat.succ_lt_succ hj)) last
    exact .round (rounds 0 (Nat.succ_pos m)) rest

/-- A wait ends with a result in a world after a number of rounds, however deeply calls may nest
beyond what it takes. -/
def WaitsFor (B : Board σ) (depth : Nat) (g : SemaphoreId) (p : PlatformId) (w : World σ)
    (r : Except DeviceError Unit) (v : World σ) (m : Nat) : Prop :=
  ∃ t, (∀ deeper, depth + m + 3 ≤ deeper →
      B.perform deeper (.routine (.wait g p)) w = .ok ⟨r, v, [t]⟩) ∧
    t.events (Call.isWait g p) = Semaphore.protocol g p r m

lemma Awaits.waitsFor {w v : World σ} {r : Except DeviceError Unit} {m : Nat}
    (h : B.Awaits depth g p w r v m) (session : w.Has g) : B.WaitsFor depth g p w r v m := by
  obtain ⟨t, performed, done⟩ := h.perform session
  exact ⟨t, fun deeper le => perform_mono le performed, done⟩

end Board

/-! ## The protocol as a whole -/

/-- The platform begins to check a wait. -/
def CallEvent.checks (p : PlatformId) : CallEvent → Bool
  | begins (.peer (.checkWait p')) => p' = p
  | _ => false

/-- The platform begins to let others run. -/
def CallEvent.relaxes (p : PlatformId) : CallEvent → Bool
  | begins (.peer (.relax p')) => p' = p
  | _ => false

/-- In a protocol, others are let run once a round, and the platform is asked once a round and once
more if it refuses. -/
lemma Semaphore.countP_protocol (g : SemaphoreId) (p : PlatformId) (r : Except DeviceError Unit)
    (m : Nat) :
    (protocol g p r m).countP (CallEvent.checks p) = (if r.isOk = true then m else m + 1) ∧
      (protocol g p r m).countP (CallEvent.relaxes p) = m := by
  induction m with
  | zero =>
    cases r <;> simp [protocol, tries, asks, CallEvent.checks, CallEvent.relaxes, Except.isOk,
      Except.toBool]
  | succ m ih =>
    have checks : (round g p).countP (CallEvent.checks p) = 1 := by
      simp [round, tries, asks, Semaphore.relaxes, CallEvent.checks]
    have relaxes : (round g p).countP (CallEvent.relaxes p) = 1 := by
      simp [round, tries, asks, Semaphore.relaxes, CallEvent.relaxes]
    rw [protocol, List.countP_append, List.countP_append, checks, relaxes, ih.1, ih.2]
    refine ⟨?_, Nat.add_comm ..⟩
    split <;> omega

/-- What a party has done for a wait that it began at some time of a run, with some calls in
progress. -/
structure Pool.WaitRecord (B : Board σ) (l : List (Fin n × Label σ)) (P : Pool n σ α) (i : Fin n)
    (g : SemaphoreId) (p : PlatformId) (k : Nat) (S : List (Nat × Call)) : Prop where
  /-- The wait has done the beginning of a protocol. -/
  beginning : ∃ r rounds, events (Call.isWait g p) (S.length + 1) (behalf i l k) <+:
    Semaphore.protocol g p r rounds
  /-- If it has ended, it has done the whole of one, with its result, and has taken one permit if it
  succeeded and none otherwise. -/
  whole : ∀ t w r d,
    ⟨t, (k, .routine (.wait g p)) :: S, .returned (.routine (.wait g p)) w r d⟩ ∈ moments i l →
      ∃ rounds, events (Call.isWait g p) (S.length + 1) (behalf i l k) =
          Semaphore.protocol g p r rounds ∧
        takenFor g (S.length + 1) (behalf i l k) = if r.isOk = true then 1 else 0
  /-- If it is in progress and has got its result, it ends with it by steps of its party alone. -/
  ends : ∀ R r, calls i l = R ++ (k, .routine (.wait g p)) :: S →
    (events (Call.isWait g p) (S.length + 1) (behalf i l k)).getLast?.bind CallEvent.verdict? =
      some r →
      ∃ l' Q, Runs B P l' Q ∧ (∀ e ∈ l', e.1 = i) ∧ ∃ t w d,
        ⟨t, (k, .routine (.wait g p)) :: S, .returned (.routine (.wait g p)) w r d⟩ ∈
          moments i (l ++ l')

namespace Semaphore

open Pool in
/-- A wait follows its protocol.  Under all schedules, whatever other parties do with the semaphore,
a wait in progress has done the beginning of a protocol and ends with it once it has got its result;
one that has ended has taken one permit if it succeeded and none if it was refused, and an attempt
succeeds exactly if it finds a permit.  Where the worlds are given that a wait finds at its
attempts, it ends at the first attempt that finds a permit, or with the first refusal, and does
nothing but its protocol; in particular, a permit that is free at the beginning is taken with no
call of the platform.  Where there is no permit and nobody posts one, and the platform answers from
a script whose first error comes after a number of successes, the platform is asked once more than
that number and others are let run that number of times, and the wait ends with the error and leaves
the semaphores as they are. -/
theorem wait_follows_protocol (B : Board σ) (g : SemaphoreId) (p : PlatformId) :
    (∀ (n : Nat) (α : Type) (base : World σ) (clients : Fin n → Reaction σ α)
        (l : List (Fin n × Label σ)) (P : Pool n σ α) (i : Fin n),
      Runs B (startIn base clients) l P →
        (∀ k S, ⟨k, S, .called (.routine (.wait g p))⟩ ∈ moments i l → WaitRecord B l P i g p k S) ∧
        ∀ k t S w x d,
          ⟨t, (k, .routine (.tryWait g)) :: S, .returned (.routine (.tryWait g)) w x d⟩ ∈
            moments i l →
            takenFor g (S.length + 1) (behalf i l k) = x.toNat ∧
            (x = true → ∃ m ∈ behalf i l k, m.label.takes g = true ∧
              ∃ v, v ≠ 0 ∧ m.label.found? g = some v) ∧
            (x = false → Exhausted B base clients l g k t)) ∧
    (∀ (depth : Nat) (w : Nat → World σ) (m : Nat),
      (∀ j < m, B.Round depth g p (w j) (w (j + 1))) → (w 0).Has g →
        (((w m).semaphore g).permits ≠ 0 →
          B.WaitsFor depth g p (w 0) (.ok ()) ((w m).taken g) m) ∧
        ∀ e v ts, ((w m).semaphore g).permits = 0 →
          B.perform depth (.peer (.checkWait p)) (w m) = .ok ⟨.error e, v, ts⟩ →
            B.WaitsFor depth g p (w 0) (.error e) v m) ∧
    ∀ (script : Nat → Except DeviceError Unit) (position : σ → Nat) (w : World σ) (k : Nat)
        (e : DeviceError), B.Scripted p script position → w.Has g → (w.semaphore g).permits = 0 →
      (∀ j < k, script (position w.own + j) = .ok ()) → script (position w.own + k) = .error e →
        ∃ a t, (∀ depth, k + 4 ≤ depth →
            B.perform depth (.routine (.wait g p)) w = .ok ⟨.error e, { w with own := a }, [t]⟩) ∧
          (t.events (Call.isWait g p)).countP (CallEvent.checks p) = k + 1 ∧
          (t.events (Call.isWait g p)).countP (CallEvent.relaxes p) = k := by
  refine ⟨fun n α base clients l P i run => ⟨fun k S began => ?_, fun k t S w x d ended => ?_⟩,
    fun depth w m rounds session => ⟨fun free => ?_, fun e v ts none told => ?_⟩,
    fun script position w k e scripted session none passes fails => ?_⟩
  · exact ⟨run.wait_beginning began, fun t w r d ended => run.wait_over ended,
      fun R r progress verdict => run.wait_ends progress verdict⟩
  · exact run.attempt_over ended
  · exact (Board.Awaits.of_rounds rounds (.free free)).waitsFor session
  · exact (Board.Awaits.of_rounds rounds (.refused none told)).waitsFor session
  · obtain ⟨a, awaits⟩ := scripted.awaits none passes fails
    obtain ⟨t, performed, done⟩ := awaits.waitsFor session
    obtain ⟨checks, relaxes⟩ := countP_protocol g p (.error e) k
    refine ⟨a, t, fun depth le => performed depth (by omega), ?_, ?_⟩
    · rw [done, checks]
      rfl
    · rw [done, relaxes]

/-- A board whose platform lets a party go on waiting twice. -/
def patience : Board Nat where
  lower _ := .obedient (pure (.ok ()))
  platform _ :=
    { enter := pure 0
      leave := fun _ => pure ()
      checkWait := do
        let place ← Reaction.own (· + 1)
        pure (if place < 2 then .ok () else .error .interrupted)
      relax := pure () }
  log _ := pure ()
  publish _ _ _ _ := pure (.ok ())

/-- The world before anything happened, with no permit of a lone semaphore. -/
def drained : World Nat := { World.initial 0 with semaphore := fun _ => ⟨0⟩ }

open Pool in
/-- A client that waits in vain has its platform asked three times and lets others run twice. -/
theorem wait_follows_protocol_patience :
    (∃ a t, (∀ depth, 6 ≤ depth → patience.perform depth (.routine (.wait (.alone 0) 0)) drained =
        .ok ⟨.error .interrupted, { drained with own := a }, [t]⟩) ∧
      (t.events (Call.isWait (.alone 0) 0)).countP (CallEvent.checks 0) = 3 ∧
      (t.events (Call.isWait (.alone 0) 0)).countP (CallEvent.relaxes 0) = 2) ∧
    ∃ (l : List (Fin 1 × Label Nat)) (P : Pool 1 Nat (Except DeviceError Unit)),
      Runs patience (startIn drained fun _ => (Service.wait 0 0).use) l P ∧
        WaitRecord patience l P 0 (.alone 0) 0 1 [(0, .service (.wait 0 0))] := by
  have scripted : patience.Scripted 0
      (fun place => if place < 2 then .ok () else .error .interrupted) id :=
    ⟨fun depth w => ⟨w.own + 1, rfl, rfl⟩, fun depth w => ⟨w.own, rfl, rfl⟩⟩
  have h : ((startIn drained fun _ => (Service.wait 0 0).use :
      Pool 1 Nat (Except DeviceError Unit)).play patience (.replicate 30 0)).isSome := rfl
  obtain ⟨schedules, -, scripts⟩ := wait_follows_protocol patience (.alone 0) 0
  refine ⟨?_, _, _, runs_of_isSome h, ?_⟩
  · refine scripts _ id drained 2 .interrupted scripted nofun rfl (fun j hj => ?_) rfl
    exact if_pos (by simpa [drained, World.initial] using hj)
  · exact (schedules 1 _ _ _ _ _ 0 (runs_of_isSome h)).1 1 _ (List.mem_of_getElem? (i := 1) rfl)

end Semaphore

end LedDriver
