import LedDriver.Proofs.Serial.Replay
import LedDriver.Proofs.Serial.Stores
import LedDriver.Proofs.Serial.Waits

/-!
# Serializability

Any number of parties open and close a device under any schedule.  Where no call is in progress,
they have done what one party does alone that makes the calls that got the permit, one after the
other, in the order in which they got it: with the same answers, the same work of the hardware, and
the same count and state of the hardware in the end (`Runs.serial`).  The other calls have done
nothing.

The calls that got the permit are those of the history of the session.  Its account leads from call
to call, and each of them takes its step of the account again when it is made alone
(`Board.run_inTurn`).
-/

namespace LedDriver

variable {σ τ α : Type} {n : Nat}

/-- The service that ends in a step. -/
def Label.service? : Label σ → Option Service
  | .returned (.service c) _ _ _ => some c
  | _ => none

/-- The call that ends in a step, with its answer. -/
def Label.received? : Label σ → Option (Deed σ)
  | .returned c _ x _ => some (.received c x)
  | .acted _ _ | .called _ => none

/-- A service ends whose deeds, as part of an account of the open count and of the hardware, are
those of an open or a close that got the permit. -/
def Board.Accounts (B : Board σ) (s : SessionId) (p : Profile) (view : σ → τ)
    (e : Label σ) : Prop :=
  ∃ c w r d, e = .returned (.service c) w r d ∧ ∀ k m t t', Path (Deed.Counts s) k d m →
    Path (B.Drives view) t (d.filter (Deed.isWork s)) t' →
      Served B s p view k t (.received (.service c) r) (d.filter (Deed.isWork s)) m t'

/-- Calls that got the permit one after the other can be made again one after the other by one party
that runs alone. -/
theorem Board.run_inTurn {B : Board σ} {s : SessionId} {p : Profile} {view : σ → τ}
    (board : B.Mechanical s view) {es : List (Fin n × Label σ)}
    (each : ∀ e ∈ es, B.Accounts s p view e.2) {k m : UInt8} {t t' : τ}
    (counts : Path (Deed.Counts s) k (Pool.deeds es) m)
    (drives : Path (B.Drives view) t ((Pool.deeds es).filter (Deed.isWork s)) t') (depth : Nat)
    {w : World σ} (session : s < w.issued) (known : w.profile s = p) (count : w.count s = k)
    (free : (w.semaphore (.guard s)).permits ≠ 0) (own : view w.own = t) :
    ∃ y, B.run (depth + 4) (Service.inTurn (es.filterMap fun e => e.2.service?)).action w = .ok y ∧
      y.calls.map CallTree.deed = es.filterMap (fun e => e.2.received?) ∧
      y.calls.flatMap (fun t => CallTree.works s t.inner) =
        (Pool.deeds es).filter (Deed.isWork s) ∧
      y.world.map view = (w.map view).change s m t' := by
  induction es generalizing k t w with
  | nil =>
    cases counts
    cases drives
    subst count own
    exact ⟨⟨(), w, []⟩, rfl, rfl, rfl, World.change_self.symm⟩
  | cons e es ih =>
    rw [List.forall_mem_cons] at each
    obtain ⟨⟨c, w₀, r, d, made, served⟩, each⟩ := each
    obtain ⟨i, e⟩ := e
    obtain rfl : e = .returned (.service c) w₀ r d := made
    have deeds : Pool.deeds ((i, .returned (.service c) w₀ r d) :: es) = d ++ Pool.deeds es := rfl
    rw [deeds] at counts
    rw [deeds, List.filter_append] at drives ⊢
    obtain ⟨k₁, counts₁, counts⟩ := Path.append_iff.mp counts
    obtain ⟨t₁, drives₁, drives⟩ := Path.append_iff.mp drives
    obtain ⟨v, inner, performed, after, done⟩ :=
      perform_served board (served k k₁ t t₁ counts₁ drives₁) session known count free own depth
    obtain ⟨issued, profile, semaphore, count', own'⟩ := World.of_map_change after
    rw [← issued] at session
    rw [← profile] at known
    rw [← semaphore] at free
    obtain ⟨y, run, answers, works, final⟩ := ih each counts drives session known count' free own'
    refine ⟨_, run_inTurn_cons_iff.mpr ⟨_, y, performed, run, rfl⟩, ?_, ?_, ?_⟩
    · rw [List.map_append, answers]
      rfl
    · rw [List.flatMap_append, works, ← done]
      simp [CallTree.inner]
    · rw [final, after, World.change_change]

/-- A program of a client has no permit. -/
lemma Standing.stage_eq_away_of_uses {s : SessionId} {d : List (Deed σ)}
    (h : ∀ x ∈ d, x.request.IsUse) : (Standing.of s d).stage = .away := by
  induction d using List.reverseRecOn with
  | nil => rfl
  | append_singleton d x ih =>
    rw [List.forall_mem_append, List.forall_mem_singleton] at h
    rw [of_snoc]
    refine next_stage_away (ih h.1) ?_
    cases x with
    | acted a y =>
      cases a <;> try cases h.2
      rfl
    | received c y =>
      cases c <;> try cases h.2
      rfl

namespace Pool

variable {B : Board σ} {P Q : Pool n σ α} {l : List (Fin n × Label σ)} {own : σ}
  {clients : Fin n → Reaction σ α} {s : SessionId} {view : σ → τ}

/-- No call is in progress. -/
def Idle (P : Pool n σ α) : Prop := ∀ i, (P.parties i).owner = none

/-- Where no call is in progress, all programs in progress are those of the clients. -/
lemma Idle.owner_eq_none (idle : P.Idle) {f : Frame σ} (hf : f ∈ P.frames) : f.owner = none := by
  obtain ⟨i, hf⟩ := mem_frames_iff.mp hf
  rw [Party.frames_of_idle (idle i)] at hf
  obtain rfl := List.mem_singleton.mp hf
  rfl

/-- Where no call is in progress, nobody has a permit. -/
lemma Runs.not_holder_of_idle (run : Runs B (start own clients) l P) (idle : P.Idle) (i : Fin n) :
    ¬ P.Holder s i := by
  rintro ⟨f, hf, holds⟩
  have client := idle.owner_eq_none (mem_frames_iff.mpr ⟨i, hf⟩)
  have asked := run.asked hf
  rw [client] at asked
  exact holds (Standing.stage_eq_away_of_uses asked)

/-- A permit of a guard is taken only after each permit taken before was given back, by who took
it. -/
lemma Runs.alternating (run : Runs B (start own clients) l P) (s : SessionId) :
    who (Label.isTaking s) l = who (Label.isPosting s) l ∨
      ∃ i, who (Label.isTaking s) l = who (Label.isPosting s) l ++ [i] := by
  obtain ⟨taken, free⟩ := run.taken s
  by_cases holder : ∃ i, P.Holder s i
  · obtain ⟨i, holds⟩ := holder
    exact .inr ⟨i, taken i holds⟩
  · exact .inl (free (not_exists.mp holder))

/-- An open or a close that got the permit takes its step of the account. -/
lemma Runs.accounts (run : Runs B (start own clients) l P) {i : Fin n} {e : Label σ}
    (he : (i, e) ∈ l) (served : e.isServed s = true) : B.Accounts s (P.world.profile s) view e := by
  cases e with
  | acted | called => cases served
  | returned c w r d =>
    obtain ⟨visits, entered⟩ : c.session? = some s ∧ d.any (Deed.isEntry s) = true := by
      simpa [Label.isServed] using served
    have follows := run.follows_of_returned he
    have known q (hq : Deed.acted (.profile s) q ∈ d) : q = P.world.profile s :=
      (run.profile_of_returned he hq).2
    rcases Call.counts_iff.mpr visits with rfl | rfl
    · exact ⟨_, w, r, d, rfl, fun k m t t' => Session.openDevice_served follows entered known⟩
    · exact ⟨_, w, r, d, rfl, fun k m t t' => Session.closeDevice_served follows entered known⟩

/-- Where no call is in progress, the history of a session is complete: its steps are those in which
the opens and closes end that got the permit, in the order in which they got it, and their deeds are
the whole account of the open count and of the hardware. -/
lemma Runs.exists_order (run : Runs B (start own clients) l P) (idle : P.Idle) (s : SessionId) :
    ∃ es : List (Fin n × Label σ),
      (∀ i, es.filter (fun e => e.1 = i) = l.filter fun e => e.1 = i && e.2.isServed s) ∧
      es.map Prod.fst = who (Label.isTaking s) l ∧
      Path (Deed.Counts s) 0 (deeds es) (P.world.count s) ∧
      works s l = (deeds es).filter (Deed.isWork s) := by
  obtain ⟨es, order, ended, d, progress, counts, done⟩ := run.exists_history s
  have none : ∀ f ∈ P.frames, ¬ f.Serves s := by
    rintro f hf ⟨visits, -⟩
    rw [idle.owner_eq_none hf] at visits
    cases visits
  obtain rfl := (InProgress.iff_of_none none).mp progress
  rw [List.append_nil] at counts done
  refine ⟨es, fun i => ?_, ?_, counts, done⟩
  · have here := ended i
    rw [Party.frames_of_idle (idle i)] at here
    exact here.of_not_parted fun parted => by cases parted.1
  · rw [order, (run.taken s).2 (run.not_holder_of_idle idle)]

/-- Opens and closes of a session under any schedule.  At most one party is between taking and
giving back the permit, setting up the hardware and putting it to rest never overlap, and a count
that is stored was computed from what the count still is.  A call that did not get the permit did
nothing but wait, and answers what its platform told it.  Where the hardware is a state machine and
no call is in progress, the calls that got the permit have had the answers and the work of the
hardware that they have when they are made one after the other, in the order in which they got the
permit, and have left the same count and the same state of the hardware. -/
theorem Runs.serial (run : Runs B (start own clients) l P) (s : SessionId) :
    ((who (Label.isTaking s) l = who (Label.isPosting s) l ∨
        ∃ i, who (Label.isTaking s) l = who (Label.isPosting s) l ++ [i]) ∧
      P.frames.countP (fun f => f.isWork s) ≤ 1 ∧
      ∀ i v x Q, Step B P (i, .acted (.setCount s v) x) Q →
        ∃ c w d below, (P.parties i).frames = ⟨some c, w, d, none⟩ :: below ∧
          .acted (.count s) (P.world.count s) ∈ d ∧
          (∀ m, .acted (.count s) m ∈ d → m = P.world.count s) ∧
          c.Stores s (P.world.profile s) (P.world.count s) v) ∧
    (∀ i w r d, ((i, .returned (.service (.openDevice s)) w r d) ∈ l ∨
        (i, .returned (.service (.closeDevice s)) w r d) ∈ l) → d.any (Deed.isEntry s) = false →
      ∃ p e, r = .error e ∧
        d = [.acted (.profile s) p, .received (.routine (.wait (.guard s) p.platform)) (.error e)] ∧
        p = P.world.profile s ∧
        ∃ w' d', (i, .returned (.peer (.checkWait p.platform)) w' (.error e) d') ∈ l) ∧
    ∀ {τ : Type} (view : σ → τ), B.Mechanical s view → (∀ i, (clients i).Only (Use.Apart s view)) →
      P.Idle →
      ∃ es : List (Fin n × Label σ),
        (∀ i, es.filter (fun e => e.1 = i) = l.filter fun e => e.1 = i && e.2.isServed s) ∧
        es.map Prod.fst = who (Label.isTaking s) l ∧
        ∀ depth w, s < w.issued → w.profile s = P.world.profile s → w.count s = 0 →
          (w.semaphore (.guard s)).permits ≠ 0 → view w.own = view own →
          ∃ y, B.run (depth + 4)
              (Service.inTurn (es.filterMap fun e => e.2.service?)).action w = .ok y ∧
            y.calls.map CallTree.deed = es.filterMap (fun e => e.2.received?) ∧
            y.calls.flatMap (fun t => CallTree.works s t.inner) = works s l ∧
            y.world.map view =
              (w.map view).change s (P.world.count s) (view P.world.own) := by
  refine ⟨⟨run.alternating s, run.countP_isWork_le s, ?_⟩, ?_, ?_⟩
  · intro i v x Q step
    exact run.computed step
  · intro i w r d returned outside
    exact run.given_up returned outside
  · intro τ view board apart idle
    obtain ⟨es, ended, order, counts, done⟩ := run.exists_order idle s
    refine ⟨es, ended, order, fun depth w session known count free same => ?_⟩
    have each : ∀ e ∈ es, B.Accounts s (P.world.profile s) view e.2 := by
      intro e he
      have mem : e ∈ es.filter fun e' => e'.1 = e.1 := by simp [he]
      rw [ended e.1, List.mem_filter] at mem
      obtain ⟨mem, served⟩ := mem
      exact run.accounts mem (by simpa using served)
    obtain ⟨t, d, driven, progress, moved⟩ := run.hardware board apart
    have none : ∀ f ∈ P.frames, ¬ f.isWork s = true := by
      intro f hf
      rw [Frame.isWork, idle.owner_eq_none hf]
      exact Bool.false_ne_true
    obtain rfl := (InProgress.iff_of_none none).mp progress
    obtain rfl : view P.world.own = t := moved
    rw [done] at driven ⊢
    exact Board.run_inTurn board each counts driven depth session known count free same

end Pool

/-- A board whose hardware fails when it is set up for the first time, and on which nobody waits. -/
def Board.faltering : Board (SessionId → Nat) :=
  { Board.obedient (pure (.ok ())) with
    lower := fun _ => { LowerHalf.obedient (pure (.ok ())) with
      operate := fun
        | s, .setup, _ => do
          let tried ← Reaction.own fun f => update f s (f s + 1)
          pure (if tried s = 0 then .error .timedOut else .ok ())
        | s, o, args => (LowerHalf.obedient (pure (.ok ()))).operate s o args } }

/-- The hardware of each session of this board goes by how often it was set up. -/
lemma Board.mechanical_faltering (s : SessionId) : Board.faltering.Mechanical s (· s) where
  works c hc := by
    cases c with
    | operate k h u o args =>
      cases o with
      | setup =>
        obtain rfl : u = s := hc
        refine ⟨⟨trivial, fun _ => trivial⟩, fun a b same => ⟨?_, ?_⟩, fun _ => trivial⟩
        · simp [same]
        · simp [same]
      | shutdown => exact ⟨trivial, trivial⟩
      | _ => exact hc.elim
    | _ => exact hc.elim
  others c hc := by
    cases c with
    | operate k h u o args =>
      cases o with
      | setup =>
        have other : s ≠ u := fun same => hc same.symm
        exact ⟨fun f => update_of_ne _ _ other, fun _ => trivial⟩
      | modeSet | limitsSet | paramsSet => exact ⟨id, fun _ => trivial⟩
      | _ => trivial
    | _ => trivial
  journal _ := trivial
  enter _ := trivial
  leave _ _ := trivial

namespace Pool

/-- Two clients of a device: one opens it twice, the other opens and closes it. -/
def competing : Fin 2 → Reaction (SessionId → Nat) Unit
  | 0 => do
    let _ ← (Service.register ⟨"/dev/led", 0, 0, Config.default, none⟩).use
    let _ ← (Service.openDevice 0).use
    let _ ← (Service.openDevice 0).use
    pure ()
  | 1 => do
    let _ ← (Service.openDevice 0).use
    let _ ← (Service.closeDevice 0).use
    pure ()

/-- The second client gives up its open and closes the device after the two opens of the first.
That is what these three calls do alone. -/
theorem serial_competing :
    ∃ (l : List (Fin 2 × Label (SessionId → Nat))) (P : Pool 2 (SessionId → Nat) Unit)
      (es : List (Fin 2 × Label (SessionId → Nat))) (y : Outcome (SessionId → Nat) Unit),
      Runs .faltering (start (fun _ => 0) competing) l P ∧ P.Idle ∧ es.map Prod.fst = [0, 0, 1] ∧
        Board.faltering.run 4 (Service.inTurn (es.filterMap fun e => e.2.service?)).action
          ((World.initial fun _ => 0).create ⟨0, 0, Config.default⟩) = .ok y ∧
        y.calls.map CallTree.deed = es.filterMap (fun e => e.2.received?) ∧
        y.calls.flatMap (fun t => CallTree.works 0 t.inner) = works 0 l ∧ (works 0 l).length = 3 ∧
        y.world.count 0 = 0 ∧ y.world.own 0 = 2 := by
  have h : ((start (fun _ => 0) competing : Pool 2 (SessionId → Nat) Unit).play .faltering
      (.replicate 14 0 ++ (List.replicate 11 [1, 0]).flatten ++ .replicate 28 0 ++
        .replicate 21 1)).isSome := rfl
  obtain ⟨l, P, run, idle, taken, count, profile, hardware, worked⟩ :
      ∃ (l : List (Fin 2 × Label (SessionId → Nat))) (P : Pool 2 (SessionId → Nat) Unit),
        Runs .faltering (start (fun _ => 0) competing) l P ∧ P.Idle ∧
          who (Label.isTaking 0) l = [0, 0, 1] ∧ P.world.count 0 = 0 ∧
          P.world.profile 0 = ⟨0, 0, Config.default⟩ ∧ P.world.own 0 = 2 ∧
          (works 0 l).length = 3 := by
    refine ⟨_, _, runs_of_isSome h, fun i => ?_, rfl, rfl, rfl, rfl, rfl⟩
    match i with
    | 0 | 1 => rfl
  have apart (i : Fin 2) : (competing i).Only (Use.Apart (σ := SessionId → Nat) 0 (· 0)) :=
    match i with
    | 0 => ⟨id, fun _ => ⟨id, fun _ => ⟨id, fun _ => trivial⟩⟩⟩
    | 1 => ⟨id, fun _ => ⟨id, fun _ => trivial⟩⟩
  obtain ⟨-, -, serial⟩ := run.serial 0
  obtain ⟨es, -, order, again⟩ := serial (· 0) (Board.mechanical_faltering 0) apart idle
  obtain ⟨y, alone, answers, works, final⟩ :=
    again 0 ((World.initial fun _ => 0).create ⟨0, 0, Config.default⟩) (by decide) profile.symm rfl
      (by decide) rfl
  obtain ⟨-, -, -, count', own'⟩ := World.of_map_change final
  exact ⟨l, P, es, y, run, idle, order.trans taken, alone, answers, works, worked,
    count'.trans count, own'.trans hardware⟩

end Pool

end LedDriver
