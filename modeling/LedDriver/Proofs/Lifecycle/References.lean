import LedDriver.Proofs.Lifecycle.Record

/-!
# References

What the open count of a session means.  It is between zero and the greatest count admitted, and
each store changes it by one (`Runs.bounded`, `Runs.stored`).  The driver sets up the hardware and
puts it to rest only under the permit of the guard (`Runs.setup_called`, `Runs.shutdown_called`).
Where no open or close is in progress, the count is the difference between the opens that counted
and the closes that found a reference, and the hardware was set up once more than it was brought
back to no reference, if there are references (`Runs.balanced`).  Between two successes in setting
up the hardware it is put to rest (`Runs.exists_shutdown`).
-/

namespace LedDriver

variable {σ α : Type} {n : Nat}

/-- An open ended that counts: it answered success, and no attempt to set up the hardware failed. -/
def Label.isOpened (s : SessionId) : Label σ → Bool
  | .returned (.service (.openDevice u)) _ r d => u == s && r.isOk && !d.any (Deed.isFailedSetup s)
  | _ => false

/-- A close ended with success that had found a count of a certain kind. -/
def Label.isClosed (s : SessionId) (p : UInt8 → Bool) : Label σ → Bool
  | .returned (.service (.closeDevice u)) _ r d => u == s && r.isOk && (found s d).any p
  | _ => false

lemma Label.isSetUp_iff {s : SessionId} {e : Label σ} : e.isSetUp s = true ↔
    ∃ h before d, e = .returned (.peer (.operate .driver h s .setup ())) before (.ok ()) d := by
  constructor
  · intro he
    unfold isSetUp at he
    split at he
    · obtain rfl := eq_of_beq he
      exact ⟨_, _, _, rfl⟩
    · cases he
  · rintro ⟨_, _, _, rfl⟩
    simp [isSetUp]

/-- What a program read as the profile of a session is its profile. -/
lemma frameInvariant_profile (s : SessionId) : Pool.FrameInvariant (σ := σ) fun w _ d =>
    ∀ p, Deed.acted (.profile s) p ∈ d → s < w.issued ∧ p = w.profile s where
  start _ _ h := absurd h (List.not_mem_nil)
  others ha _ _ _ h p hp := by
    obtain ⟨created, known⟩ := h p hp
    obtain ⟨more, kept⟩ := ha.issued_le
    exact ⟨Nat.lt_of_lt_of_le created more, known.trans (kept s created).symm⟩
  acted ha _ _ _ h p hp := by
    rcases List.mem_append.mp hp with hp | hp
    · obtain ⟨created, known⟩ := h p hp
      obtain ⟨more, kept⟩ := ha.issued_le
      exact ⟨Nat.lt_of_lt_of_le created more, known.trans (kept s created).symm⟩
    · cases List.mem_singleton.mp hp
      obtain ⟨known, created, rfl⟩ := ha.of_profile
      exact ⟨created, known⟩
  received _ _ _ _ _ h p hp := by
    rcases List.mem_append.mp hp with hp | hp
    · exact h p hp
    · cases List.mem_singleton.mp hp

namespace Standing

variable {s : SessionId}

/-- A program gets to know a session by reading its profile. -/
lemma next_profile (t : Standing) (x : Deed σ) :
    (t.next s x).profile = t.profile ∨
      ∃ p, x = .acted (.profile s) p ∧ (t.next s x).profile = some p := by
  unfold next
  split
  case h_1 u p =>
    split
    · next h =>
      subst h
      exact .inr ⟨p, rfl, rfl⟩
    · exact .inl rfl
  all_goals
    left
    simp only [receive, enter, leave, look, store, setUp, rest]
    repeat' split
    all_goals rfl

/-- What a program knows of a session is what it read. -/
lemma mem_of_profile {d : List (Deed σ)} {p : Profile} (h : (of s d).profile = some p) :
    Deed.acted (.profile s) p ∈ d := by
  induction d using List.reverseRecOn with
  | nil => cases h
  | append_singleton d x ih =>
    rw [of_snoc] at h
    rcases next_profile (s := s) (of s d) x with same | ⟨q, rfl, read⟩
    · rw [same] at h
      exact List.mem_append_left _ (ih h)
    · rw [read] at h
      cases h
      exact List.mem_append_right _ (List.mem_singleton_self _)

end Standing

/-- Only a request that admits a reference creates a session. -/
lemma Call.maxOpens_of_allows {o : Option Call} {p : Profile}
    (h : Call.Allows o (.atom (.create p) : Request σ)) :
    1 ≤ p.config.maxOpens.toNat := by
  cases o with
  | none => cases h
  | some c =>
    cases h with
    | register_create r some =>
      exact Nat.one_le_iff_ne_zero.mpr fun none => some (UInt8.toNat_inj.mp none)

/-- Only an open sets up the hardware. -/
lemma Call.eq_of_allows_setup {o : Option Call} {h : LowerId} {s : SessionId}
    (ha : Call.Allows o (.call (.peer (.operate .driver h s .setup ())) : Request σ)) :
    o = some (.service (.openDevice s)) := by
  cases o with
  | none => cases ha
  | some c =>
    generalize hq : (Request.call (.peer (.operate .driver h s .setup ())) : Request σ) = q at ha
    cases ha <;> try cases hq
    · rfl
    · next d _ => cases d <;> cases hq

/-- Only a close puts the hardware to rest. -/
lemma Call.eq_of_allows_shutdown {o : Option Call} {h : LowerId} {s : SessionId}
    (ha : Call.Allows o (.call (.peer (.operate .driver h s .shutdown ())) : Request σ)) :
    o = some (.service (.closeDevice s)) := by
  cases o with
  | none => cases ha
  | some c =>
    generalize hq : (Request.call (.peer (.operate .driver h s .shutdown ())) : Request σ) = q
      at ha
    cases ha <;> try cases hq
    · rfl
    · next d _ => cases d <;> cases hq

/-- Only an open or a close stores an open count or sets up the hardware. -/
lemma Call.not_isStore_of_allows {o : Option Call} {s : SessionId} {x : Deed σ}
    (h : Call.Allows o x.request) (hc : ∀ c, o = some c → ¬ c.Counts s) :
    x.isStore s = false ∧ x.isSetup s = false := by
  cases x with
  | acted a y =>
    refine ⟨?_, rfl⟩
    cases a <;> try rfl
    next u v =>
      by_contra store
      obtain rfl : u = s := by simpa using store
      cases o with
      | none => cases h
      | some c =>
        cases h
        · exact hc _ rfl (.inl rfl)
        · exact hc _ rfl (.inr rfl)
  | received c y =>
    refine ⟨rfl, ?_⟩
    by_contra up
    obtain ⟨k, rfl⟩ := Call.isSetup_iff.mp (by simpa using up)
    exact hc _ (Call.eq_of_allows_setup h) (.inl rfl)

namespace Pool

variable {B : Board σ} {P Q : Pool n σ α} {l l' : List (Fin n × Label σ)} {own : σ}
  {clients : Fin n → Reaction σ α} {s : SessionId}

/-! ## Programs in progress -/

/-- The open count and the hardware are as each program in progress has left them. -/
lemma Runs.fits (run : Runs B (start own clients) l P) {i : Fin n} {f : Frame σ}
    (hf : f ∈ (P.parties i).frames) (s : SessionId) :
    (f.view s).Fits (P.world.count s) (live s l) :=
  (run.sound s).fits _ (Multiset.mem_map_of_mem _ (mem_frames_iff.mpr ⟨i, hf⟩))

/-- No program goes astray. -/
lemma Runs.stage_ne_astray (run : Runs B (start own clients) l P) {i : Fin n} {f : Frame σ}
    (hf : f ∈ (P.parties i).frames) (s : SessionId) : (Standing.of s f.past).stage ≠ .astray := by
  intro astray
  have fits := run.fits hf s
  simp only [View.Fits, Frame.view, Standing.view, astray] at fits

/-- In a step, a program does what its standing allows. -/
lemma Runs.exists_allowed (run : Runs B (start own clients) l P) {i : Fin n} {e : Label σ}
    (step : Step B P (i, e) Q) (s : SessionId) :
    ∃ f ∈ (P.parties i).frames, Call.Allows f.owner e.request ∧
      (Standing.of s f.past).Allows s e.request := by
  obtain ⟨f, hf, ask⟩ := run.exists_asking step
  exact ⟨f, hf, ask.allows, ask.allowed (run.stage_ne_astray hf s)⟩

/-- What a program knows of a session is so. -/
lemma Runs.profile_known (run : Runs B (start own clients) l P) {i : Fin n} {f : Frame σ}
    (hf : f ∈ (P.parties i).frames) {p : Profile}
    (h : Deed.acted (.profile s) p ∈ f.past) : s < P.world.issued ∧ p = P.world.profile s :=
  run.frame_of_progress (frameInvariant_profile s) hf p h

/-- What was fixed about a session stays. -/
lemma Runs.profile_kept (later : Runs B P l' Q) (old : s < P.world.issued) :
    s < Q.world.issued ∧ Q.world.profile s = P.world.profile s := by
  refine later.preserves
    (I := fun Q => s < Q.world.issued ∧ Q.world.profile s = P.world.profile s) ?_ ⟨old, rfl⟩
  rintro R ⟨i, e⟩ S step ⟨old, known⟩
  rcases step.world_eq with ⟨a, x, rfl, ha⟩ | ⟨-, same⟩
  · obtain ⟨more, kept⟩ := ha.issued_le
    exact ⟨Nat.lt_of_lt_of_le old more, (kept s old).trans known⟩
  · rw [same]
    exact ⟨old, known⟩

/-- What was fixed about a session when it was created stays. -/
lemma Runs.profile_of_created (run : Runs B (start own clients) l P) {i : Fin n} {p : Profile}
    (created : (i, .acted (.create p) s) ∈ l) : s < P.world.issued ∧ P.world.profile s = p := by
  obtain ⟨_, _, R, S, -, -, step, after⟩ := run.exists_step created
  obtain ⟨old, rfl⟩ := step.performs.of_create
  exact after.profile_kept old

/-! ## Bounds -/

/-- A store raises the open count by one, within the bound, or lowers it by one, but not below
zero. -/
theorem Runs.stored (run : Runs B (start own clients) l P) {i : Fin n} {v : UInt8} {x : Unit}
    (step : Step B P (i, .acted (.setCount s v) x) Q) :
    (v.toNat = (P.world.count s).toNat + 1 ∧
        v.toNat ≤ (P.world.profile s).config.maxOpens.toNat) ∨
      v.toNat = (P.world.count s).toNat - 1 := by
  obtain ⟨f, hf, -, allowed⟩ := run.exists_allowed step s
  have admits : (Standing.of s f.past).Admits v := allowed rfl
  have fits := run.fits hf s
  rcases admits with ⟨m, p, stage, known, -, raised, bound⟩ | ⟨p, stage, known, rfl, bound⟩ |
    ⟨m, stage, -, lowered⟩ | ⟨m, stage, few, rfl⟩
  · simp only [View.Fits, Frame.view, Standing.view, stage] at fits
    obtain ⟨-, rfl⟩ := run.profile_known hf (Standing.mem_of_profile known)
    exact .inl ⟨by rw [fits.1, raised], bound⟩
  · simp only [View.Fits, Frame.view, Standing.view, stage] at fits
    obtain ⟨-, rfl⟩ := run.profile_known hf (Standing.mem_of_profile known)
    exact .inl ⟨by simp [fits.1], bound⟩
  · simp only [View.Fits, Frame.view, Standing.view, stage] at fits
    rw [fits.1]
    exact .inr (by omega)
  · simp only [View.Fits, Frame.view, Standing.view, stage] at fits
    rw [fits.1]
    exact .inr (by simp; omega)

/-- A session admits at least one reference, and its open count is at most the greatest count
admitted. -/
theorem Runs.bounded (run : Runs B (start own clients) l P) {s : SessionId}
    (created : s < P.world.issued) :
    1 ≤ (P.world.profile s).config.maxOpens.toNat ∧
      (P.world.count s).toNat ≤ (P.world.profile s).config.maxOpens.toNat := by
  induction run with
  | refl => cases created
  | @tail Q R l e run step ih =>
    obtain ⟨i, e⟩ := e
    rcases step.world_eq with ⟨a, x, rfl, ha⟩ | ⟨-, same⟩
    · by_cases old : s < Q.world.issued
      · obtain ⟨one, bound⟩ := ih old
        rw [ha.issued_le.2 s old]
        refine ⟨one, ?_⟩
        by_cases store : ∃ v, a = .setCount s v
        · obtain ⟨v, rfl⟩ := store
          rw [ha.of_setCount]
          rcases run.stored step with ⟨-, less⟩ | less <;> omega
        · rw [ha.count_eq run.blank fun v hv => store ⟨v, hv⟩]
          exact bound
      · -- The session is created by this very step, so that its memory is new.
        have new := Nat.not_lt.mp old
        obtain ⟨p, rfl, known⟩ := ha.exists_create new created
        obtain ⟨f, -, allowed, -⟩ := run.exists_allowed step s
        have empty : R.world.count s = 0 := by
          rw [ha.count_eq run.blank fun _ => nofun]
          exact congrArg Memory.count (run.blank s new)
        rw [known, empty]
        exact ⟨Call.maxOpens_of_allows allowed, Nat.zero_le _⟩
    · rw [same] at created ⊢
      exact ih created

/-! ## Calls that ended -/

/-- An open that ended has gone one of the ways of an open, in a session that admits a reference. -/
lemma Runs.exists_openRecord (run : Runs B (start own clients) l P) {i : Fin n} {w : World σ}
    {r : Except DeviceError Unit} {d : List (Deed σ)}
    (he : (i, .returned (.service (.openDevice s)) w r d) ∈ l) :
    ∃ d', d = .acted (.profile s) (P.world.profile s) :: d' ∧
      OpenRecord s (P.world.profile s) d' r ∧ 0 < (P.world.profile s).config.maxOpens.toNat := by
  obtain ⟨_, _, R, S, -, before, step, after⟩ := run.exists_step he
  obtain ⟨frame, complete⟩ := before.frame_of_return step
  obtain ⟨p, d', rfl, record, -⟩ := Session.openDevice_record complete
  obtain ⟨old, rfl⟩ := before.profile_known frame (List.mem_cons_self ..)
  obtain ⟨-, same⟩ := (Runs.head step after).profile_kept old
  rw [same]
  exact ⟨d', rfl, record, (before.bounded old).1⟩

/-- A close that ended has gone one of the ways of a close, and has not gone astray. -/
lemma Runs.exists_closeRecord (run : Runs B (start own clients) l P) {i : Fin n} {w : World σ}
    {r : Except DeviceError Unit} {d : List (Deed σ)}
    (he : (i, .returned (.service (.closeDevice s)) w r d) ∈ l) :
    ∃ p d', d = .acted (.profile s) p :: d' ∧ CloseRecord s p d' r ∧
      (Standing.of s d).stage ≠ .astray := by
  obtain ⟨_, _, R, S, -, before, step, -⟩ := run.exists_step he
  obtain ⟨frame, complete⟩ := before.frame_of_return step
  obtain ⟨p, d', rfl, record⟩ := Session.closeDevice_record complete
  exact ⟨p, d', rfl, record, before.stage_ne_astray frame s⟩

/-- An open finds a count if it gets the permit, and sets up the hardware once if it found no
reference, and not at all otherwise. -/
theorem Runs.opened (run : Runs B (start own clients) l P) {i : Fin n} {w : World σ}
    {r : Except DeviceError Unit} {d : List (Deed σ)}
    (he : (i, .returned (.service (.openDevice s)) w r d) ∈ l) :
    (found s d).isSome = d.any (Deed.isEntry s) ∧
      d.countP (Deed.isSetup s) = if found s d = some 0 then 1 else 0 := by
  obtain ⟨d', rfl, record, max⟩ := run.exists_openRecord he
  obtain ⟨setup, entry, -⟩ := record.facts max
  rw [found_cons_profile]
  exact ⟨by simpa using entry, by simpa using setup⟩

/-- A close finds a count if it gets the permit, and puts the hardware to rest once if it found at
most one reference, and not at all otherwise. -/
theorem Runs.closed (run : Runs B (start own clients) l P) {i : Fin n} {w : World σ}
    {r : Except DeviceError Unit} {d : List (Deed σ)}
    (he : (i, .returned (.service (.closeDevice s)) w r d) ∈ l) :
    (found s d).isSome = d.any (Deed.isEntry s) ∧
      d.countP (Deed.isShutdown s) =
        if found s d = some 0 ∨ found s d = some 1 then 1 else 0 := by
  obtain ⟨p, d', rfl, record, -⟩ := run.exists_closeRecord he
  obtain ⟨shutdown, entry, -⟩ := record.facts
  rw [found_cons_profile]
  exact ⟨by simpa using entry, by simpa using shutdown⟩

/-- What a call that ended has done to the open count.  Only an open or a close has done
anything. -/
lemma Runs.gain_of_ended (run : Runs B (start own clients) l P) {e : Fin n × Label σ}
    (he : e ∈ l) :
    (Standing.of s e.2.deeds).gain = (if e.2.isOpened s then 1 else 0) -
        (if e.2.isClosed s (0 < ·.toNat) then 1 else 0) ∧
      (Standing.of s e.2.deeds).ended = if e.2.isClosed s (·.toNat = 1) then 1 else 0 := by
  obtain ⟨i, e⟩ := e
  cases e with
  | acted a x => simp [Label.isOpened, Label.isClosed, Standing.initial]
  | called c => simp [Label.isOpened, Label.isClosed, Standing.initial]
  | returned c w x d =>
    by_cases counts : c.Counts s
    · rcases counts with rfl | rfl
      · obtain ⟨d', rfl, record, max⟩ := run.exists_openRecord he
        obtain ⟨-, -, gain, ended⟩ := record.facts max
        simp [Label.isOpened, Label.isClosed, gain, ended]
      · obtain ⟨p, d', rfl, record, sane⟩ := run.exists_closeRecord he
        obtain ⟨-, -, closed⟩ := record.facts
        obtain ⟨gain, ended⟩ := closed sane
        simp [Label.isOpened, Label.isClosed, Label.deeds, gain, ended]
        split <;> rfl
    · obtain ⟨_, _, R, S, -, before, step, -⟩ := run.exists_step he
      obtain ⟨frame, complete⟩ := before.frame_of_return step
      obtain ⟨-, none⟩ := B.passes_of_complete complete (before.stage_ne_astray frame s)
      obtain ⟨gain, ended⟩ := none counts
      have notOpened : (Label.returned c w x d).isOpened s = false := by
        unfold Label.isOpened
        split <;> try rfl
        next u _ _ _ h =>
          cases h
          have : u ≠ s := fun e => counts (.inl (e ▸ rfl))
          simp [this]
      have notClosed (p : UInt8 → Bool) : (Label.returned c w x d).isClosed s p = false := by
        unfold Label.isClosed
        split <;> try rfl
        next u _ _ _ h =>
          cases h
          have : u ≠ s := fun e => counts (.inr (e ▸ rfl))
          simp [this]
      simp [Label.deeds, gain, ended, notOpened, notClosed]

/-! ## Where no open or close is in progress -/

/-- No open and no close of a session is in progress. -/
def Quiet (P : Pool n σ α) (s : SessionId) : Prop :=
  ∀ i, ∀ f ∈ (P.parties i).frames, ∀ c, f.owner = some c → ¬ c.Counts s

/-- A program that is no open or close has done nothing to the open count. -/
lemma Runs.idle (run : Runs B (start own clients) l P) {i : Fin n} {f : Frame σ}
    (hf : f ∈ (P.parties i).frames) (hc : ∀ c, f.owner = some c → ¬ c.Counts s) :
    (f.view s).gain = 0 ∧ (f.view s).ended = 0 ∧ ¬ (f.view s).IsReady := by
  have none : ∀ x ∈ f.past, x.isStore s = false ∧ x.isSetup s = false := fun x hx =>
    Call.not_isStore_of_allows (run.asked hf x hx) hc
  obtain ⟨gain, ended⟩ := Standing.of_append_same (fun x hx => (none x hx).1) []
  exact ⟨gain, ended, Standing.of_stage_ne_ready fun x hx => (none x hx).2⟩

/-- A sum to which each element of a list contributes one, minus one or nothing. -/
lemma sum_eq_countP_sub {κ : Type} {l : List κ} {f : κ → Int} {p q : κ → Bool}
    (h : ∀ x ∈ l, f x = (if p x then 1 else 0) - if q x then 1 else 0) :
    (l.map f).sum = l.countP p - l.countP q := by
  induction l with
  | nil => rfl
  | cons x l ih =>
    rw [List.forall_mem_cons] at h
    rw [List.map_cons, List.sum_cons, ih h.2, h.1, List.countP_cons, List.countP_cons]
    push_cast
    omega

/-- What calls that ended have done to the open count. -/
lemma Runs.sum_gain (run : Runs B (start own clients) l P) {k : List (Fin n × Label σ)}
    (sub : ∀ e ∈ k, e ∈ l) : (k.map fun e => (Standing.of s e.2.deeds).gain).sum =
      k.countP (fun e => e.2.isOpened s) - k.countP (fun e => e.2.isClosed s (0 < ·.toNat)) :=
  sum_eq_countP_sub fun e he => (run.gain_of_ended (sub e he)).1

/-- How often calls that ended took the open count from one to zero. -/
lemma Runs.sum_ended (run : Runs B (start own clients) l P) :
    (l.map fun e => (Standing.of s e.2.deeds).ended).sum =
      l.countP fun e => e.2.isClosed s (·.toNat = 1) := by
  have sum := sum_eq_countP_sub (l := l) (f := fun e => (Standing.of s e.2.deeds).ended)
    (p := fun e => e.2.isClosed s (·.toNat = 1)) (q := fun _ => false) fun e he => by
      rw [(run.gain_of_ended he).2]
      simp
  simpa using sum

/-- Where no open or close is in progress, the open count is the number of opens that counted, less
the closes that found a reference; and the hardware was set up as often as a close took the count
from one to zero, and once more if there are references. -/
theorem Runs.balanced (run : Runs B (start own clients) l P) (quiet : P.Quiet s) :
    (P.world.count s).toNat + l.countP (fun e => e.2.isClosed s (0 < ·.toNat)) =
        l.countP (fun e => e.2.isOpened s) ∧
      l.countP (fun e => e.2.isSetUp s) = l.countP (fun e => e.2.isClosed s (·.toNat = 1)) +
        if 0 < (P.world.count s).toNat then 1 else 0 := by
  have idle : ∀ v ∈ (P.ledger s l).views, v.gain = 0 ∧ v.ended = 0 ∧ ¬ v.IsReady := by
    intro v hv
    obtain ⟨f, hf, rfl⟩ := Multiset.mem_map.mp hv
    obtain ⟨i, hf⟩ := mem_frames_iff.mp hf
    exact run.idle hf (quiet i f hf)
  have gain : ((P.ledger s l).views.map View.gain).sum = 0 := by
    refine Multiset.sum_eq_zero fun g hg => ?_
    obtain ⟨v, hv, rfl⟩ := Multiset.mem_map.mp hg
    exact (idle v hv).1
  have ended : ((P.ledger s l).views.map View.ended).sum = 0 := by
    refine Multiset.sum_eq_zero fun g hg => ?_
    obtain ⟨v, hv, rfl⟩ := Multiset.mem_map.mp hg
    exact (idle v hv).2.1
  have ready : (P.ledger s l).views.countP View.IsReady = 0 :=
    Multiset.countP_eq_zero.mpr fun v hv => (idle v hv).2.2
  have count := (run.sound s).count
  have cycles := (run.sound s).cycles
  rw [gain] at count
  rw [ended, ready] at cycles
  have gains := run.sum_gain (s := s) fun e he => he
  have ends := run.sum_ended (s := s)
  simp only [ledger, Ledger.inUse, gains, ends] at count cycles
  constructor
  · omega
  · by_cases used : 0 < (P.world.count s).toNat
    · rw [if_pos used] at cycles ⊢
      omega
    · rw [if_neg used] at cycles ⊢
      omega

/-! ## Setting up and putting to rest -/

/-- Where a program has the permit, none is left. -/
lemma Runs.permits_eq_zero (run : Runs B (start own clients) l P) {i : Fin n} {f : Frame σ}
    (hf : f ∈ (P.parties i).frames) (holds : (Standing.of s f.past).stage ≠ .away) :
    (P.world.semaphore (.guard s)).permits = 0 := by
  have mem : f.view s ∈ (P.ledger s l).views :=
    Multiset.mem_map_of_mem _ (mem_frames_iff.mpr ⟨i, hf⟩)
  obtain ⟨rest, views⟩ := Multiset.exists_cons_of_mem mem
  exact UInt32.toNat_inj.mp ((run.sound s).others_away views holds).1

/-- The driver sets up the hardware for an open that has the permit and has found no reference. -/
theorem Runs.setup_called (run : Runs B (start own clients) l P) {i : Fin n} {c : Call}
    (step : Step B P (i, .called c) Q) (hc : c.isSetup s = true) :
    P.world.count s = 0 ∧ (P.world.semaphore (.guard s)).permits = 0 ∧
      ∃ f ∈ (P.parties i).frames, f.owner = some (.service (.openDevice s)) ∧
        (Standing.of s f.past).stage = .found 0 := by
  obtain ⟨h, rfl⟩ := Call.isSetup_iff.mp hc
  obtain ⟨f, hf, asked, allowed⟩ := run.exists_allowed step s
  have stage : (Standing.of s f.past).stage = .found 0 := allowed rfl
  have fits := run.fits hf s
  simp only [View.Fits, Frame.view, Standing.view, stage] at fits
  exact ⟨fits.1, run.permits_eq_zero hf (by simp [stage]), f, hf,
    Call.eq_of_allows_setup asked, stage⟩

/-- The driver puts the hardware to rest for a close that has the permit and has cleared the open
count. -/
theorem Runs.shutdown_called (run : Runs B (start own clients) l P) {i : Fin n} {c : Call}
    (step : Step B P (i, .called c) Q) (hc : c.isShutdown s = true) :
    P.world.count s = 0 ∧ (P.world.semaphore (.guard s)).permits = 0 ∧
      ∃ f ∈ (P.parties i).frames, f.owner = some (.service (.closeDevice s)) ∧
        (Standing.of s f.past).stage = .cleared := by
  obtain ⟨h, rfl⟩ := Call.isShutdown_iff.mp hc
  obtain ⟨f, hf, asked, allowed⟩ := run.exists_allowed step s
  have stage : (Standing.of s f.past).stage = .cleared := allowed rfl
  have fits := run.fits hf s
  simp only [View.Fits, Frame.view, Standing.view, stage] at fits
  exact ⟨fits.1, run.permits_eq_zero hf (by simp [stage]), f, hf,
    Call.eq_of_allows_shutdown asked, stage⟩

/-- Where an attempt to set up the hardware is going on or begins, the hardware is not set up. -/
lemma Runs.live_of_setup (run : Runs B (start own clients) l P) {i : Fin n} {e : Label σ}
    (step : Step B P (i, e) Q) {c : Call} (he : e.request = .call c) (hc : c.isSetup s = true) :
    live s l = false := by
  obtain ⟨h, rfl⟩ := Call.isSetup_iff.mp hc
  obtain ⟨f, hf, -, allowed⟩ := run.exists_allowed step s
  rw [he] at allowed
  have stage : (Standing.of s f.past).stage = .found 0 := allowed rfl
  have fits := run.fits hf s
  simp only [View.Fits, Frame.view, Standing.view, stage] at fits
  simpa [fits.1] using fits.2

/-- The hardware is set up after a success in setting it up. -/
lemma live_of_isSetUp (l : List (Fin n × Label σ)) {e : Fin n × Label σ}
    (he : e.2.isSetUp s = true) : live s (l ++ [e]) = true := by
  obtain ⟨i, e⟩ := e
  obtain ⟨h, w, d, rfl⟩ := Label.isSetUp_iff.mp he
  rw [live_snoc]
  simp [Label.power]

/-- The hardware stays set up until the driver puts it to rest. -/
lemma Runs.live_of_no_shutdown (run : Runs B (start own clients) l P) (later : Runs B P l' Q)
    (up : live s l = true) (none : ∀ e ∈ l', ∀ h,
      e.2 ≠ .called (.peer (.operate .driver h s .shutdown ()))) : live s (l ++ l') = true := by
  induction later with
  | refl => simpa using up
  | @tail Q R l' e later step ih =>
    obtain ⟨i, e⟩ := e
    rw [List.forall_mem_append, List.forall_mem_singleton] at none
    have before := ih none.1
    have unset {c : Call} (he : e.request = .call c) : c.isSetup s = false := by
      by_contra up
      rw [(run.trans later).live_of_setup step he (by simpa using up)] at before
      cases before
    rw [← List.append_assoc, live_snoc]
    cases e with
    | acted a x => exact before
    | called c =>
      have still : c.isShutdown s = false := by
        by_contra down
        obtain ⟨h, rfl⟩ := Call.isShutdown_iff.mp (by simpa using down)
        exact none.2 h rfl
      simpa [Label.power, unset rfl, still] using before
    | returned c w x d =>
      rw [(Label.unmoved_of_isSetup w x d (unset rfl)).1]
      exact before

/-- Between two successes in setting up the hardware the driver puts it to rest. -/
theorem Runs.exists_shutdown (run : Runs B (start own clients) l P)
    {l₁ l₂ l₃ : List (Fin n × Label σ)} {e₁ e₂ : Fin n × Label σ}
    (split : l = l₁ ++ e₁ :: l₂ ++ e₂ :: l₃) (h₁ : e₁.2.isSetUp s = true)
    (h₂ : e₂.2.isSetUp s = true) :
    ∃ e ∈ l₂, ∃ h, e.2 = .called (.peer (.operate .driver h s .shutdown ())) := by
  by_contra none
  subst split
  rw [List.append_assoc, List.cons_append] at run
  obtain ⟨R, S, before, first, after⟩ := run.of_append_cons
  obtain ⟨T, U, between, second, -⟩ := after.of_append_cons
  -- The hardware would be set up until the second success, but no attempt is made on such hardware.
  obtain ⟨j, e₂⟩ := e₂
  obtain ⟨h, w, d, rfl⟩ := Label.isSetUp_iff.mp h₂
  have reach := before.tail first
  have still := reach.live_of_no_shutdown between (live_of_isSetUp l₁ h₁) fun e he h called =>
    none ⟨e, he, h, called⟩
  have not := (reach.trans between).live_of_setup second (s := s) rfl (by simp [Call.isSetup])
  rw [still] at not
  cases not

/-! ## The account of a session -/

/-- The account of a session.  Its open count stays between zero and the greatest count admitted,
and each store is one up, within that bound, or one down.  An open sets up the hardware exactly if
it got the permit and found no reference, a close puts it to rest exactly if it got the permit and
found at most one reference, and nobody else does either.  Where no open or close is in progress,
the count is the number of opens that counted less the closes that found a reference, and the
hardware was set up once more than the count was taken from one to zero, if there are references.
Between two successes in setting up the hardware it is put to rest. -/
theorem Runs.account (run : Runs B (start own clients) l P) {i₀ : Fin n} {p : Profile}
    (created : (i₀, .acted (.create p) s) ∈ l) :
    (1 ≤ p.config.maxOpens.toNat ∧ (P.world.count s).toNat ≤ p.config.maxOpens.toNat ∧
      ∀ i v x Q, Step B P (i, .acted (.setCount s v) x) Q → v.toNat ≤ p.config.maxOpens.toNat ∧
        (v.toNat = (P.world.count s).toNat + 1 ∨ v.toNat = (P.world.count s).toNat - 1)) ∧
    ((∀ i w r d, (i, .returned (.service (.openDevice s)) w r d) ∈ l →
        (found s d).isSome = d.any (Deed.isEntry s) ∧
          d.countP (Deed.isSetup s) = if found s d = some 0 then 1 else 0) ∧
      (∀ i w r d, (i, .returned (.service (.closeDevice s)) w r d) ∈ l →
        (found s d).isSome = d.any (Deed.isEntry s) ∧
          d.countP (Deed.isShutdown s) =
            if found s d = some 0 ∨ found s d = some 1 then 1 else 0) ∧
      ∀ i c Q, Step B P (i, .called c) Q →
        (c.isSetup s = true → P.world.count s = 0 ∧
          (P.world.semaphore (.guard s)).permits = 0 ∧
          ∃ f ∈ (P.parties i).frames, f.owner = some (.service (.openDevice s)) ∧
            (Standing.of s f.past).stage = .found 0) ∧
        (c.isShutdown s = true → P.world.count s = 0 ∧
          (P.world.semaphore (.guard s)).permits = 0 ∧
          ∃ f ∈ (P.parties i).frames, f.owner = some (.service (.closeDevice s)) ∧
            (Standing.of s f.past).stage = .cleared)) ∧
    (P.Quiet s →
      (P.world.count s).toNat + l.countP (fun e => e.2.isClosed s (0 < ·.toNat)) =
          l.countP (fun e => e.2.isOpened s) ∧
        l.countP (fun e => e.2.isSetUp s) = l.countP (fun e => e.2.isClosed s (·.toNat = 1)) +
          if 0 < (P.world.count s).toNat then 1 else 0) ∧
    ∀ l₁ l₂ l₃ e₁ e₂, l = l₁ ++ e₁ :: l₂ ++ e₂ :: l₃ → e₁.2.isSetUp s = true →
      e₂.2.isSetUp s = true →
      ∃ e ∈ l₂, ∃ h, e.2 = .called (.peer (.operate .driver h s .shutdown ())) := by
  obtain ⟨old, rfl⟩ := run.profile_of_created created
  obtain ⟨one, bound⟩ := run.bounded old
  refine ⟨⟨one, bound, ?_⟩, ⟨?_, ?_, ?_⟩, run.balanced, ?_⟩
  · intro i v x Q step
    rcases run.stored step with ⟨raised, least⟩ | lowered
    · exact ⟨least, .inl raised⟩
    · exact ⟨by omega, .inr lowered⟩
  · intro i w r d he
    exact run.opened he
  · intro i w r d he
    exact run.closed he
  · intro i c Q step
    exact ⟨run.setup_called step, run.shutdown_called step⟩
  · intro l₁ l₂ l₃ e₁ e₂ split h₁ h₂
    exact run.exists_shutdown split h₁ h₂

/-- A client that opens a device twice and closes it once. -/
def openingTwice : Reaction Unit Unit := do
  let _ ← (Service.register ⟨"/dev/led", 0, 0, Config.default, none⟩).use
  let _ ← (Service.openDevice 0).use
  let _ ← (Service.openDevice 0).use
  let _ ← (Service.closeDevice 0).use
  pure ()

/-- Two opens and one close of this client leave one reference. -/
theorem account_openingTwice :
    ∃ (l : List (Fin 1 × Label Unit)) (P : Pool 1 Unit Unit),
      Runs (.obedient (pure (.ok ()))) (start () fun _ => openingTwice) l P ∧
        (0, .acted (.create ⟨0, 0, Config.default⟩) 0) ∈ l ∧ P.Quiet 0 ∧
        l.countP (fun e => e.2.isOpened 0) = 2 ∧ P.world.count 0 = 1 ∧
        (P.world.count 0).toNat + l.countP (fun e => e.2.isClosed 0 (0 < ·.toNat)) = 2 := by
  have h : ((start () fun _ => openingTwice : Pool 1 Unit Unit).play
      (.obedient (pure (.ok ()))) (.replicate 59 0)).isSome := rfl
  obtain ⟨l, P, run, created, owners, opened, count⟩ :
      ∃ (l : List (Fin 1 × Label Unit)) (P : Pool 1 Unit Unit),
        Runs (.obedient (pure (.ok ()))) (start () fun _ => openingTwice) l P ∧
          (0, .acted (.create ⟨0, 0, Config.default⟩) 0) ∈ l ∧
          (P.parties 0).frames.map Frame.owner = [none] ∧
          l.countP (fun e => e.2.isOpened 0) = 2 ∧ P.world.count 0 = 1 :=
    ⟨_, _, runs_of_isSome h, List.mem_of_getElem? (i := 3) rfl, rfl, rfl, rfl⟩
  have quiet : P.Quiet 0 := by
    intro i f hf c hc
    obtain rfl : i = 0 := Subsingleton.elim _ _
    have mem := List.mem_map_of_mem (f := Frame.owner) hf
    rw [owners, hc] at mem
    simp at mem
  obtain ⟨-, -, balanced, -⟩ := run.account created
  exact ⟨l, P, run, created, quiet, opened, count, (balanced quiet).1.trans opened⟩

end Pool

end LedDriver
