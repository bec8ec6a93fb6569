import LedDriver.Proofs.Nesting.Brackets

/-!
# The permit and the mask

The two exclusions are nested.  While an open or a close sets up the hardware or puts it to rest,
the guard of its session has no permit left and it is the only program of its session that masks
interrupts (`Runs.masked_of_called`).  Between masking and restoring it makes that one call and no
other (`Runs.section_of_returned`).  A call that opens or closes a session gives the permit back on
every way out (`Runs.permit_of_returned`); where one party is alone, the guard has as many permits
after the call as before it (`Runs.guard_of_returned`).
-/

namespace LedDriver

variable {σ α β S : Type} {n : Nat}

/-- The program opens or closes a session and has a section open. -/
def Frame.Masks (s : SessionId) (f : Frame σ) : Prop :=
  f.owner.bind Call.session? = some s ∧ f.sections ≠ []

instance (s : SessionId) (f : Frame σ) : Decidable (f.Masks s) :=
  inferInstanceAs (Decidable (_ ∧ _))

/-- A program that masks interrupts has the permit. -/
lemma Frame.Masks.holds {s : SessionId} {f : Frame σ} (h : f.Masks s) : (f.view s).Holds := by
  refine Mask.stage_ne_away h.1 fun away => h.2 ?_
  unfold Frame.sections
  rw [away]
  rfl

/-- The deed gives the permit of the guard of a session back. -/
def Deed.isPost (s : SessionId) : Deed σ → Bool
  | .acted (.post g) _ => g == .guard s
  | _ => false

/-- Each deed of a program that keeps to a list was allowed when it was done. -/
lemma Program.Obeys.allows_of_follows {next : S → Deed σ → S} {allows : S → Request σ → Prop}
    {post : α → S → Prop} {t : S} {p q : Action σ α} (hp : p.Obeys next allows post t)
    {d d' : List (Deed σ)} {x : Deed σ} (h : Follows p (d ++ x :: d') q) :
    allows (d.foldl next t) x.request := by
  induction d generalizing p t with
  | nil =>
    cases h with
    | acted _ | received _ => exact hp.1
  | cons y d ih =>
    cases h with
    | acted h | received h => exact ih (hp.2 _) h

/-- A program that has masked interrupts asks for a call of the lower half. -/
lemma Mask.inside_allows {p : PlatformId} {saved : UInt64} {q : Request σ}
    (h : (Mask.inside p saved).Allows q) :
    ∃ v u, q = .call (.peer (.operate .driver v u .setup ())) ∨
      q = .call (.peer (.operate .driver v u .shutdown ())) := by
  unfold Allows at h
  split at h
  · cases h
  · exact ⟨_, _, .inl rfl⟩
  · exact ⟨_, _, .inr rfl⟩
  · cases h
  · rcases h with h | h <;> cases h

/-- A program to which the lower half has answered asks to restore the interrupts. -/
lemma Mask.worked_allows {p : PlatformId} {saved : UInt64} {q : Request σ}
    (h : (Mask.worked p saved).Allows q) : q = .call (.peer (.leave p saved)) := by
  unfold Allows at h
  split at h
  · cases h
  · obtain ⟨_, _, h⟩ := h
    cases h
  · obtain ⟨_, _, h⟩ := h
    cases h
  · cases h
    rfl
  · rcases h with h | h <;> cases h

/-- The deeds of a call that ended were allowed behind its mask. -/
lemma Board.mask_allows_of_complete (B : Board σ) {c : Call} {x : c.Answer} {d d' : List (Deed σ)}
    {y : Deed σ} (h : Follows (B.program c) (d ++ y :: d') (.done x)) :
    (Mask.of (some c) d).Allows y.request := by
  cases hc : c.session? with
  | none =>
    rw [Mask.of_eq_away (o := some c) hc]
    exact (h.asked (B.program_asks c) y (by simp)).unmasked hc
  | some s =>
    rw [Mask.of_some hc]
    exact (B.program_masked hc).allows_of_follows h

/-- A call that ended has gone on from where it masked interrupts. -/
lemma Board.exists_next_of_complete (B : Board σ) {c : Call} {x : c.Answer} {d d' : List (Deed σ)}
    (h : Follows (B.program c) (d ++ d') (.done x)) (hm : Mask.of (some c) d ≠ .away) :
    ∃ y d'', d' = y :: d'' ∧ (Mask.of (some c) d).Allows y.request ∧ c.Asks y.request := by
  cases d' with
  | nil =>
    rw [List.append_nil] at h
    exact absurd (B.mask_of_complete h) hm
  | cons y d'' =>
    exact ⟨y, d'', rfl, B.mask_allows_of_complete h, h.asked (B.program_asks c) y (by simp)⟩

/-- An open or a close sets up or puts to rest no hardware but that of its session. -/
lemma Call.Asks.eq_session {c : Call} {s u : SessionId} {v : LowerId} (hc : c.session? = some s)
    (h : c.Asks (.call (.peer (.operate .driver v u .setup ())) : Request σ) ∨
      c.Asks (.call (.peer (.operate .driver v u .shutdown ())) : Request σ)) : u = s := by
  rcases Call.counts_iff.mpr hc with rfl | rfl <;> rcases h with h | h <;> cases h <;> rfl

namespace Pool

variable {B : Board σ} {P Q : Pool n σ α} {l : List (Fin n × Label σ)} {own : σ}
  {clients : Fin n → Reaction σ α} {s : SessionId}

/-! ## Sections -/

/-- At most one program of a session masks interrupts at a time. -/
lemma Runs.countP_masks_le (run : Runs B (start own clients) l P) (s : SessionId) :
    P.frames.countP (Frame.Masks s) ≤ 1 := by
  have permit := (run.sound s).permit
  have views : (P.ledger s l).views = P.frames.map (Frame.view s) := rfl
  rw [views, Multiset.countP_map] at permit
  have less : P.frames.countP (Frame.Masks s) ≤
      Multiset.card (P.frames.filter fun f => (f.view s).Holds) := by
    rw [Multiset.countP_eq_card_filter]
    exact Multiset.card_le_card (Multiset.monotone_filter_right _ fun f hf => hf.holds)
  omega

/-- The driver sets up the hardware of a session, or puts it to rest, for a program that masks
interrupts, while no other program of the session does so and the guard has no permit left. -/
theorem Runs.masked_of_called (run : Runs B (start own clients) l P) {i : Fin n} {c : Call}
    (step : Step B P (i, .called c) Q) (hc : c.isSetup s = true ∨ c.isShutdown s = true) :
    (P.world.semaphore (.guard s)).permits = 0 ∧ P.frames.countP (Frame.Masks s) = 1 ∧
      ∃ f ∈ (P.parties i).frames, f.Masks s ∧ B.Continues f.owner f.past (.call c) := by
  obtain ⟨f, hf, ask⟩ := run.exists_asking step
  have masks : f.Masks s := by
    have allowed := ask.mask_allows
    rcases hc with hc | hc
    · obtain ⟨h, rfl⟩ := Call.isSetup_iff.mp hc
      obtain ⟨p, saved, mask⟩ := allowed
      have owner : f.owner = some (.service (.openDevice s)) := Call.eq_of_allows_setup ask.allows
      exact ⟨by rw [owner]; rfl, by simp [Frame.sections, mask, Mask.sections]⟩
    · obtain ⟨h, rfl⟩ := Call.isShutdown_iff.mp hc
      obtain ⟨p, saved, mask⟩ := allowed
      have owner : f.owner = some (.service (.closeDevice s)) :=
        Call.eq_of_allows_shutdown ask.allows
      exact ⟨by rw [owner]; rfl, by simp [Frame.sections, mask, Mask.sections]⟩
  have one : 0 < P.frames.countP (Frame.Masks s) :=
    Multiset.countP_pos.mpr ⟨f, mem_frames_iff.mpr ⟨i, hf⟩, masks⟩
  refine ⟨run.permits_eq_zero hf masks.holds, ?_, f, hf, masks, ask⟩
  exact Nat.le_antisymm (run.countP_masks_le s) one

/-- Between masking and restoring interrupts, an open or a close that ended has made one call, which
set up the hardware or put it to rest; and it has restored what it had found. -/
theorem Runs.section_of_returned (run : Runs B (start own clients) l P) {i : Fin n} {c : Call}
    {w : World σ} {x : c.Answer} {d : List (Deed σ)} (he : (i, .returned c w x d) ∈ l)
    (hc : c.session? = some s) {p : PlatformId} {saved : UInt64} {d₁ d₂ : List (Deed σ)}
    (split : d = d₁ ++ .received (.peer (.enter p)) saved :: d₂) :
    ∃ y d₃, d₂ = y :: .received (.peer (.leave p saved)) () :: d₃ ∧
      (y.isSetup s = true ∨ y.isShutdown s = true) := by
  have complete := run.follows_of_returned he
  subst split
  have held : Mask.of (some c) d₁ = .holding := B.mask_allows_of_complete complete
  rw [List.append_cons] at complete
  generalize hd : d₁ ++ [Deed.received (.peer (.enter p)) saved] = d at complete
  have inside : Mask.of (some c) d = .inside p saved := by
    rw [← hd, Mask.of_snoc, held]
    rfl
  obtain ⟨y, d₂, rfl, allowed, asked⟩ :=
    B.exists_next_of_complete complete (by rw [inside]; rintro ⟨⟩)
  rw [inside] at allowed
  obtain ⟨v, u, hy⟩ := Mask.inside_allows allowed
  obtain rfl : u = s := by
    refine Call.Asks.eq_session (σ := σ) (v := v) hc ?_
    rcases hy with hy | hy
    · exact .inl (hy ▸ asked)
    · exact .inr (hy ▸ asked)
  have works : (y.isSetup u = true ∨ y.isShutdown u = true) ∧
      Mask.of (some c) (d ++ [y]) = .worked p saved := by
    rw [Mask.of_snoc, inside]
    cases y with
    | acted a z => rcases hy with hy | hy <;> cases hy
    | received c' z =>
      rcases hy with hy | hy <;> cases hy
      · exact ⟨.inl (by simp [Call.isSetup]), rfl⟩
      · exact ⟨.inr (by simp [Call.isShutdown]), rfl⟩
  obtain ⟨works, worked⟩ := works
  rw [List.append_cons] at complete
  obtain ⟨z, d₃, rfl, allowed, -⟩ :=
    B.exists_next_of_complete complete (by rw [worked]; rintro ⟨⟩)
  rw [worked] at allowed
  have hz := Mask.worked_allows allowed
  cases z with
  | acted a _ => cases hz
  | received c' _ =>
    cases hz
    exact ⟨y, d₃, rfl, works⟩

/-! ## Permits -/

/-- A call that opens or closes a session gives the permit back if and only if it received it. -/
theorem Runs.permit_of_returned (run : Runs B (start own clients) l P) {i : Fin n} {c : Call}
    {w : World σ} {x : c.Answer} {d : List (Deed σ)} (he : (i, .returned c w x d) ∈ l)
    (hc : c.session? = some s) :
    d.countP (Deed.isPost s) = d.countP (Deed.isEntry s) ∧ d.countP (Deed.isEntry s) ≤ 1 := by
  rcases Call.counts_iff.mpr hc with rfl | rfl
  · obtain ⟨d', rfl, record, -⟩ := run.exists_openRecord he
    cases record <;> simp [Deed.isPost]
  · obtain ⟨p, d', rfl, record, -⟩ := run.exists_closeRecord he
    cases record <;> simp [Deed.isPost, Function.comp_def]

/-- Each program began with as many permits of a guard as are left by the programs below it. -/
def Founded (s : SessionId) : List (Frame σ) → Prop
  | [] => True
  | f :: below => (f.before.semaphore (.guard s)).permits.toNat +
      below.countP (fun g => (g.view s).Holds) = 1 ∧ Founded s below

/-- Where one party is alone, the permit of a guard is free or with a program of that party. -/
lemma Runs.permit_alone (run : Runs B (start own clients) l P) {i : Fin n} (alone : ∀ j, j = i)
    (s : SessionId) : (P.world.semaphore (.guard s)).permits.toNat +
      (P.parties i).frames.countP (fun g => (g.view s).Holds) = 1 := by
  have permit := (run.sound s).permit
  have views : (P.ledger s l).views = P.frames.map (Frame.view s) := rfl
  have frames : P.frames = ((P.parties i).frames : Multiset (Frame σ)) :=
    Finset.sum_eq_single_of_mem i (Finset.mem_univ i) fun j _ hj => absurd (alone j) hj
  rw [views, Multiset.countP_map, frames, ← Multiset.countP_eq_card_filter,
    Multiset.coe_countP] at permit
  exact permit

/-- Where one party is alone, its programs are founded. -/
lemma Runs.founded (run : Runs B (start own clients) l P) {i : Fin n} (alone : ∀ j, j = i)
    (s : SessionId) : Founded s (P.parties i).frames := by
  induction run with
  | refl => exact ⟨rfl, trivial⟩
  | @tail Q R l e run step ih =>
    obtain ⟨j, e⟩ := e
    obtain rfl := alone j
    obtain ⟨old, new, rest, hold, hnew, -, turn⟩ := run.turn step
    have permit := run.permit_alone alone s
    rw [hold] at ih permit
    rw [hnew]
    generalize R.world = w at turn
    cases turn with
    | act _ _ => exact ih
    | call _ => exact ⟨permit, ih⟩
    | «return» _ _ => exact ih.2

/-- Where one party is alone, a service that opens or closes a session leaves the guard as it found
it. -/
theorem Runs.guard_of_returned (run : Runs B (start own clients) l P) {i : Fin n}
    (alone : ∀ j, j = i) {c : Service} {w : World σ} {x : c.Answer} {d : List (Deed σ)}
    (step : Step B P (i, .returned (.service c) w x d) Q) (s : SessionId) :
    Q.world.semaphore (.guard s) = w.semaphore (.guard s) := by
  have permit := run.permit_alone alone s
  have founded := run.founded alone s
  have astray := run.stage_ne_astray (run.frame_of_return step).1 s
  obtain ⟨passes, -⟩ := B.passes_of_complete (run.frame_of_return step).2 astray
  obtain ⟨old, new, rest, hold, hnew, -, turn⟩ := run.turn step
  rw [hold] at permit founded
  generalize hw : Q.world = v at turn
  cases turn with
  | «return» _ _ =>
    have gone : (Standing.of s d).stage = .away := passes
    have without : ¬ (Frame.view s ⟨some (.service c), w, d, none⟩).Holds := fun held => held gone
    rw [List.cons_append, List.countP_cons_of_neg (by simpa using without)] at permit
    have same : (P.world.semaphore (.guard s)).permits.toNat =
        (w.semaphore (.guard s)).permits.toNat := by
      have before := founded.1
      simp only [List.append_eq] at permit before
      omega
    have guard (g g' : Semaphore) (h : g.permits.toNat = g'.permits.toNat) : g = g' := by
      cases g
      cases g'
      simpa [UInt32.toNat_inj] using h
    exact guard _ _ same

end Pool

end LedDriver
