import LedDriver.Proofs.Lifecycle.Ledger

/-!
# Accounting over runs

The ledger of a session at each state of a run (`Pool.ledger`), and the proof that it is always
sound (`Runs.sound`): an atom, the beginning of a call and the end of a call each keep it so.
-/

namespace LedDriver

variable {σ α : Type} {n : Nat}

/-- The driver sets up the hardware of a session. -/
def Call.isSetup (s : SessionId) : Call → Bool
  | .peer (.operate .driver _ u .setup _) => u == s
  | _ => false

/-- The driver puts the hardware of a session to rest. -/
def Call.isShutdown (s : SessionId) : Call → Bool
  | .peer (.operate .driver _ u .shutdown _) => u == s
  | _ => false

lemma Call.isSetup_iff {s : SessionId} {c : Call} :
    c.isSetup s = true ↔ ∃ h, c = .peer (.operate .driver h s .setup ()) := by
  constructor
  · intro hc
    unfold isSetup at hc
    split at hc
    · obtain rfl := eq_of_beq hc
      exact ⟨_, rfl⟩
    · cases hc
  · rintro ⟨h, rfl⟩
    simp [isSetup]

lemma Call.isShutdown_iff {s : SessionId} {c : Call} :
    c.isShutdown s = true ↔ ∃ h, c = .peer (.operate .driver h s .shutdown ()) := by
  constructor
  · intro hc
    unfold isShutdown at hc
    split at hc
    · obtain rfl := eq_of_beq hc
      exact ⟨_, rfl⟩
    · cases hc
  · rintro ⟨h, rfl⟩
    simp [isShutdown]

/-- The driver has set up the hardware of a session. -/
def Label.isSetUp (s : SessionId) : Label σ → Bool
  | .returned (.peer (.operate .driver _ u .setup _)) _ (.ok _) _ => u == s
  | _ => false

@[simp] lemma Label.isSetUp_acted (s : SessionId) (a : Atom σ) (x : a.Answer) :
    (Label.acted a x).isSetUp s = false := rfl

@[simp] lemma Label.isSetUp_called (s : SessionId) (c : Call) :
    (Label.called c : Label σ).isSetUp s = false := rfl

/-- Whether the hardware of a session is set up after a step, if the step bears on that. -/
def Label.power (s : SessionId) : Label σ → Option Bool
  | .called c => if c.isSetup s || c.isShutdown s then some false else none
  | .returned (.peer (.operate .driver _ u .setup _)) _ r _ => if u = s then some r.isOk else none
  | .acted _ _ | .returned _ _ _ _ => none

/-- Only the end of an attempt to set up the hardware bears on it. -/
lemma Label.unmoved_of_isSetup {s : SessionId} {c : Call} (before : World σ) (x : c.Answer)
    (d : List (Deed σ)) (hc : c.isSetup s = false) :
    (Label.returned c before x d).power s = none ∧
      (Label.returned c before x d).isSetUp s = false := by
  unfold power isSetUp
  constructor
  · split <;> simp_all [Call.isSetup]
  · split <;> simp_all [Call.isSetup]

/-- The standing of a program as a view. -/
def Standing.view (t : Standing) (closing : Bool) : View := ⟨t.stage, closing, t.gain, t.ended⟩

/-- A program in progress as a view. -/
def Frame.view (s : SessionId) (f : Frame σ) : View :=
  (Standing.of s f.past).view (f.pending.any (Call.isShutdown s))

namespace Pool

/-- The last attempt to set up the hardware of a session succeeded, and the hardware was not put to
rest since. -/
def live (s : SessionId) (l : List (Fin n × Label σ)) : Bool :=
  ((l.filterMap fun e => e.2.power s).getLast?).getD false

/-- The ledger of a session after a run. -/
def ledger (P : Pool n σ α) (s : SessionId) (l : List (Fin n × Label σ)) : Ledger where
  count := P.world.count s
  permits := (P.world.semaphore (.guard s)).permits
  live := live s l
  gain := (l.map fun e => (Standing.of s e.2.deeds).gain).sum
  ended := (l.map fun e => (Standing.of s e.2.deeds).ended).sum
  setUps := l.countP fun e => e.2.isSetUp s
  views := P.frames.map (Frame.view s)

end Pool

/-- A ledger with the count and the permits of a world and with other views. -/
def Ledger.taken (L : Ledger) (s : SessionId) (w : World σ) (views : Multiset View) : Ledger :=
  { L with count := w.count s, permits := (w.semaphore (.guard s)).permits, views := views }

namespace Ledger.Sound

variable {L : Ledger} {rest : Multiset View} {t : Standing} {s : SessionId} {w w' : World σ}
  {a : Atom σ} {x : a.Answer}

/-! ## Atoms -/

/-- The permit is free if there is one. -/
lemma permits_eq_one (h : L.Sound) (hp : L.permits ≠ 0) : L.permits.toNat = 1 := by
  have permit := h.permit
  have : L.permits.toNat ≠ 0 := fun h0 => hp (UInt32.toNat_inj.mp h0)
  omega

/-- An exchange takes the permit or changes nothing. -/
lemma exchange {seen : UInt32} {x : Except UInt32 Unit}
    (h : (L.taken s w (t.view false ::ₘ rest)).Sound)
    (ha : (Atom.exchange (.guard s) seen).Performs w x w') (away : t.stage = .away)
    (nonzero : seen ≠ 0) :
    (L.taken s w'
      ((t.next s (.acted (.exchange (.guard s) seen) x : Deed σ)).view false ::ₘ rest)).Sound := by
  rcases ha.of_exchange with ⟨rfl, hseen, left, count⟩ | ⟨⟨v, rfl⟩, rfl⟩
  · have entered : t.next s (.acted (.exchange (.guard s) seen) (.ok ()) : Deed σ) =
        { t with stage := .entered } := by
      simp [Standing.next, Standing.enter, away]
    have one : seen.toNat = 1 := by
      simpa [taken, hseen] using h.permits_eq_one (by simp [taken, hseen, nonzero])
    have none : (w'.semaphore (.guard s)).permits.toNat = 0 := by
      rw [left, UInt32.toNat_sub_of_le _ _ (by rw [UInt32.le_iff_toNat_le, one]; decide), one]
      rfl
    rw [entered]
    refine h.replace rfl rfl (.inl ⟨by simp [taken, count], rfl⟩) ?_ ?_ ?_ ?_ ?_
    · simp [taken, none, hseen, one, View.Holds, Standing.view, away]
    · simpa [taken, View.Fits, Standing.view, count] using h.free (by simp [taken, hseen, one])
    · simp [taken, none]
    · simp [taken, count, Standing.view]
    · simp [taken, count, Standing.view, View.IsReady, away]
  · have same : t.next s (.acted (.exchange (.guard s) seen) (.error v) : Deed σ) = t := by
      simp [Standing.next]
    rw [same]
    exact h

/-- A post gives the permit back. -/
lemma post (h : (L.taken s w (t.view false ::ₘ rest)).Sound)
    (ha : (Atom.post (.guard s)).Performs w () w')
    (done : t.stage = .settled ∨ ∃ n, t.stage = .found n) :
    (L.taken s w'
      ((t.next s (.acted (.post (.guard s)) () : Deed σ)).view false ::ₘ rest)).Sound := by
  obtain ⟨back, count⟩ := ha.of_post
  have left : t.next s (.acted (.post (.guard s)) () : Deed σ) = { t with stage := .away } := by
    rcases done with done | ⟨n, done⟩ <;> simp [Standing.next, Standing.leave, done]
  have holds : (t.view false).Holds := by
    rcases done with done | ⟨n, done⟩ <;> simp [View.Holds, Standing.view, done]
  have unready : ¬ (t.view false).IsReady := by
    rcases done with done | ⟨n, done⟩ <;> simp [View.IsReady, Standing.view, done]
  have none : (w.semaphore (.guard s)).permits.toNat = 0 := (h.others_away rfl holds).1
  have one : (w'.semaphore (.guard s)).permits.toNat = 1 := by
    rw [back, UInt32.toNat_add, none]
    rfl
  have settled : 0 < (w.count s).toNat ↔ L.live = true := by
    have fits := h.fits _ (Multiset.mem_cons_self _ _)
    rcases done with done | ⟨n, done⟩
    · simpa [taken, View.Fits, Standing.view, done] using fits
    · simp only [taken, View.Fits, Standing.view, done] at fits
      exact fits.2
  rw [left]
  refine h.replace rfl rfl (.inl ⟨by simp [taken, count], rfl⟩) ?_ trivial ?_ ?_ ?_
  · rw [if_pos holds]
    simp [taken, none, one, View.Holds, Standing.view]
  · intro _
    simpa [taken, count] using settled
  · simp [taken, count, Standing.view]
  · rw [if_neg unready]
    simp [taken, count, Standing.view, View.IsReady]

/-- A look at the open count shows the count that was found before with the same permit. -/
lemma look {n : UInt8} (h : (L.taken s w (t.view false ::ₘ rest)).Sound)
    (ha : (Atom.count s).Performs w n w') :
    (L.taken s w' ((t.next s (.acted (.count s) n : Deed σ)).view false ::ₘ rest)).Sound := by
  obtain ⟨rfl, rfl⟩ := ha.of_count
  have fits := h.fits _ (Multiset.mem_cons_self _ _)
  have looked : t.next s (.acted (.count s) (w'.count s) : Deed σ) = t.look (w'.count s) := by
    simp [Standing.next]
  rw [looked]
  by_cases entered : t.stage = .entered
  · rw [show t.look (w'.count s) = { t with stage := .found (w'.count s) } by
      simp [Standing.look, entered]]
    refine h.replace rfl rfl (.inl ⟨rfl, rfl⟩) ?_ ?_ h.free rfl ?_
    · simp [taken, View.Holds, Standing.view, entered]
    · simpa [taken, View.Fits, Standing.view, entered] using fits
    · simp [taken, View.IsReady, Standing.view, entered]
  · have same : t.look (w'.count s) = t := by
      unfold Standing.look
      split
      · contradiction
      · next m found =>
        simp only [taken, View.Fits, Standing.view, found] at fits
        rw [if_pos fits.1]
      all_goals rfl
    rw [same]
    exact h

/-- A program that may store a count has the permit before and after, leaves a count that fits the
hardware, and accounts for the change. -/
lemma store_view {m v : UInt8} {live : Bool} (admits : t.Admits v)
    (fits : (t.view false).Fits m live) :
    (t.view false).Holds ∧ ((t.store v).view false).Holds ∧ ((t.store v).view false).Fits v live ∧
      (v.toNat : Int) - (t.store v).gain = m.toNat - t.gain ∧
      -(t.store v).ended - inUse v - (if ((t.store v).view false).IsReady then 1 else 0) =
        -t.ended - inUse m - if (t.view false).IsReady then 1 else 0 := by
  rcases admits with ⟨n, p, ht, -, pos, raised, -⟩ | ⟨p, ht, -, rfl, -⟩ | ⟨n, ht, many, lowered⟩ |
    ⟨n, ht, few, rfl⟩
  · -- One more reference.
    obtain ⟨rfl, use⟩ : m = n ∧ (0 < m.toNat ↔ live = true) := by
      simpa only [View.Fits, Standing.view, ht] using fits
    have nonzero : v ≠ 0 := by
      rintro rfl
      simp at raised
    have now : 0 < v.toNat := by omega
    refine ⟨?_, ?_, ?_, ?_, ?_⟩
    · simp [View.Holds, Standing.view, ht]
    · simp [View.Holds, Standing.view, Standing.store, ht, nonzero]
    · simp [View.Fits, Standing.view, Standing.store, ht, nonzero, use.mp pos, now]
    · simp only [Standing.store, ht, if_neg nonzero]
      omega
    · simp [View.IsReady, Standing.view, Standing.store, ht, nonzero, inUse, now, pos]
  · -- The first reference.
    obtain ⟨rfl, up⟩ : m = 0 ∧ live = true := by
      simpa only [View.Fits, Standing.view, ht] using fits
    refine ⟨?_, ?_, ?_, ?_, ?_⟩
    · simp [View.Holds, Standing.view, ht]
    · simp [View.Holds, Standing.view, Standing.store, ht]
    · simp [View.Fits, Standing.view, Standing.store, ht, up]
    · simp [Standing.store, ht]
    · simp [View.IsReady, Standing.view, Standing.store, ht, inUse]
  · -- One reference less.
    obtain ⟨rfl, use⟩ : m = n ∧ (0 < m.toNat ↔ live = true) := by
      simpa only [View.Fits, Standing.view, ht] using fits
    have nonzero : v ≠ 0 := by
      rintro rfl
      simp at lowered
      omega
    have before : 0 < m.toNat := by omega
    have now : 0 < v.toNat := by omega
    refine ⟨?_, ?_, ?_, ?_, ?_⟩
    · simp [View.Holds, Standing.view, ht]
    · simp [View.Holds, Standing.view, Standing.store, ht, nonzero]
    · simp [View.Fits, Standing.view, Standing.store, ht, nonzero, use.mp before, now]
    · simp only [Standing.store, ht, if_neg nonzero]
      omega
    · simp [View.IsReady, Standing.view, Standing.store, ht, nonzero, inUse, now, before]
  · -- The last reference.
    obtain ⟨rfl, -⟩ : m = n ∧ (0 < m.toNat ↔ live = true) := by
      simpa only [View.Fits, Standing.view, ht] using fits
    refine ⟨?_, ?_, ?_, ?_, ?_⟩
    · simp [View.Holds, Standing.view, ht]
    · simp [View.Holds, Standing.view, Standing.store, ht]
    · simp [View.Fits, Standing.view, Standing.store, ht]
    · simp [Standing.store, ht]
    · simp only [View.IsReady, Standing.view, Standing.store, ht, inUse]
      simp
      split <;> omega

/-- A count that may be stored balances. -/
lemma store {v : UInt8} (h : (L.taken s w (t.view false ::ₘ rest)).Sound) (hw : w.Blank)
    (ha : (Atom.setCount s v).Performs w () w') (admits : t.Admits v) :
    (L.taken s w'
      ((t.next s (.acted (.setCount s v) () : Deed σ)).view false ::ₘ rest)).Sound := by
  have count : w'.count s = v := ha.of_setCount
  have permits : w'.semaphore (.guard s) = w.semaphore (.guard s) :=
    ha.guard_eq hw (fun _ => nofun) nofun
  have stored : t.next s (.acted (.setCount s v) () : Deed σ) = t.store v := by
    simp [Standing.next]
  obtain ⟨holds, holds', fits, gain, ended⟩ :=
    store_view admits (h.fits _ (Multiset.mem_cons_self _ _))
  rw [stored]
  refine h.replaceHolding rfl rfl holds holds' (congrArg Semaphore.permits permits) ?_ ?_ ?_
  · rw [taken, count]
    exact fits
  · simp only [taken, count, Standing.view] at gain ⊢
    omega
  · simp only [taken, count, Standing.view] at ended ⊢
    omega

/-- An atom that a program may perform keeps the ledger sound. -/
lemma atom (h : (L.taken s w (t.view false ::ₘ rest)).Sound) (hw : w.Blank)
    (ha : a.Performs w x w') (allowed : t.Allows s (.atom a)) :
    (L.taken s w' ((t.next s (.acted a x)).view false ::ₘ rest)).Sound := by
  by_cases he : ∃ seen, a = .exchange (.guard s) seen
  · obtain ⟨seen, rfl⟩ := he
    obtain ⟨away, nonzero⟩ := allowed rfl
    exact h.exchange ha away nonzero
  by_cases hp : a = .post (.guard s)
  · subst hp
    exact h.post ha (allowed rfl)
  by_cases hc : a = .count s
  · subst hc
    exact h.look ha
  by_cases hs : ∃ v, a = .setCount s v
  · obtain ⟨v, rfl⟩ := hs
    exact h.store hw ha (allowed rfl)
  have he' : ∀ seen, a ≠ .exchange (.guard s) seen := fun seen e => he ⟨seen, e⟩
  have hs' : ∀ v, a ≠ .setCount s v := fun v e => hs ⟨v, e⟩
  obtain ⟨stage, gain, ended⟩ := t.next_acted x he' hp hc hs'
  have same : (t.next s (.acted a x)).view false = t.view false := by
    simp [Standing.view, stage, gain, ended]
  rw [same, taken, ha.count_eq hw hs', ha.guard_eq hw he' hp]
  exact h

/-! ## Calls -/

/-- The beginning of a call that a program may make keeps the ledger sound. -/
lemma call {c : Call} (h : { L with views := t.view false ::ₘ rest }.Sound)
    (allowed : t.Allows s (.call c : Request σ)) :
    { L with
      live := ((Label.called c : Label σ).power s).getD L.live
      views := Standing.initial.view false ::ₘ t.view (c.isShutdown s) ::ₘ rest }.Sound := by
  suffices caller : { L with
      live := ((Label.called c : Label σ).power s).getD L.live
      views := t.view (c.isShutdown s) ::ₘ rest }.Sound from caller.begin
  by_cases up : c.isSetup s = true
  · obtain ⟨u, rfl⟩ := Call.isSetup_iff.mp up
    have found : t.stage = .found 0 := allowed rfl
    have fits := h.fits _ (Multiset.mem_cons_self _ _)
    simp only [View.Fits, Standing.view, found] at fits
    simp only [Label.power, up, Bool.true_or, if_true, Option.getD_some, Call.isShutdown]
    have holds : (t.view false).Holds := by simp [View.Holds, Standing.view, found]
    refine h.replaceHolding rfl rfl holds holds rfl ?_ rfl rfl
    simp [View.Fits, Standing.view, found, fits.1]
  by_cases down : c.isShutdown s = true
  · obtain ⟨u, rfl⟩ := Call.isShutdown_iff.mp down
    have cleared : t.stage = .cleared := allowed rfl
    have fits := h.fits _ (Multiset.mem_cons_self _ _)
    simp only [View.Fits, Standing.view, cleared] at fits
    simp only [Label.power, down, Bool.or_true, if_true, Option.getD_some]
    have holds (closing : Bool) : (t.view closing).Holds := by
      simp [View.Holds, Standing.view, cleared]
    refine h.replaceHolding rfl rfl (holds false) (holds true) rfl ?_ rfl rfl
    simp [View.Fits, Standing.view, cleared, fits.1]
  simpa [Label.power, up, down] using h

/-- An answer hands the permit over, or it changes no stage unless the hardware was set up or put to
rest. -/
lemma receive_cases (s : SessionId) (c : Call) (x : c.Answer) :
    ((∃ r : Routine, c = .routine r) ∧ (∀ t : Standing, t.receive s c x = t.enter) ∧
        ∀ t : Standing, t.Allows s (.call c : Request σ) → t.stage = .away) ∨
      ((Standing.initial.receive s c x).stage = .away ∧
        (c.isSetup s = false → c.isShutdown s = false → ∀ t : Standing, t.receive s c x = t)) := by
  cases c with
  | service c => exact .inr ⟨rfl, fun _ _ _ => rfl⟩
  | routine r =>
    cases r with
    | tryWait g =>
      by_cases h : g = .guard s ∧ x = true
      · exact .inl ⟨⟨_, rfl⟩, fun t => if_pos h, fun t ht => ht h.1⟩
      · exact .inr ⟨congrArg Standing.stage (if_neg h), fun _ _ t => if_neg h⟩
    | claim g seen =>
      by_cases h : g = .guard s ∧ x = true
      · exact .inl ⟨⟨_, rfl⟩, fun t => if_pos h, fun t ht => ht h.1⟩
      · exact .inr ⟨congrArg Standing.stage (if_neg h), fun _ _ t => if_neg h⟩
    | wait g p =>
      by_cases h : g = .guard s ∧ x.isOk = true
      · exact .inl ⟨⟨_, rfl⟩, fun t => if_pos h, fun t ht => ht h.1⟩
      · exact .inr ⟨congrArg Standing.stage (if_neg h), fun _ _ t => if_neg h⟩
  | peer c =>
    right
    cases c with
    | operate k h u o args =>
      cases k with
      | client => exact ⟨rfl, fun _ _ _ => rfl⟩
      | driver =>
        cases o <;> try exact ⟨rfl, fun _ _ _ => rfl⟩
        all_goals
          by_cases hu : u = s <;>
            simp [Standing.receive, Standing.setUp, Standing.rest, Standing.initial, Call.isSetup,
              Call.isShutdown, hu]
    | _ => exact ⟨rfl, fun _ _ _ => rfl⟩

/-- The end of an attempt to set up the hardware: where it succeeded, a reference is to be
counted. -/
lemma ended_setup {h : LowerId} {r : Except DeviceError Unit} (before : World σ) (d : List (Deed σ))
    (sound : L.Sound) (hv : L.views = t.view false ::ₘ rest) (found : t.stage = .found 0) :
    { L with
      live :=
        ((Label.returned (.peer (.operate .driver h s .setup ())) before r d).power s).getD L.live
      setUps := L.setUps +
        if (Label.returned (.peer (.operate .driver h s .setup ())) before r d).isSetUp s
        then 1 else 0
      views :=
        (t.receive s (.peer (.operate .driver h s .setup ())) r).view false ::ₘ rest }.Sound := by
  have received : t.receive s (.peer (.operate .driver h s .setup ())) r = t.setUp r := if_pos rfl
  have holds : (t.view false).Holds := by simp [View.Holds, Standing.view, found]
  have fits := sound.fits _ (hv ▸ Multiset.mem_cons_self _ _)
  simp only [View.Fits, Standing.view, found] at fits
  rw [received]
  cases r with
  | ok x =>
    have ready : t.setUp (.ok x) = { t with stage := .ready } := by simp [Standing.setUp, found]
    rw [ready]
    refine sound.replaceHolding hv rfl holds ?_ rfl ?_ ?_ ?_
    · simp [View.Holds, Standing.view]
    · simp [View.Fits, Standing.view, Label.power, fits.1]
    · simp [Standing.view]
    · simp [Label.isSetUp, View.IsReady, Standing.view, found]
      omega
  | error e =>
    have settled : t.setUp (.error e) = { t with stage := .settled } := by
      simp [Standing.setUp, found]
    rw [settled]
    refine sound.replaceHolding hv rfl holds ?_ rfl ?_ ?_ ?_
    · simp [View.Holds, Standing.view]
    · simp [View.Fits, Standing.view, Label.power, fits.1]
    · simp [Standing.view]
    · simp [Label.isSetUp, View.IsReady, Standing.view, found]

/-- The program that had the hardware put to rest has settled everything when that has ended. -/
lemma ended_shutdown (sound : L.Sound) (hv : L.views = t.view true ::ₘ rest)
    (cleared : t.stage = .cleared) :
    { L with views := ({ t with stage := .settled } : Standing).view false ::ₘ rest }.Sound := by
  have holds : (t.view true).Holds := by simp [View.Holds, Standing.view, cleared]
  have fits := sound.fits _ (hv ▸ Multiset.mem_cons_self _ _)
  simp only [View.Fits, Standing.view, cleared] at fits
  refine sound.replaceHolding hv rfl holds ?_ rfl ?_ rfl ?_
  · simp [View.Holds, Standing.view]
  · simp [View.Fits, Standing.view, fits]
  · simp [View.IsReady, Standing.view, cleared]

/-- The end of a call keeps the ledger sound. -/
lemma ended {c : Call} {x : c.Answer} {u : Standing} (before : World σ) (d : List (Deed σ))
    (h : { L with views := u.view false ::ₘ t.view (c.isShutdown s) ::ₘ rest }.Sound)
    (allowed : t.Allows s (.call c : Request σ)) (passes : c.Passes s x u) :
    { L with
      live := ((Label.returned c before x d).power s).getD L.live
      gain := L.gain + u.gain
      ended := L.ended + u.ended
      setUps := L.setUps + if (Label.returned c before x d).isSetUp s then 1 else 0
      views := (t.receive s c x).view false ::ₘ rest }.Sound := by
  rcases receive_cases (σ := σ) s c x with ⟨⟨r, rfl⟩, enters, away⟩ | ⟨plain, same⟩
  · -- The permit goes from the call to its caller.
    have ht := away t allowed
    have entered : u.stage = .entered := by
      rw [passes.1, enters]
      rfl
    have caller : (t.receive s (.routine r) x).view false =
        { t.view false with stage := .entered } := by
      simp [enters, Standing.enter, ht, Standing.view]
    rw [caller]
    simpa [Label.power, Label.isSetUp, Call.isShutdown, Standing.view] using
      h.handOver rfl entered ht
  · have done := h.finish rfl (passes.1.trans plain)
    by_cases up : c.isSetup s = true
    · obtain ⟨k, rfl⟩ := Call.isSetup_iff.mp up
      exact ended_setup before d done rfl (allowed rfl)
    by_cases down : c.isShutdown s = true
    · obtain ⟨k, rfl⟩ := Call.isShutdown_iff.mp down
      have cleared : t.stage = .cleared := allowed rfl
      have settled : t.receive s (.peer (.operate .driver k s .shutdown ())) x =
          { t with stage := .settled } := by
        simp [Standing.receive, Standing.rest, cleared]
      rw [down] at done
      rw [settled]
      simpa [Label.power, Label.isSetUp, Standing.view] using ended_shutdown done rfl cleared
    obtain ⟨power, setUp⟩ := Label.unmoved_of_isSetup before x d (by simpa using up)
    rw [same (by simpa using up) (by simpa using down), power, setUp]
    simpa [down, Standing.view] using done

end Ledger.Sound

/-! ## Runs -/

namespace Pool

variable {B : Board σ} {P Q : Pool n σ α} {l : List (Fin n × Label σ)} {own : σ}
  {clients : Fin n → Reaction σ α} {s : SessionId}

lemma live_snoc (s : SessionId) (l : List (Fin n × Label σ)) (i : Fin n) (e : Label σ) :
    live s (l ++ [(i, e)]) = (e.power s).getD (live s l) := by
  unfold live
  rw [List.filterMap_append]
  cases h : e.power s <;> simp [h]

lemma ledger_start (own : σ) (clients : Fin n → Reaction σ α) (s : SessionId) :
    ((start own clients).ledger s []).Sound := by
  have none : (⟨0, 1, false, 0, 0, 0, 0⟩ : Ledger).Sound :=
    ⟨rfl, fun _ h => absurd h (Multiset.notMem_zero _), fun _ => by simp, rfl, rfl⟩
  have some : ∀ m, (⟨0, 1, false, 0, 0, 0, .replicate m ⟨.away, false, 0, 0⟩⟩ : Ledger).Sound := by
    intro m
    induction m with
    | zero => exact none
    | succ m ih => exact ih.begin
  have same : (start own clients).ledger s [] =
      ⟨0, 1, false, 0, 0, 0, .replicate n ⟨.away, false, 0, 0⟩⟩ := by
    simp only [ledger, frames_start, Multiset.map_replicate]
    rfl
  rw [same]
  exact some n

/-- The ledger of a session is sound at every state of a run. -/
theorem Runs.sound (run : Runs B (start own clients) l P) (s : SessionId) :
    (P.ledger s l).Sound := by
  induction run with
  | refl => exact ledger_start own clients s
  | @tail Q R l e run step ih =>
    obtain ⟨i, e⟩ := e
    obtain ⟨old, new, rest, hold, hnew, turn⟩ := run.turn_frames step
    have views : Q.frames.map (Frame.view s) = (old.map (Frame.view s) : Multiset View) +
        rest.map (Frame.view s) := by
      simp [hold]
    have views' : R.frames.map (Frame.view s) = (new.map (Frame.view s) : Multiset View) +
        rest.map (Frame.view s) := by
      simp [hnew]
    unfold ledger at ih ⊢
    rw [views] at ih
    rw [views', live_snoc]
    generalize R.world = w at turn ⊢
    have allowed {o : Option Call} {w₀ : World σ} {d : List (Deed σ)} {p : Option Call}
        {q : Request σ} (hf : (⟨o, w₀, d, p⟩ : Frame σ) ∈ old) (ask : B.Continues o d q) :
        (Standing.of s d).Allows s q := by
      refine ask.allowed fun astray => ?_
      have fits := ih.fits (Frame.view s ⟨o, w₀, d, p⟩)
        (Multiset.mem_add.mpr (.inl (Multiset.mem_coe.mpr (List.mem_map_of_mem hf))))
      simp only [View.Fits, Frame.view, Standing.view, astray] at fits
    cases turn with
    | @act o w₀ _ d a x ask ha =>
      have may := allowed (List.mem_singleton_self _) ask
      simp only [List.map_singleton, Multiset.coe_singleton, Multiset.singleton_add] at ih ⊢
      have next := Ledger.Sound.atom (L := Q.ledger s l) ih run.blank ha may
      simpa [Ledger.taken, ledger, Label.power, Frame.view, Standing.initial] using next
    | @call o w₀ d c ask =>
      have may := allowed (List.mem_singleton_self _) ask
      simp only [List.map_cons, List.map_nil, ← Multiset.cons_coe, Multiset.coe_nil,
        Multiset.cons_add, zero_add] at ih ⊢
      have next := Ledger.Sound.call (σ := σ) (L := Q.ledger s l) ih may
      simpa [ledger, Frame.view, Standing.initial] using next
    | @«return» o w₀ w₁ d deeds c x ask complete =>
      have may := allowed (.tail _ (List.mem_singleton_self _)) ask
      simp only [List.map_cons, List.map_nil, ← Multiset.cons_coe, Multiset.coe_nil,
        Multiset.cons_add, zero_add] at ih ⊢
      have astray : (Standing.of s deeds).stage ≠ .astray := by
        intro astray
        have fits := ih.fits _ (Multiset.mem_cons_self _ _)
        simp only [View.Fits, Frame.view, Standing.view, astray] at fits
      have next := Ledger.Sound.ended (L := Q.ledger s l) w₁ deeds ih may
        (B.passes_of_complete complete astray)
      simpa [ledger, Frame.view, List.countP_cons, Standing.next] using next

end Pool

end LedDriver
