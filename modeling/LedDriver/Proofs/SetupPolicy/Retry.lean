import LedDriver.Proofs.Independence.Sparing
import LedDriver.Proofs.SetupPolicy.Attempt

/-!
# The open after a failed one

An open that cannot set up the hardware found no open reference and leaves none
(`Board.attemptHolding_effect`).  Only opens and closes of a session change its open count or take
the permit of its guard (`Board.kept_of_perform`), and a close that finds no reference leaves none
(`Board.closeHolding_effect`).  Hence the next open finds no reference either, and sets up the
hardware again (`Board.retries_of_inTurn`).  All this holds whatever the policy.
-/

namespace LedDriver

variable {σ α : Type} {s : SessionId} {may : UInt8 → Prop}

/-- A question that leaves the permits of a session's guard alone and stores at most certain open
counts. -/
def Request.Stores (s : SessionId) (may : UInt8 → Prop) : Request σ → Prop
  | .atom (.setCount t n) => t = s → may n
  | .atom (.exchange g _) | .atom (.post g) => g ≠ .guard s
  | .atom _ => True
  | .call (.service c) => c ≠ .openDevice s ∧ c ≠ .closeDevice s
  | .call (.routine (.tryWait g)) | .call (.routine (.claim g _)) | .call (.routine (.wait g _)) =>
    g ≠ .guard s
  | .call (.peer _) => True

/-- A program of the driver stores a count and uses a guard only if the call has to do with them. -/
lemma Call.Asks.stores {c : Call} {r : Request σ} (h : c.Asks r) (driver : ∀ p, c ≠ .peer p)
    (hc : (Request.call c : Request σ).Stores s may) : r.Stores s may := by
  cases h
  case peer_use => exact absurd rfl (driver _)
  all_goals simp_all [Request.Stores, eq_comm]

/-- From one world to another a session stays created and its guard has the same permits, and its
open count is the same or one of certain counts. -/
structure World.Kept (s : SessionId) (may : UInt8 → Prop) (v w : World σ) : Prop where
  created : s < w.issued
  count : w.count s = v.count s ∨ may (w.count s)
  guard : w.semaphore (.guard s) = v.semaphore (.guard s)

lemma World.Kept.trans {u v w : World σ} (huv : u.Kept s may v) (hvw : v.Kept s may w) :
    u.Kept s may w where
  created := hvw.created
  count := by
    rcases hvw.count with same | stored
    · exact same ▸ huv.count
    · exact .inr stored
  guard := hvw.guard.trans huv.guard

/-- Atoms that store at most certain counts leave the session alone but for that. -/
lemma Atom.kept {a : Atom σ} (ha : (Request.atom a).Stores s may) {w : World σ}
    (created : s < w.issued)
    {r : a.Answer × World σ} (h : a.apply w = .ok r) : w.Kept s may r.2 := by
  have later := Nat.lt_of_lt_of_le created (Atom.Performs.effect h).issued_le.1
  obtain ⟨-, h⟩ := Atom.apply_eq_ok_iff.mp h
  cases a with
  | acquire l =>
    cases l <;> simp only [Atom.effect] at h <;> split at h <;> cases h <;>
      exact ⟨later, .inl rfl, rfl⟩
  | release l => cases l <;> cases h <;> exact ⟨later, .inl rfl, rfl⟩
  | exchange g seen =>
    simp only [Atom.effect] at h
    split at h <;> cases h
    · exact ⟨later, .inl rfl, update_of_ne _ _ (Ne.symm ha)⟩
    · exact ⟨later, .inl rfl, rfl⟩
  | post g =>
    cases h
    exact ⟨later, .inl rfl, update_of_ne _ _ (Ne.symm ha)⟩
  | setCount t n =>
    cases h
    refine ⟨later, ?_, rfl⟩
    by_cases same : t = s
    · subst same
      simpa using .inr (ha rfl)
    · exact .inl (update_of_ne _ _ (Ne.symm same))
  | create p =>
    cases h
    have other : s ≠ w.issued := Nat.ne_of_lt created
    exact ⟨later, .inl (update_of_ne _ _ other),
      update_of_ne _ _ fun same => other (SemaphoreId.guard.inj same)⟩
  | control | table | permits | count | profile | own =>
    cases h
    exact ⟨later, .inl rfl, rfl⟩

namespace CallTree

/-- The error with which the hardware of a session could not be set up, if the call is an open of
it. -/
def setupFailure? (s : SessionId) : CallTree σ → Option DeviceError
  | node (.service (.openDevice t)) _ _ _ ts => if t = s then setupError? s ts else none
  | _ => none

lemma setupFailure?_eq_none {t : CallTree σ} (h : t.call ≠ .service (.openDevice s)) :
    t.setupFailure? s = none := by
  unfold setupFailure?
  split
  · exact if_neg fun same => h (congrArg (fun t => Call.service (.openDevice t)) same)
  · rfl

/-- The driver calls a lower half to set up the hardware of a session. -/
def SetsUp (s : SessionId) (h : LowerId) (t : CallTree σ) : Prop :=
  ∃ u ∈ t.inner, u.call = .peer (.operate .driver h s .setup ())

/-- After an open of a session that could not set up the hardware, the next open sets it up
again. -/
def Retries (s : SessionId) (h : LowerId) (ts : List (CallTree σ)) : Prop :=
  ∀ a t b u c, ts = a ++ t :: (b ++ u :: c) → t.setupFailure? s ≠ none →
    (∀ v ∈ b, v.call ≠ .service (.openDevice s)) → u.call = .service (.openDevice s) → u.SetsUp s h

/-- What a call does to the open count of a session whose guard is free. -/
structure Counted (s : SessionId) (p : Profile) (t : CallTree σ) : Prop where
  profile : t.before.profile s = p
  kept : t.before.Kept s (fun _ => True) t.after
  failed : t.setupFailure? s ≠ none → t.after.count s = 0 ∧ p.config.maxOpens ≠ 0
  unopened : t.before.count s = 0 → t.call ≠ .service (.openDevice s) → t.after.count s = 0
  opened : t.before.count s = 0 → p.config.maxOpens ≠ 0 → t.call = .service (.openDevice s) →
    t.SetsUp s p.lower

/-- Calls that do not open a session leave it without references. -/
lemma count_eq_zero_of_isChain {p : Profile} {t u : CallTree σ} {b c : List (CallTree σ)}
    (chain : (t :: (b ++ u :: c)).IsChain fun t u => t.after = u.before)
    (counted : ∀ v ∈ b, v.Counted s p) (unopened : ∀ v ∈ b, v.call ≠ .service (.openDevice s))
    (none : t.after.count s = 0) : u.before.count s = 0 := by
  induction b generalizing t with
  | nil =>
    obtain ⟨next, -⟩ := List.isChain_cons_cons.mp chain
    rw [← next]
    exact none
  | cons v b ih =>
    obtain ⟨next, rest⟩ := List.isChain_cons_cons.mp chain
    refine ih rest (fun v hv => counted v (.tail _ hv)) (fun v hv => unopened v (.tail _ hv)) ?_
    exact (counted v (.head _)).unopened (next ▸ none) (unopened v (.head _))

/-- After an open that could not set up the hardware there is no reference until the next open. -/
lemma retries_of_counted {p : Profile} {ts : List (CallTree σ)}
    (chain : ts.IsChain fun t u => t.after = u.before) (counted : ∀ t ∈ ts, t.Counted s p) :
    Retries s p.lower ts := by
  rintro a t b u c rfl failed unopened opens
  obtain ⟨none, admitted⟩ := (counted t (by simp)).failed failed
  refine (counted u (by simp)).opened ?_ admitted opens
  exact count_eq_zero_of_isChain chain.right_of_append
    (fun v hv => counted v (by simp [hv])) unopened none

end CallTree

open CallTree

namespace Board

variable {B : Board σ} {depth : Nat} {w : World σ} {p : Profile}

/-- A program that stores at most certain counts leaves the session alone but for that, if the calls
do that have to do with neither the count nor the guard. -/
lemma kept_of_run_of_perform
    (calls : ∀ {c : Call} {w : World σ} {x : Outcome σ c.Answer},
      (Request.call c : Request σ).Stores s may → s < w.issued → B.perform depth c w = .ok x →
      w.Kept s may x.world)
    {p : Action σ α} (hp : p.Only (Request.Stores s may)) (created : s < w.issued) {x : Outcome σ α}
    (hx : B.run depth p w = .ok x) : w.Kept s may x.world :=
  run_of_only (R := fun v w => s < v.issued → v.Kept s may w) (fun _ hw => ⟨hw, .inl rfl, rfl⟩)
    (fun huv hvw hu => (huv hu).trans (hvw (huv hu).created))
    (fun a ha _ _ h hw => a.kept ha hw h) (fun _ hc _ _ h hw => calls hc hw h) hp hx created

/-- Where nothing on the board opens or closes a session, every call leaves its open count and the
permits of its guard alone, but for opens and closes of it and for waiting at its guard. -/
theorem kept_of_perform (board : B.Uses (Service.Elsewhere s)) {c : Call}
    (hc : (Request.call c : Request σ).Stores s may) (created : s < w.issued)
    {x : Outcome σ c.Answer} (hx : B.perform depth c w = .ok x) : w.Kept s may x.world := by
  induction depth generalizing c w with
  | zero => exact absurd hx perform_zero_ne
  | succ depth ih =>
    have unheard (driver : ∀ p, c ≠ .peer p) : (B.program c).Only (Request.Stores s may) :=
      (B.program_asks c).mono fun r asked => asked.stores driver hc
    have program : (B.program c).Only (Request.Stores s may) := by
      cases c with
      | service c => exact unheard nofun
      | routine c => exact unheard nofun
      | peer c =>
        exact Reaction.action_only_of_within (board c) (fun _ => trivial) fun c hc => ⟨hc.1, hc.2.1⟩
    obtain ⟨y, run, rfl⟩ := perform_succ_iff.mp hx
    have kept : w.Kept s may y.world :=
      kept_of_run_of_perform (fun hc created hx => ih hc created hx) program created run
    exact kept

/-- A program that stores at most certain counts leaves the session alone but for that. -/
lemma kept_of_run (board : B.Uses (Service.Elsewhere s)) {p : Action σ α}
    (hp : p.Only (Request.Stores s may)) (created : s < w.issued) {x : Outcome σ α}
    (hx : B.run depth p w = .ok x) : w.Kept s may x.world :=
  kept_of_run_of_perform (fun hc created hx => kept_of_perform board hc created hx) hp created hx

/-- A party that runs alone and finds a permit takes it. -/
lemma wait_free {g : SemaphoreId} {q : PlatformId} (free : (w.semaphore g).permits ≠ 0)
    {x : Outcome σ (Except DeviceError Unit)}
    (hx : B.perform depth (.routine (.wait g q)) w = .ok x) :
    x.result = .ok () ∧ x.world = w.taken g := by
  obtain ⟨d, inner, rfl, run, -⟩ := exists_of_perform hx
  obtain ⟨result, world, trees⟩ := x
  obtain ⟨y, z, tried, rest, whole⟩ := run_call_iff.mp run
  obtain ⟨-, ⟨taken, -, after⟩ | ⟨-, none, -⟩⟩ := tryWait_spec tried
  · rw [taken] at rest
    cases run_done_iff.mp rest
    cases whole
    exact ⟨rfl, after⟩
  · exact absurd none free

/-- What is done with the permit of the guard, and the permit then given back, leaves the guard as
it was. -/
lemma kept_of_posted {z : World σ} (kept : (w.taken (.guard s)).Kept s may z) :
    w.Kept s may (z.posted (.guard s)) where
  created := kept.created
  count := kept.count
  guard := by
    have back : (z.posted (.guard s)).semaphore (.guard s) =
        ((w.taken (.guard s)).posted (.guard s)).semaphore (.guard s) := by
      simp [World.posted, kept.guard]
    rw [back, World.posted_taken]

/-! ## Opens -/

lemma operateMasked_stores (o : Operation) (args : o.Args) :
    (Session.operateMasked s p o args : Action σ _).Only (Request.Stores s may) :=
  inCriticalSection_only trivial (Program.only_query trivial) fun _ => trivial

/-- The work of an open leaves the guard alone.  If it cannot set up the hardware, it finds and
leaves no reference, and where it finds none and may count one, it sets up the hardware. -/
lemma attemptHolding_effect (board : B.Uses (Service.Elsewhere s)) (created : s < w.issued)
    {x : Outcome σ Attempt} (hx : B.run depth (Session.attemptHolding s p) w = .ok x) :
    w.Kept s (fun _ => True) x.world ∧
      (x.result.error? ≠ none → x.world.count s = 0 ∧ p.config.maxOpens ≠ 0) ∧
      (w.count s = 0 → p.config.maxOpens ≠ 0 →
        ∃ t ∈ x.calls, t.call = .peer (.operate .driver p.lower s .setup ())) := by
  obtain ⟨e, y, refused, told, rfl⟩ | ⟨some, n, raised, rfl⟩
    | ⟨none, admitted, y, operated, outcome⟩ :=
    attemptHolding_spec hx
  · have kept : w.Kept s (fun _ => True) y.world :=
      kept_of_perform board (c := .peer (.log _)) trivial created told
    refine ⟨kept, nofun, fun none admitted => ?_⟩
    have full := (ReferenceCount.raised_eq_error_iff.mp refused).1
    rw [none] at full
    exact absurd (UInt8.toNat_inj.mp (Nat.le_zero.mp full)) admitted
  · exact ⟨⟨created, .inr trivial, rfl⟩, nofun, fun none => absurd none some⟩
  · have kept : w.Kept s (fun n => n = 0) y.world :=
      kept_of_run board (operateMasked_stores ..) created operated
    have still : y.world.count s = 0 := kept.count.elim (·.trans none) id
    obtain ⟨t, mem, ht⟩ := exists_operate_of_masked operated
    obtain ⟨-, rfl⟩ | ⟨e, z, -, told, rfl⟩ := outcome
    · exact ⟨⟨kept.created, .inr trivial, kept.guard⟩, nofun, fun _ _ => ⟨t, mem, ht⟩⟩
    · have kept' : y.world.Kept s (fun n => n = 0) z.world :=
        kept_of_perform board (c := .peer (.log _)) trivial kept.created told
      refine ⟨⟨kept'.created, .inr trivial, (kept.trans kept').guard⟩, fun _ => ⟨?_, admitted⟩,
        fun _ _ => ⟨t, List.mem_append_left _ mem, ht⟩⟩
      exact kept'.count.elim (·.trans still) id

/-- An open is the run of an attempt, with the report of the policy for an answer. -/
lemma exists_attempt {x : Outcome σ (Except DeviceError Unit)}
    (hx : B.perform depth (.service (.openDevice s)) w = .ok x) :
    s < w.issued ∧ ∃ d y, B.run d (Session.attempt s (w.profile s)) w = .ok y ∧
      x.result = y.result.report (w.profile s).config.setupFailure ∧ x.world = y.world ∧
      x.calls = [.node (.service (.openDevice s)) w x.result x.world y.calls] := by
  obtain ⟨d, inner, rfl, run, -⟩ := exists_of_perform hx
  have created : s < w.issued := (run_withPermit run).1
  rw [perform_openDevice created] at hx
  cases attempted : B.run d (Session.attempt s (w.profile s)) w with
  | error e =>
    rw [attempted] at hx
    cases hx
  | ok y =>
    rw [attempted] at hx
    cases hx
    exact ⟨created, d, y, attempted, rfl, rfl, rfl⟩

/-! ## Closes -/

lemma shutDown_stores (zero : may 0) :
    (Session.shutDown s p : Action σ _).Only (Request.Stores s may) := by
  refine Program.only_ask (fun _ => zero) fun _ => (operateMasked_stores ..).bind fun r => ?_
  cases r with
  | error e => exact Program.only_ask trivial fun _ => trivial
  | ok _ => trivial

lemma closeHolding_stores :
    (Session.closeHolding s p : Action σ _).Only (Request.Stores s fun _ => True) := by
  have rest : (Session.shutDown s p : Action σ _).Only (Request.Stores s fun _ => True) :=
    shutDown_stores trivial
  refine Program.only_ask trivial fun count => ?_
  split
  · exact Program.only_ask trivial fun _ => Program.only_ask (fun _ => trivial) fun _ => trivial
  · split
    · exact Program.only_ask trivial fun _ => rest
    · exact rest

/-- The work of a close leaves the guard alone, and leaves no reference if it finds none. -/
lemma closeHolding_effect (board : B.Uses (Service.Elsewhere s)) (created : s < w.issued)
    {x : Outcome σ (Except DeviceError Unit)}
    (hx : B.run depth (Session.closeHolding s p) w = .ok x) :
    w.Kept s (fun _ => True) x.world ∧ (w.count s = 0 → x.world.count s = 0) := by
  refine ⟨kept_of_run board closeHolding_stores created hx, fun none => ?_⟩
  have run := run_of_effect hx rfl
  have few : ¬ 1 < w.count s := by
    rw [none]
    decide
  simp only [Program.bind_done, if_neg few, if_pos none] at run
  have zero : ((Peer.log .spuriousClose).make >>= fun _ => Session.shutDown s p : Action σ _).Only
      (Request.Stores s fun n => n = 0) := Program.only_ask trivial fun _ => shutDown_stores rfl
  have kept : w.Kept s (fun n => n = 0) x.world := kept_of_run board zero created run
  exact kept.count.elim (·.trans none) id

/-! ## Calls one after the other -/

/-- What an open does to the open count of a session whose guard is free. -/
lemma counted_of_openDevice (board : B.Uses (Service.Elsewhere s)) (created : s < w.issued)
    (free : (w.semaphore (.guard s)).permits ≠ 0) {x : Outcome σ (Except DeviceError Unit)}
    (hx : B.perform depth (.service (.openDevice s)) w = .ok x) :
    ∃ t, x.calls = [t] ∧ t.call = .service (.openDevice s) ∧ t.before = w ∧ t.after = x.world ∧
      t.Counted s (w.profile s) := by
  obtain ⟨-, d, y, attempted, -, after, calls⟩ := exists_attempt hx
  refine ⟨_, calls, rfl, rfl, rfl, ?_⟩
  have shown := setupError?_attempt attempted
  obtain ⟨u, waited, ⟨e, refused, -⟩ | ⟨-, z, worked, rfl⟩⟩ := attempt_spec attempted
  · rw [(wait_free free waited).1] at refused
    cases refused
  rw [(wait_free free waited).2] at worked
  obtain ⟨kept, failed, sets⟩ :=
    attemptHolding_effect board (w := w.taken (.guard s)) created worked
  constructor
  · rfl
  · rw [after]
    exact kept_of_posted kept
  · intro failure
    rw [after]
    refine failed fun none => failure ?_
    simp [setupFailure?, shown, none]
  · exact fun _ unopened => absurd rfl unopened
  · intro none admitted _
    obtain ⟨t, mem, ht⟩ := sets none admitted
    exact ⟨t, List.mem_append_right _ mem, ht⟩

/-- What a close does to the open count of a session whose guard is free. -/
lemma closeDevice_effect (board : B.Uses (Service.Elsewhere s)) (created : s < w.issued)
    (free : (w.semaphore (.guard s)).permits ≠ 0) {x : Outcome σ (Except DeviceError Unit)}
    (hx : B.perform depth (.service (.closeDevice s)) w = .ok x) :
    w.Kept s (fun _ => True) x.world ∧ (w.count s = 0 → x.world.count s = 0) := by
  obtain ⟨d, inner, rfl, run, -⟩ := exists_of_perform hx
  obtain ⟨-, y, waited, ⟨e, refused, -⟩ | ⟨-, z, worked, same⟩⟩ := run_withPermit run
  · rw [(wait_free free waited).1] at refused
    cases refused
  rw [(wait_free free waited).2] at worked
  obtain ⟨kept, empty⟩ := closeHolding_effect board (w := w.taken (.guard s)) created worked
  have after : x.world = z.world.posted (.guard s) := congrArg Outcome.world same
  rw [after]
  exact ⟨kept_of_posted kept, empty⟩

/-- What a service does to the open count of a session whose guard is free. -/
theorem counted_of_perform (board : B.Uses (Service.Elsewhere s)) (created : s < w.issued)
    (free : (w.semaphore (.guard s)).permits ≠ 0) {c : Service} {x : Outcome σ c.Answer}
    (hx : B.perform depth (.service c) w = .ok x) :
    ∃ t, x.calls = [t] ∧ t.call = .service c ∧ t.before = w ∧ t.after = x.world ∧
      t.Counted s (w.profile s) := by
  by_cases opens : c = .openDevice s
  · subst opens
    exact counted_of_openDevice board created free hx
  have notOpen : Call.service c ≠ .service (.openDevice s) := fun same =>
    opens (Call.service.inj same)
  have effect : w.Kept s (fun _ => True) x.world ∧ (w.count s = 0 → x.world.count s = 0) := by
    by_cases closes : c = .closeDevice s
    · subst closes
      exact closeDevice_effect board created free hx
    · have kept (may : UInt8 → Prop) : w.Kept s may x.world :=
        kept_of_perform board (c := .service c) ⟨opens, closes⟩ created hx
      exact ⟨kept _, fun none => (kept fun n => n = 0).count.elim (·.trans none) id⟩
  obtain ⟨d, inner, rfl, -, calls⟩ := exists_of_perform hx
  have sound : setupFailure? s (.node (.service c) w x.result x.world inner) = none :=
    setupFailure?_eq_none notOpen
  refine ⟨_, calls, rfl, rfl, rfl, ?_⟩
  exact ⟨rfl, effect.1, fun failure => absurd sound failure, fun none _ => effect.2 none,
    fun _ _ same => absurd same notOpen⟩

/-- Services that are used one after the other have one call each, one begins where the other ended,
and each does to the open count of a session with a free guard what one does alone. -/
theorem counted_of_inTurn (board : B.Uses (Service.Elsewhere s)) (created : s < w.issued)
    (free : (w.semaphore (.guard s)).permits ≠ 0) {cs : List Service} {x : Outcome σ Unit}
    (hx : B.run depth (Service.inTurn cs).action w = .ok x) :
    x.calls.map CallTree.call = cs.map Call.service ∧
      (x.calls.IsChain fun t u => t.after = u.before) ∧ (∀ t ∈ x.calls.head?, t.before = w) ∧
      ∀ t ∈ x.calls, t.Counted s (w.profile s) := by
  induction cs generalizing w x with
  | nil =>
    cases run_done_iff.mp hx
    simp
  | cons c cs ih =>
    obtain ⟨y, z, called, rest, rfl⟩ := run_inTurn_cons_iff.mp hx
    obtain ⟨t, calls, ht, before, after, counted⟩ := counted_of_perform board created free called
    have kept := counted.kept
    rw [before, after] at kept
    obtain ⟨same, chain, first, all⟩ := ih kept.created (kept.guard ▸ free) rest
    rw [(issued_le_of_perform called).2 s created] at all
    rw [calls]
    refine ⟨by simp [ht, same], ?_, by simpa using before, ?_⟩
    · refine List.isChain_cons.mpr ⟨fun u hu => ?_, chain⟩
      exact after.trans (first u hu).symm
    · intro u hu
      rcases List.mem_cons.mp hu with rfl | hu
      · exact counted
      · exact all u hu

/-- An open that could not set up the hardware leaves no reference, and the next open sets it up
again. -/
theorem retries_of_inTurn (board : B.Uses (Service.Elsewhere s)) (created : s < w.issued)
    (free : (w.semaphore (.guard s)).permits ≠ 0) {cs : List Service} {x : Outcome σ Unit}
    (hx : B.run depth (Service.inTurn cs).action w = .ok x) :
    (∀ t ∈ x.calls, t.setupFailure? s ≠ none → t.after.count s = 0) ∧
      Retries s (w.profile s).lower x.calls := by
  obtain ⟨-, chain, -, counted⟩ := counted_of_inTurn board created free hx
  exact ⟨fun t ht failed => ((counted t ht).failed failed).1, retries_of_counted chain counted⟩

end Board

end LedDriver
