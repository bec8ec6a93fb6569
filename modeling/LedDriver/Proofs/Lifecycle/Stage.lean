import LedDriver.Proofs.System.Turns

/-!
# Stages of an open or a close

The open count of a session and its hardware are changed only by a program that has the permit of
the session's guard.  The `Stage` of a program tells how far it is with that, and its `Standing`
also what it has done to the open count.  A standing is a function of the deeds of a program
(`Standing.of`), and `Standing.Allows` lists what a program may ask for in a standing.

Every program of the driver keeps to this list and passes its permit on as its answer says
(`Board.program_keeps`).  Hence so does every program in progress (`Board.Continues.allowed`).
-/

namespace LedDriver

variable {σ α β : Type}

@[simp] lemma isOk_ok {ε : Type} (a : α) : (Except.ok a : Except ε α).isOk = true := rfl

@[simp] lemma isOk_error {ε : Type} (e : ε) : (Except.error e : Except ε α).isOk = false := rfl

/-- How far a program is with the work that needs the permit of a guard. -/
inductive Stage where
  /-- It has no permit. -/
  | away
  /-- It has the permit. -/
  | entered
  /-- It has read the open count. -/
  | found (count : UInt8)
  /-- It has set up the hardware for the first reference, which is not counted yet. -/
  | ready
  /-- It has cleared the open count, and is to put the hardware to rest. -/
  | cleared
  /-- It has nothing left to do but to give the permit back. -/
  | settled
  /-- It has read two different counts with the same permit. -/
  | astray
deriving DecidableEq

/-- What a program knows of a session, how far it is, the sum of its changes to the open count, and
how often it took the count from one to zero. -/
structure Standing where
  profile : Option Profile
  stage : Stage
  gain : Int
  ended : Int

namespace Standing

/-- The standing of a program that has done nothing. -/
def initial : Standing := ⟨none, .away, 0, 0⟩

/-- The standing with the permit, if there was none. -/
def enter (t : Standing) : Standing := if t.stage = .away then { t with stage := .entered } else t

/-- The standing without the permit. -/
def leave (t : Standing) : Standing := if t.stage = .astray then t else { t with stage := .away }

/-- The standing after a look at the open count. -/
def look (t : Standing) (n : UInt8) : Standing :=
  match t.stage with
  | .entered => { t with stage := .found n }
  | .found m => if n = m then t else { t with stage := .astray }
  | .away | .ready | .cleared | .settled | .astray => t

/-- The standing after an open count was stored. -/
def store (t : Standing) (v : UInt8) : Standing :=
  match t.stage with
  | .found n =>
    if v = 0 then
      { t with stage := .cleared, gain := t.gain - n.toNat, ended := t.ended + n.toNat }
    else { t with stage := .settled, gain := t.gain + (v.toNat - n.toNat) }
  | .ready => { t with stage := .settled, gain := t.gain + 1 }
  | .away | .entered | .cleared | .settled | .astray => t

/-- The standing after an attempt to set up the hardware. -/
def setUp (t : Standing) (r : Except DeviceError Unit) : Standing :=
  match t.stage, r with
  | .found _, .ok () => { t with stage := .ready }
  | .found _, .error _ => { t with stage := .settled }
  | .away, _ | .entered, _ | .ready, _ | .cleared, _ | .settled, _ | .astray, _ => t

/-- The standing after the hardware was put to rest. -/
def rest (t : Standing) : Standing :=
  if t.stage = .cleared then { t with stage := .settled } else t

/-- The standing with regard to a session after an answer was received. -/
def receive (s : SessionId) (t : Standing) : (c : Call) → c.Answer → Standing
  | .routine (.wait g _), r => if g = .guard s ∧ r.isOk then t.enter else t
  | .routine (.tryWait g), taken => if g = .guard s ∧ taken then t.enter else t
  | .routine (.claim g _), taken => if g = .guard s ∧ taken then t.enter else t
  | .peer (.operate .driver _ u .setup _), r => if u = s then t.setUp r else t
  | .peer (.operate .driver _ u .shutdown _), _ => if u = s then t.rest else t
  | _, _ => t

/-- The standing with regard to a session after one more deed. -/
def next (s : SessionId) (t : Standing) : Deed σ → Standing
  | .acted (.profile u) p => if u = s then { t with profile := some p } else t
  | .acted (.exchange g _) r => if g = .guard s ∧ r.isOk then t.enter else t
  | .acted (.post g) _ => if g = .guard s then t.leave else t
  | .acted (.count u) n => if u = s then t.look n else t
  | .acted (.setCount u v) _ => if u = s then t.store v else t
  | .received c x => t.receive s c x
  | _ => t

/-- A program that went astray stays astray. -/
lemma next_astray {s : SessionId} (t : Standing) (ht : t.stage = .astray) (d : Deed σ) :
    (t.next s d).stage = .astray := by
  unfold next
  split <;> try exact ht
  case h_6 =>
    unfold receive
    split <;> try exact ht
    all_goals
      split
      · simp [enter, setUp, rest, ht]
      · exact ht
  all_goals
    split
    · simp [enter, leave, look, store, ht]
    · exact ht

/-- Taking the permit changes nothing about the open count. -/
lemma enter_same (t : Standing) : t.enter.gain = t.gain ∧ t.enter.ended = t.ended := by
  unfold enter
  split <;> exact ⟨rfl, rfl⟩

/-- Giving the permit back changes nothing about the open count. -/
lemma leave_same (t : Standing) : t.leave.gain = t.gain ∧ t.leave.ended = t.ended := by
  unfold leave
  split <;> exact ⟨rfl, rfl⟩

/-- A look at the open count changes nothing about it. -/
lemma look_same (t : Standing) (n : UInt8) :
    (t.look n).gain = t.gain ∧ (t.look n).ended = t.ended := by
  unfold look
  split <;> try exact ⟨rfl, rfl⟩
  split <;> exact ⟨rfl, rfl⟩

/-- Setting up the hardware changes nothing about the open count. -/
lemma setUp_same (t : Standing) (r : Except DeviceError Unit) :
    (t.setUp r).gain = t.gain ∧ (t.setUp r).ended = t.ended := by
  unfold setUp
  split <;> exact ⟨rfl, rfl⟩

/-- Putting the hardware to rest changes nothing about the open count. -/
lemma rest_same (t : Standing) : t.rest.gain = t.gain ∧ t.rest.ended = t.ended := by
  unfold rest
  split <;> exact ⟨rfl, rfl⟩

/-- An answer changes nothing about the open count. -/
lemma receive_same (s : SessionId) (t : Standing) (c : Call) (x : c.Answer) :
    (t.receive s c x).gain = t.gain ∧ (t.receive s c x).ended = t.ended := by
  unfold receive
  split <;> try exact ⟨rfl, rfl⟩
  all_goals
    split
    · simp [enter_same, setUp_same, rest_same]
    · exact ⟨rfl, rfl⟩

/-- The standing of a program with regard to a session, by its deeds. -/
def of (s : SessionId) (d : List (Deed σ)) : Standing := d.foldl (next s) initial

@[simp] lemma of_nil (s : SessionId) : of s ([] : List (Deed σ)) = initial := rfl

@[simp] lemma of_snoc (s : SessionId) (d : List (Deed σ)) (x : Deed σ) :
    of s (d ++ [x]) = (of s d).next s x := by
  simp [of]

/-- An open count that may be stored: one more than was found, if that is admitted, or one less, or
none.  The first reference is counted only after the hardware was set up. -/
def Admits (t : Standing) (v : UInt8) : Prop :=
  (∃ n p, t.stage = .found n ∧ t.profile = some p ∧ 0 < n.toNat ∧ v.toNat = n.toNat + 1 ∧
      v.toNat ≤ p.config.maxOpens.toNat) ∨
    (∃ p, t.stage = .ready ∧ t.profile = some p ∧ v = 1 ∧ 1 ≤ p.config.maxOpens.toNat) ∨
    (∃ n, t.stage = .found n ∧ 1 < n.toNat ∧ v.toNat + 1 = n.toNat) ∨
    ∃ n, t.stage = .found n ∧ n.toNat ≤ 1 ∧ v = 0

/-- What a program may ask for. -/
def Allows (s : SessionId) (t : Standing) : Request σ → Prop
  | .atom (.exchange g seen) => g = .guard s → t.stage = .away ∧ seen ≠ 0
  | .atom (.post g) => g = .guard s → t.stage = .settled ∨ ∃ n, t.stage = .found n
  | .atom (.setCount u v) => u = s → t.Admits v
  | .call (.routine (.wait g _)) | .call (.routine (.tryWait g))
  | .call (.routine (.claim g _)) => g = .guard s → t.stage = .away
  | .call (.peer (.operate .driver _ u .setup _)) => u = s → t.stage = .found 0
  | .call (.peer (.operate .driver _ u .shutdown _)) => u = s → t.stage = .cleared
  | _ => True

end Standing

/-- A question with its answer, as a deed. -/
def Request.deed : (q : Request σ) → (Request.interface σ).Answer q → Deed σ
  | .atom a, x => .acted a x
  | .call c, x => .received c x

/-- Begun in a standing, a program asks only for what it may ask for, and the standing in which it
is done has a property, unless it goes astray. -/
def Program.Keeps (s : SessionId) (post : α → Standing → Prop) : Action σ α → Standing → Prop
  | .done a, t => t.stage ≠ .astray → post a t
  | .ask q next, t =>
    t.stage ≠ .astray → t.Allows s q ∧ ∀ x, (next x).Keeps s post (t.next s (q.deed x))

namespace Program.Keeps

variable {s : SessionId} {post : α → Standing → Prop} {t : Standing} {p q : Action σ α}

lemma done {a : α} (h : post a t) : (Program.done a : Action σ α).Keeps s post t := fun _ => h

lemma ask {r : Request σ} {next : (Request.interface σ).Answer r → Action σ α}
    (allowed : t.Allows s r) (h : ∀ x, (next x).Keeps s post (t.next s (r.deed x))) :
    (Program.ask r next).Keeps s post t := fun _ => ⟨allowed, h⟩

lemma of_astray (ht : t.stage = .astray) : p.Keeps s post t := by
  cases p <;> exact fun h => absurd ht h

/-- What is left of such a program is such a program. -/
lemma of_follows {d : List (Deed σ)} (h : Follows p d q) (hp : p.Keeps s post t) :
    q.Keeps s post (d.foldl (Standing.next s) t) := by
  have step {r : Request σ} {next : (Request.interface σ).Answer r → Action σ α} {t : Standing} {x}
      (hp : (Program.ask r next).Keeps s post t) :
      (next x).Keeps s post (t.next s (r.deed x)) := by
    by_cases ht : t.stage = .astray
    · exact of_astray (t.next_astray ht _)
    · exact (hp ht).2 x
  induction h generalizing t with
  | nil => exact hp
  | acted _ ih => exact ih (step hp)
  | received _ ih => exact ih (step hp)

lemma mono {post' : α → Standing → Prop} (hp : p.Keeps s post t)
    (h : ∀ a t, post a t → post' a t) : p.Keeps s post' t := by
  induction p generalizing t with
  | done a => exact fun ht => h a t (hp ht)
  | ask q next ih => exact fun ht => ⟨(hp ht).1, fun x => ih x ((hp ht).2 x)⟩

lemma bind {post' : β → Standing → Prop} {f : α → Action σ β} (hp : p.Keeps s post t)
    (hf : ∀ a t, post a t → (f a).Keeps s post' t) : (p.bind f).Keeps s post' t := by
  induction p generalizing t with
  | done a =>
    by_cases ht : t.stage = .astray
    · exact of_astray ht
    · exact hf a t (hp ht)
  | ask q next ih => exact fun ht => ⟨(hp ht).1, fun x => ih x ((hp ht).2 x)⟩

end Program.Keeps

/-! ## Questions that have nothing to do with the guard of a session -/

/-- Two standings differ at most in what is known of the session. -/
def Standing.Same (t t' : Standing) : Prop :=
  t'.stage = t.stage ∧ t'.gain = t.gain ∧ t'.ended = t.ended

/-- An atom that has nothing to do with the guard and the open count of a session changes no
stage. -/
lemma Standing.next_acted {s : SessionId} {a : Atom σ} (t : Standing) (x : a.Answer)
    (he : ∀ seen, a ≠ .exchange (.guard s) seen) (hp : a ≠ .post (.guard s)) (hc : a ≠ .count s)
    (hs : ∀ v, a ≠ .setCount s v) : t.Same (t.next s (.acted a x)) := by
  cases a <;> try exact ⟨rfl, rfl, rfl⟩
  all_goals
    simp only [Standing.next]
    split <;> try exact ⟨rfl, rfl, rfl⟩
  all_goals
    simp_all

/-- A question that may be asked without the permit and whose answer changes no stage. -/
def Request.Harmless (s : SessionId) (q : Request σ) : Prop :=
  ∀ t : Standing, t.stage = .away → t.Allows s q ∧ ∀ x, t.Same (t.next s (q.deed x))

lemma Program.Keeps.of_only {s : SessionId} {p : Action σ α} {t : Standing}
    (h : p.Only (Request.Harmless s)) (ht : t.stage = .away) :
    p.Keeps s (fun _ t' => t.Same t') t := by
  induction p generalizing t with
  | done a => exact .done ⟨rfl, rfl, rfl⟩
  | ask q next ih =>
    obtain ⟨allowed, same⟩ := h.1 t ht
    refine .ask allowed fun x => (ih x (h.2 x) ((same x).1.trans ht)).mono fun a t' ht' => ?_
    obtain ⟨hs, hg, he⟩ := same x
    exact ⟨ht'.1.trans hs, ht'.2.1.trans hg, ht'.2.2.trans he⟩

/-- The calls whose programs have to do with the guard of a session. -/
def Call.Guarded (s : SessionId) : Call → Prop
  | .service (.openDevice u) | .service (.closeDevice u) => u = s
  | .routine (.wait g _) | .routine (.tryWait g) | .routine (.claim g _) => g = .guard s
  | _ => False

/-- All other calls ask harmless questions only. -/
lemma Call.Asks.harmless {s : SessionId} {c : Call} {q : Request σ} (h : c.Asks q)
    (hc : ¬ c.Guarded s) : q.Harmless s := by
  intro t ht
  cases h
  case command_operate u c h =>
    cases c <;> simp [Standing.Allows, Standing.next, Standing.receive, Request.deed, Standing.Same]
  case open_profile | close_profile | command_profile | operate_profile | provided_profile
      | config_profile =>
    refine ⟨trivial, fun x => ?_⟩
    simp only [Request.deed, Standing.next]
    split <;> exact ⟨rfl, rfl, rfl⟩
  all_goals
    simp_all [Call.Guarded, Standing.Allows, Standing.next, Standing.receive, Request.deed,
      Standing.Same, Standing.look]

/-! ## The programs one by one -/

/-- The calls whose programs can change an open count. -/
def Call.Counts (s : SessionId) (c : Call) : Prop :=
  c = .service (.openDevice s) ∨ c = .service (.closeDevice s)

/-- A call passes the permit on as its answer says, and only an open or a close changes the open
count. -/
def Call.Passes (s : SessionId) (c : Call) (x : c.Answer) (t : Standing) : Prop :=
  t.stage = (Standing.initial.receive s c x).stage ∧
    (¬ c.Counts s → t.gain = 0 ∧ t.ended = 0)

lemma Call.Passes.of_eq {s : SessionId} {c : Call} {x : c.Answer} {t : Standing}
    (h : t = Standing.initial.receive s c x) : c.Passes s x t := by
  subst h
  exact ⟨rfl, fun _ => Standing.receive_same s _ c x⟩

namespace Semaphore

variable {s : SessionId}

lemma claim_keeps (seen : UInt32) :
    (claim (.guard s) seen : Action σ Bool).Keeps s
      (Call.Passes s (.routine (.claim (.guard s) seen))) Standing.initial := by
  unfold claim
  split
  · exact .done (.of_eq (by simp [Standing.receive]))
  · next h =>
    refine .ask (fun _ => ⟨rfl, h⟩) fun x => ?_
    cases x with
    | error present =>
      have same : Standing.initial.next s (.acted (.exchange (.guard s) seen) (.error present) :
          Deed σ) = Standing.initial := by simp [Standing.next]
      rw [Request.deed, same]
      exact .ask (fun _ => rfl) fun _ => .done (.of_eq rfl)
    | ok _ =>
      exact .done (.of_eq (by simp [Request.deed, Standing.next, Standing.receive]))

lemma tryWait_keeps :
    (tryWait (.guard s) : Action σ Bool).Keeps s
      (Call.Passes s (.routine (.tryWait (.guard s)))) Standing.initial :=
  .ask trivial fun _ => .ask (fun _ => rfl) fun _ => .done (.of_eq rfl)

lemma wait_keeps (p : PlatformId) :
    (wait (.guard s) p : Action σ _).Keeps s
      (Call.Passes s (.routine (.wait (.guard s) p))) Standing.initial := by
  refine .ask (fun _ => rfl) fun taken => ?_
  cases taken with
  | true => exact .done (.of_eq (by simp [Request.deed, Standing.next, Standing.receive]))
  | false =>
    have same : Standing.initial.next s (.received (.routine (.tryWait (.guard s))) false :
        Deed σ) = Standing.initial := by simp [Standing.next, Standing.receive]
    rw [Request.deed, same]
    refine .ask trivial fun x => ?_
    cases x with
    | error e =>
      exact .done (.of_eq (by simp [Request.deed, Standing.next, Standing.receive]))
    | ok _ => exact .ask trivial fun _ => .ask (fun _ => rfl) fun _ => .done (.of_eq rfl)

/-- A body that begins with the permit and ends where the permit may be given back. -/
lemma withPermit_keeps {p : PlatformId} {body : Action σ (Except DeviceError Unit)} {t : Standing}
    (ht : t.stage = .away)
    (hb : body.Keeps s (fun _ t' => t'.stage = .settled ∨ ∃ n, t'.stage = .found n) t.enter) :
    (withPermit (.guard s) p body).Keeps s (fun _ t' => t'.stage = .away) t := by
  refine .ask (fun _ => ht) fun r => ?_
  cases r with
  | error e =>
    have same : t.next s (.received (.routine (.wait (.guard s) p)) (.error e) : Deed σ) = t := by
      simp [Standing.next, Standing.receive]
    rw [Request.deed, same]
    exact .done ht
  | ok _ =>
    have entered : t.next s (.received (.routine (.wait (.guard s) p)) (.ok ()) : Deed σ) =
        t.enter := by
      simp [Standing.next, Standing.receive]
    rw [Request.deed, entered]
    refine hb.bind fun _ t' ht' => .ask (fun _ => ht') fun _ => .done ?_
    rcases ht' with ht' | ⟨n, ht'⟩ <;> simp [Request.deed, Standing.next, Standing.leave, ht']

end Semaphore

namespace Session

variable {s : SessionId} {p : Profile} {t : Standing}

lemma operateMasked_keeps {o : Operation} {args : o.Args}
    (allowed : t.Allows s (.call (.peer (.operate .driver p.lower s o args)) : Request σ)) :
    (operateMasked s p o args : Action σ _).Keeps s (fun r t' =>
      t' = t.next s (.received (.peer (.operate .driver p.lower s o args)) r : Deed σ)) t :=
  .ask trivial fun _ => .ask allowed fun _ => .ask trivial fun _ => .done rfl

/-- The work of an open ends settled, or with the count that it found. -/
lemma openHolding_keeps (ht : t.stage = .entered) (hp : t.profile = some p) :
    (openHolding s p : Action σ _).Keeps s
      (fun _ t' => t'.stage = .settled ∨ ∃ n, t'.stage = .found n) t := by
  refine .ask trivial fun n => ?_
  have found : t.next s (.acted (.count s) n : Deed σ) = { t with stage := .found n } := by
    simp [Standing.next, Standing.look, ht]
  rw [Request.deed, found]
  simp only [Program.bind_done]
  split
  · exact .ask trivial fun _ => .done (.inr ⟨n, rfl⟩)
  · next v hv =>
    obtain ⟨raised, bound⟩ := ReferenceCount.raised_eq_ok_iff.mp hv
    obtain ⟨nonzero, only⟩ := ReferenceCount.raised_eq_one_iff hv
    simp only at raised bound only
    split
    · next first =>
      obtain rfl := only.mp first
      subst first
      refine (operateMasked_keeps (o := .setup) (p := p) fun _ => rfl).bind fun r t' ht' => ?_
      subst ht'
      cases r with
      | error e =>
        refine .ask trivial fun _ => .done (.inl ?_)
        simp [Request.deed, Standing.next, Standing.receive, Standing.setUp]
      | ok _ =>
        refine .ask (fun _ => .inr (.inl ⟨p, ?_, ?_, rfl, bound⟩)) fun _ => .done (.inl ?_)
        · simp [Standing.next, Standing.receive, Standing.setUp]
        · simp [Standing.next, Standing.receive, Standing.setUp, hp]
        · simp [Request.deed, Standing.next, Standing.receive, Standing.setUp, Standing.store]
    · next later =>
      have pos : 0 < n.toNat :=
        Nat.pos_of_ne_zero fun none => later (only.mpr (UInt8.toNat_inj.mp none))
      refine .ask (fun _ => .inl ⟨n, p, rfl, hp, pos, raised, bound⟩) fun _ => .done (.inl ?_)
      simp [Request.deed, Standing.next, Standing.store, nonzero]

lemma openDevice_keeps : (openDevice s : Action σ _).Keeps s
    (Call.Passes s (.service (.openDevice s))) Standing.initial := by
  refine .ask trivial fun p => ?_
  have known : Standing.initial.next s (.acted (.profile s) p : Deed σ) =
      { Standing.initial with profile := some p } := by
    simp [Standing.next]
  rw [Request.deed, known]
  refine (Semaphore.withPermit_keeps rfl (openHolding_keeps rfl rfl)).mono fun _ t' ht' => ?_
  exact ⟨ht', fun h => absurd (.inl rfl) h⟩

/-- Putting the hardware to rest ends settled. -/
lemma shutDown_keeps {n : UInt8} (ht : t.stage = .found n) (hn : n.toNat ≤ 1) :
    (shutDown s p : Action σ _).Keeps s (fun _ t' => t'.stage = .settled) t := by
  refine .ask (fun _ => .inr (.inr (.inr ⟨n, ht, hn, rfl⟩))) fun _ => ?_
  generalize hc : t.next s ((Request.atom (.setCount s 0)).deed () : Deed σ) = c
  have cleared : c.stage = .cleared := by
    rw [← hc]
    simp [Request.deed, Standing.next, Standing.store, ht]
  refine (operateMasked_keeps (o := .shutdown) (p := p) fun _ => cleared).bind fun r t' ht' => ?_
  have settled : t'.stage = .settled := by
    rw [ht']
    simp [Standing.next, Standing.receive, Standing.rest, cleared]
  cases r with
  | error e => exact .ask trivial fun _ => .done settled
  | ok _ => exact .done settled

/-- The work of a close ends settled. -/
lemma closeHolding_keeps (ht : t.stage = .entered) :
    (closeHolding s p : Action σ _).Keeps s (fun _ t' => t'.stage = .settled) t := by
  refine .ask trivial fun n => ?_
  have found : t.next s (.acted (.count s) n : Deed σ) = { t with stage := .found n } := by
    simp [Standing.next, Standing.look, ht]
  rw [Request.deed, found]
  simp only [Program.bind_done]
  split
  · next many =>
    have many : 1 < n.toNat := by simpa using UInt8.lt_iff_toNat_lt.mp many
    -- The count is read once more, and this is the value that is lowered.
    refine .ask trivial fun m => ?_
    by_cases again : m = n
    · subst again
      have same : Standing.next s { t with stage := .found m } (.acted (.count s) m : Deed σ) =
          { t with stage := .found m } := by
        simp [Standing.next, Standing.look]
      have lowered := ReferenceCount.toNat_lowered ⟨m, p.config.maxOpens⟩
      have nonzero : (ReferenceCount.mk m p.config.maxOpens).lowered ≠ 0 :=
        ReferenceCount.lowered_ne_zero many
      rw [Request.deed, same]
      refine .ask (fun _ => .inr (.inr (.inl ⟨m, rfl, many, ?_⟩))) fun _ => .done ?_
      · simp only at lowered
        omega
      · simp [Request.deed, Standing.next, Standing.store, nonzero]
    · exact .of_astray (by simp [Request.deed, Standing.next, Standing.look, again])
  · next few =>
    have small : n.toNat ≤ 1 := by
      have := mt UInt8.lt_iff_toNat_lt.mpr few
      simp at this
      omega
    split
    · exact .ask trivial fun _ => shutDown_keeps rfl small
    · exact shutDown_keeps rfl small

lemma closeDevice_keeps : (closeDevice s : Action σ _).Keeps s
    (Call.Passes s (.service (.closeDevice s))) Standing.initial := by
  refine .ask trivial fun p => ?_
  have known : Standing.initial.next s (.acted (.profile s) p : Deed σ) =
      { Standing.initial with profile := some p } := by
    simp [Standing.next]
  rw [Request.deed, known]
  refine (Semaphore.withPermit_keeps rfl ?_).mono fun _ t' ht' =>
    ⟨ht', fun h => absurd (.inr rfl) h⟩
  exact (closeHolding_keeps rfl).mono fun _ _ => .inl

end Session

/-- The answer of a call that has nothing to do with the guard hands no permit over. -/
lemma Call.receive_of_not_guarded {s : SessionId} {c : Call} (hc : ¬ c.Guarded s)
    (x : c.Answer) : (Standing.initial.receive s c x).stage = .away := by
  unfold Standing.receive
  split
  case h_1 | h_2 | h_3 =>
    rw [if_neg fun h => hc h.1]
    rfl
  case h_6 => rfl
  all_goals
    split <;> rfl

/-- Every program of the driver keeps to what a standing allows, and passes the permit on as its
answer says. -/
theorem Board.program_keeps (B : Board σ) (s : SessionId) (c : Call) :
    (B.program c).Keeps s (c.Passes s) Standing.initial := by
  by_cases hc : c.Guarded s
  · cases c with
    | service c =>
      cases c <;> try exact hc.elim
      all_goals
        obtain rfl : _ = s := hc
      · exact Session.openDevice_keeps
      · exact Session.closeDevice_keeps
    | routine c =>
      cases c <;> obtain rfl : _ = SemaphoreId.guard s := hc
      · exact Semaphore.tryWait_keeps
      · exact Semaphore.claim_keeps _
      · exact Semaphore.wait_keeps _
    | peer c => exact hc.elim
  · have harmless := (B.program_asks c).mono fun q hq => hq.harmless hc
    refine (Program.Keeps.of_only harmless rfl).mono fun x t' ht' => ?_
    exact ⟨ht'.1.trans (Call.receive_of_not_guarded hc x).symm, fun _ => ht'.2⟩

/-- A program in progress that did not go astray may ask for what it asks for. -/
theorem Board.Continues.allowed {B : Board σ} {o : Option Call} {d : List (Deed σ)} {q : Request σ}
    {s : SessionId} (h : B.Continues o d q) (hd : (Standing.of s d).stage ≠ .astray) :
    (Standing.of s d).Allows s q := by
  cases o with
  | none => cases h <;> trivial
  | some c =>
    obtain ⟨next, h⟩ := h
    exact ((B.program_keeps s c).of_follows h hd).1

/-- A call that ended passes the permit on as its answer says, unless it went astray. -/
theorem Board.passes_of_complete (B : Board σ) {c : Call} {d : List (Deed σ)} {x : c.Answer}
    {s : SessionId} (h : Follows (B.program c) d (.done x))
    (hd : (Standing.of s d).stage ≠ .astray) : c.Passes s x (Standing.of s d) :=
  (B.program_keeps s c).of_follows h hd

end LedDriver
