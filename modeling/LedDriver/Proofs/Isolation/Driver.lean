import LedDriver.Proofs.Isolation.Likeness

/-!
# The driver under any numbers

The driver's own programs do not look at the numbers of sessions.  Program by program: calls that do
the same for a device have programs that do the same for it, if what is around the driver keeps the
devices apart (`Fleet.Apart.program`).
-/

namespace LedDriver

variable {ι σ τ : Type}

namespace Fleet.ProgramAlike

variable {F : Fleet ι σ τ} {d : ι} {ρ : Links} {s s' : SessionId}

/-- A line of the journal. -/
lemma log (n : Notice) :
    F.ProgramAlike d (fun _ => Eq) ρ (Peer.log n).make (Peer.log n).make :=
  .call (.peer trivial) fun _ related => .done related

lemma under_lock {a a' : Atom σ} {S : Links → a.Answer → a'.Answer → Prop} (l l' : LockId)
    (h : AtomAlike F d ρ a a' S) (under : l.Protects a) (under' : l'.Protects a') :
    F.ProgramAlike d S ρ (LedDriver.locked l a) (LedDriver.locked l' a') :=
  .locked h under under' fun _ related => .done related

/-- The use of a control block. -/
lemma control (h : ρ s s') (m : ControlMethod) :
    F.ProgramAlike d (fun _ => Eq) ρ (Session.control s m) (Session.control s' m) :=
  under_lock (.control s) (.control s') (.control h m) rfl rfl

/-! ## Opens and closes -/

lemma withPermit (h : ρ s s') {p : PlatformId} (own : ∃ k, p = F.platform d k)
    {body body' : Action σ (Except DeviceError Unit)}
    (work : ∀ {ρ'}, ρ ≤ ρ' → F.ProgramAlike d (fun _ => Eq) ρ' body body') :
    F.ProgramAlike d (fun _ => Eq) ρ (Semaphore.withPermit (.guard s) p body)
      (Semaphore.withPermit (.guard s') p body') := by
  refine .call (.wait h own) fun {ρ₁ x _} grows same => ?_
  obtain rfl := same
  cases x with
  | error e => exact .done rfl
  | ok _ =>
    refine (work grows).bind fun {ρ₂ r _} grows' same => ?_
    exact .atom (.post (grows' _ _ (grows _ _ h))) fun _ _ => .done same

lemma operateMasked (h : ρ s s') {p : Profile} (own : F.Owns d p) (o : Operation) (args : o.Args) :
    F.ProgramAlike d (fun _ => Eq) ρ (Session.operateMasked s p o args)
      (Session.operateMasked s' p o args) := by
  refine .call (.peer own.2) fun {ρ₁ saved _} grows same => ?_
  obtain rfl := same
  refine .call (.lower (grows _ _ h) .driver own.1 o args) fun {ρ₂ x _} _ same => ?_
  exact .call (.peer own.2) fun _ _ => .done same

lemma openHolding (h : ρ s s') {p : Profile} (own : F.Owns d p) :
    F.ProgramAlike d (fun _ => Eq) ρ (Session.openHolding s p) (Session.openHolding s' p) := by
  refine .atom (.count h) fun {ρ₁ count _} grows same => ?_
  obtain rfl := same
  simp only [Program.bind_done]
  cases (ReferenceCount.mk count p.config.maxOpens).raised with
  | error e => exact (log _).bind fun _ _ => .done rfl
  | ok next =>
    have store {ρ'} (later : ρ₁ ≤ ρ') : F.ProgramAlike d (fun _ => Eq) ρ'
        ((Atom.setCount s next).act >>= fun _ => pure (.ok ()) : Action σ (Except DeviceError Unit))
        ((Atom.setCount s' next).act >>= fun _ => pure (.ok ())) :=
      .atom (.setCount (later _ _ (grows _ _ h)) next) fun _ _ => .done rfl
    simp only
    split
    · refine (operateMasked (grows _ _ h) own .setup ()).bind fun {ρ₂ x _} later same => ?_
      obtain rfl := same
      cases x with
      | error e => exact (log _).bind fun _ _ => .done rfl
      | ok _ => exact store later
    · exact store le_rfl

lemma shutDown (h : ρ s s') {p : Profile} (own : F.Owns d p) :
    F.ProgramAlike d (fun _ => Eq) ρ (Session.shutDown s p) (Session.shutDown s' p) := by
  refine .atom (.setCount h 0) fun {ρ₁ _ _} grows _ => ?_
  refine (operateMasked (grows _ _ h) own .shutdown ()).bind fun {ρ₂ x _} _ same => ?_
  obtain rfl := same
  cases x with
  | error e => exact (log _).bind fun _ _ => .done rfl
  | ok _ => exact .done rfl

lemma closeHolding (h : ρ s s') {p : Profile} (own : F.Owns d p) :
    F.ProgramAlike d (fun _ => Eq) ρ (Session.closeHolding s p) (Session.closeHolding s' p) := by
  refine .atom (.count h) fun {ρ₁ count _} grows same => ?_
  obtain rfl := same
  simp only [Program.bind_done]
  split
  · refine .atom (.count (grows _ _ h)) fun {ρ₂ count _} grows' same => ?_
    obtain rfl := same
    exact .atom (.setCount (grows' _ _ (grows _ _ h)) _) fun _ _ => .done rfl
  · split
    · exact (log _).bind fun grows' _ => shutDown (grows' _ _ (grows _ _ h)) own
    · exact shutDown (grows _ _ h) own

/-! ## Commands -/

lemma admission (h : ρ s s') (c : Command) :
    F.ProgramAlike d (fun _ => Eq) ρ (Session.admission s c) (Session.admission s' c) := by
  have look (m : ControlMethod) (f : m.Answer → Option Refusal) :
      F.ProgramAlike d (fun _ => Eq) ρ ((Session.control s m).bind fun x => .done (f x))
        ((Session.control s' m).bind fun x => .done (f x)) :=
    (control h m).bind fun _ same => .done (congrArg f same)
  cases c with
  | start | setLimits | setParams => exact look _ _
  | stop | setMode | getState | setFault | getFault | cleanFault | passthrough => exact .done rfl

lemma announce (c : Command) :
    F.ProgramAlike d (fun _ => Eq) ρ (Session.announce c) (Session.announce c) := by
  cases c with
  | passthrough => exact log _
  | start | stop | setMode | setLimits | getState | setFault | getFault | cleanFault
  | setParams => exact .done rfl

lemma forward (h : ρ s s') (c : Command) :
    F.ProgramAlike d (fun _ => Eq) ρ (Session.forward s c) (Session.forward s' c) := by
  rw [Session.forward_eq, Session.forward_eq]
  refine (announce c).bind fun {ρ₁ _ _} grows _ => ?_
  refine .atom (.profile (grows _ _ h)) fun {ρ₂ p _} grows' related => ?_
  obtain ⟨rfl, own⟩ := related
  refine .call (.lower (grows' _ _ (grows _ _ h)) .driver own.1 _ _) fun {ρ₃ x _} _ same => ?_
  obtain rfl := same
  simp only [Program.bind_done]
  split
  · exact .done rfl
  · exact (log _).bind fun _ _ => .done rfl

lemma command (h : ρ s s') (c : Command) :
    F.ProgramAlike d (fun _ => Eq) ρ (Session.command s c) (Session.command s' c) := by
  refine (admission h c).bind fun {ρ₁ x _} grows same => ?_
  obtain rfl := same
  cases x with
  | some r => exact (log _).bind fun _ _ => .done rfl
  | none => exact forward (grows _ _ h) c

/-! ## Registration -/

lemma abandon {h : LowerId} (own : ∃ k, h = F.lower d k) {x x' : Registration}
    (same : x.Alike ρ x') :
    F.ProgramAlike d Registration.Alike ρ (Registration.abandon h x) (Registration.abandon h x') :=
  .call (.peer own) fun grows _ => .done (same.mono grows)

/-- The publication of a session in the device table. -/
lemma publish (h : ρ s s') {r : RegistrationRequest} (request : F.Requests d r) :
    F.ProgramAlike d (fun _ => Eq) ρ (Registration.publish r s) (Registration.publish r s') := by
  obtain ⟨path, lower, platform, config, registry⟩ := r
  obtain ⟨rfl, -, -, rfl⟩ := request
  simp only [Registration.publish, DeviceTable.use, DeviceTable.settled?]
  by_cases empty : F.path d = ""
  · simp only [if_pos empty]
    exact .done rfl
  · simp only [if_neg empty]
    exact under_lock .table .table (.insert h _) trivial trivial

lemma establish {r : RegistrationRequest} (request : F.Requests d r) :
    F.ProgramAlike d Registration.Alike ρ (Registration.establish r)
      (Registration.establish r) := by
  refine .atom (.create ⟨request.lower, request.platform⟩) fun {ρ₁ s s'} _ linked => ?_
  refine (publish linked request).bind fun {ρ₂ x _} grows same => ?_
  obtain rfl := same
  cases x with
  | error e => exact abandon request.lower rfl
  | ok _ => exact (log _).bind fun grows' _ => .done (grows' _ _ (grows _ _ linked))

lemma register {r : RegistrationRequest} (request : F.Requests d r) :
    F.ProgramAlike d Registration.Alike ρ (Registration.register r) (Registration.register r) := by
  unfold Registration.register
  split
  · exact abandon request.lower rfl
  · split
    · exact abandon request.lower rfl
    · refine .call (.peer request.lower) fun {ρ₁ set _} _ same => ?_
      obtain rfl := same
      simp only [Program.bind_done]
      split
      · exact establish request
      · exact (log _).bind fun _ _ => abandon request.lower rfl

/-! ## Waiting -/

lemma claim (h : ρ s s') (seen : UInt32) :
    F.ProgramAlike d (fun _ => Eq) ρ (Semaphore.claim (.guard s) seen)
      (Semaphore.claim (.guard s') seen) := by
  unfold Semaphore.claim
  split
  · exact .done rfl
  · refine .atom (.exchange h seen) fun {ρ₁ x _} grows same => ?_
    obtain rfl := same
    cases x with
    | error present => exact .call (.claim (grows _ _ h) present) fun _ same => .done same
    | ok _ => exact .done rfl

lemma wait (h : ρ s s') {p : PlatformId} (own : ∃ k, p = F.platform d k) :
    F.ProgramAlike d (fun _ => Eq) ρ (Semaphore.wait (.guard s) p)
      (Semaphore.wait (.guard s') p) := by
  refine .call (.tryWait h) fun {ρ₁ taken _} grows same => ?_
  obtain rfl := same
  simp only [Program.bind_done]
  split
  · exact .done rfl
  · refine .call (.peer own) fun {ρ₂ x _} grows' same => ?_
    obtain rfl := same
    cases x with
    | error e => exact .done rfl
    | ok _ =>
      refine .call (.peer own) fun {ρ₃ _ _} grows'' _ => ?_
      exact .call (.wait (grows'' _ _ (grows' _ _ (grows _ _ h))) own) fun _ same => .done same

end Fleet.ProgramAlike

/-- Calls that do the same for a device have programs that do the same for it. -/
theorem Fleet.Apart.program {F : Fleet ι σ τ} {B : Board σ} (apart : F.Apart B) {d : ι} {ρ : Links}
    {c c' : Call} {R : Links → c.Answer → c'.Answer → Prop} (h : F.CallAlike d ρ c c' R) :
    F.ProgramAlike d R ρ (B.program c) (B.program c') := by
  cases h with
  | openDevice h =>
    refine .atom (.profile h) fun {ρ₁ p _} grows related => ?_
    obtain ⟨rfl, own⟩ := related
    exact .withPermit (grows _ _ h) own.2 fun later => .openHolding (later _ _ (grows _ _ h)) own
  | closeDevice h =>
    refine .atom (.profile h) fun {ρ₁ p _} grows related => ?_
    obtain ⟨rfl, own⟩ := related
    exact .withPermit (grows _ _ h) own.2 fun later => .closeHolding (later _ _ (grows _ _ h)) own
  | command h c => exact .command h c
  | control h m => exact .control h m
  | operate h o args =>
    refine .atom (.profile h) fun {ρ₁ p _} grows related => ?_
    obtain ⟨rfl, own⟩ := related
    exact .call (.lower (grows _ _ h) .client own.1 o args) fun _ same => .done same
  | provided h =>
    refine .atom (.profile h) fun {ρ₁ p _} grows related => ?_
    obtain ⟨rfl, own⟩ := related
    exact .call (.peer own.1) fun _ same => .done same
  | openCount h => exact .atom (.count h) fun _ same => .done same
  | config h => exact .atom (.profile h) fun _ related => .done (congrArg Profile.config related.1)
  | register h => exact .register h
  | lookup => exact .under_lock .table .table .lookup trivial trivial
  | tryWait h =>
    refine .atom (.permits h) fun {ρ₁ seen _} grows same => ?_
    obtain rfl := same
    exact .call (.claim (grows _ _ h) seen) fun _ same => .done same
  | claim h seen => exact .claim h seen
  | wait h own => exact .wait h own
  | lower h caller own o args =>
    obtain ⟨k, rfl⟩ := own
    exact apart.operate d k h o args
  | peer h => exact apart.others d h

end LedDriver
