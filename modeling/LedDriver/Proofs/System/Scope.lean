import LedDriver.Proofs.Command.Table
import LedDriver.System.Interleaving

/-!
# The scope of calls

What the program of a call can do itself, apart from what is done inside the calls that it makes.
`Call.Asks` lists the atoms and the calls that a program can ask for, program by program, and
`Board.program_asks` shows that the list is complete.  What the list does not name cannot happen:
only `openDevice` and `closeDevice` store an open count, only `claim` takes a permit, only an
admitted command makes the driver call `start`, and the reaction of a lower half, a platform, a
journal or a registry has nothing but its own state and the services.
-/

namespace LedDriver

variable {σ α β : Type}

/-- What the program of a call can ask for. -/
inductive Call.Asks : Call → Request σ → Prop
  | open_profile (s : SessionId) : (service (.openDevice s)).Asks (.atom (.profile s))
  | open_wait (s : SessionId) (p : PlatformId) :
    (service (.openDevice s)).Asks (.call (.routine (.wait (.guard s) p)))
  | open_count (s : SessionId) : (service (.openDevice s)).Asks (.atom (.count s))
  | open_store (s : SessionId) (v : UInt8) : (service (.openDevice s)).Asks (.atom (.setCount s v))
  | open_enter (s : SessionId) (p : PlatformId) :
    (service (.openDevice s)).Asks (.call (.peer (.enter p)))
  | open_setup (s : SessionId) (h : LowerId) :
    (service (.openDevice s)).Asks (.call (.peer (.operate .driver h s .setup ())))
  | open_leave (s : SessionId) (p : PlatformId) (x : UInt64) :
    (service (.openDevice s)).Asks (.call (.peer (.leave p x)))
  | open_log (s : SessionId) (m : Notice) : (service (.openDevice s)).Asks (.call (.peer (.log m)))
  | open_post (s : SessionId) : (service (.openDevice s)).Asks (.atom (.post (.guard s)))
  | close_profile (s : SessionId) : (service (.closeDevice s)).Asks (.atom (.profile s))
  | close_wait (s : SessionId) (p : PlatformId) :
    (service (.closeDevice s)).Asks (.call (.routine (.wait (.guard s) p)))
  | close_count (s : SessionId) : (service (.closeDevice s)).Asks (.atom (.count s))
  | close_store (s : SessionId) (v : UInt8) :
    (service (.closeDevice s)).Asks (.atom (.setCount s v))
  | close_enter (s : SessionId) (p : PlatformId) :
    (service (.closeDevice s)).Asks (.call (.peer (.enter p)))
  | close_shutdown (s : SessionId) (h : LowerId) :
    (service (.closeDevice s)).Asks (.call (.peer (.operate .driver h s .shutdown ())))
  | close_leave (s : SessionId) (p : PlatformId) (x : UInt64) :
    (service (.closeDevice s)).Asks (.call (.peer (.leave p x)))
  | close_log (s : SessionId) (m : Notice) :
    (service (.closeDevice s)).Asks (.call (.peer (.log m)))
  | close_post (s : SessionId) : (service (.closeDevice s)).Asks (.atom (.post (.guard s)))
  | command_acquire (s : SessionId) (c : Command) :
    (service (.command s c)).Asks (.atom (.acquire (.control s)))
  | command_control (s : SessionId) (c : Command) (m : ControlMethod) :
    (service (.command s c)).Asks (.atom (.control s m))
  | command_release (s : SessionId) (c : Command) :
    (service (.command s c)).Asks (.atom (.release (.control s)))
  | command_log (s : SessionId) (c : Command) (m : Notice) :
    (service (.command s c)).Asks (.call (.peer (.log m)))
  | command_profile (s : SessionId) (c : Command) :
    (service (.command s c)).Asks (.atom (.profile s))
  | command_operate (s : SessionId) (c : Command) (h : LowerId) :
    (service (.command s c)).Asks (.call (.peer (.operate .driver h s c.operation c.args)))
  | control_acquire (s : SessionId) (m : ControlMethod) :
    (service (.control s m)).Asks (.atom (.acquire (.control s)))
  | control_use (s : SessionId) (m : ControlMethod) :
    (service (.control s m)).Asks (.atom (.control s m))
  | control_release (s : SessionId) (m : ControlMethod) :
    (service (.control s m)).Asks (.atom (.release (.control s)))
  | operate_profile (s : SessionId) (o : Operation) (args : o.Args) :
    (service (.operate s o args)).Asks (.atom (.profile s))
  | operate_lower (s : SessionId) (o : Operation) (args : o.Args) (h : LowerId) :
    (service (.operate s o args)).Asks (.call (.peer (.operate .client h s o args)))
  | provided_profile (s : SessionId) : (service (.provided s)).Asks (.atom (.profile s))
  | provided_lower (s : SessionId) (h : LowerId) :
    (service (.provided s)).Asks (.call (.peer (.provided h)))
  | openCount_count (s : SessionId) : (service (.openCount s)).Asks (.atom (.count s))
  | config_profile (s : SessionId) : (service (.config s)).Asks (.atom (.profile s))
  | register_discard (r : RegistrationRequest) :
    (service (.register r)).Asks (.call (.peer (.discard r.lower)))
  | register_provided (r : RegistrationRequest) :
    (service (.register r)).Asks (.call (.peer (.provided r.lower)))
  | register_log (r : RegistrationRequest) (m : Notice) :
    (service (.register r)).Asks (.call (.peer (.log m)))
  | register_create (r : RegistrationRequest) (h : r.config.maxOpens ≠ 0) :
    (service (.register r)).Asks (.atom (.create ⟨r.lower, r.platform, r.config⟩))
  | register_publish (r : RegistrationRequest) (k : RegistryId) (s : SessionId) :
    (service (.register r)).Asks (.call (.peer (.publish k r.path s FileMode.readAll)))
  | register_acquire (r : RegistrationRequest) :
    (service (.register r)).Asks (.atom (.acquire .table))
  | register_insert (r : RegistrationRequest) (s : SessionId) :
    (service (.register r)).Asks (.atom (.table (.insert ⟨r.path, s, FileMode.readAll⟩)))
  | register_release (r : RegistrationRequest) :
    (service (.register r)).Asks (.atom (.release .table))
  | table_acquire (m : TableMethod SessionId) :
    (service (.table m)).Asks (.atom (.acquire .table))
  | table_use (m : TableMethod SessionId) : (service (.table m)).Asks (.atom (.table m))
  | table_release (m : TableMethod SessionId) :
    (service (.table m)).Asks (.atom (.release .table))
  | tryWait_alone (i : Nat) : (service (.tryWait i)).Asks (.call (.routine (.tryWait (.alone i))))
  | wait_alone (i : Nat) (p : PlatformId) :
    (service (.wait i p)).Asks (.call (.routine (.wait (.alone i) p)))
  | post_alone (i : Nat) : (service (.post i)).Asks (.atom (.post (.alone i)))
  | claim_exchange (g : SemaphoreId) (seen : UInt32) (h : seen ≠ 0) :
    (routine (.claim g seen)).Asks (.atom (.exchange g seen))
  | claim_claim (g : SemaphoreId) (seen present : UInt32) :
    (routine (.claim g seen)).Asks (.call (.routine (.claim g present)))
  | tryWait_permits (g : SemaphoreId) : (routine (.tryWait g)).Asks (.atom (.permits g))
  | tryWait_claim (g : SemaphoreId) (seen : UInt32) :
    (routine (.tryWait g)).Asks (.call (.routine (.claim g seen)))
  | wait_tryWait (g : SemaphoreId) (p : PlatformId) :
    (routine (.wait g p)).Asks (.call (.routine (.tryWait g)))
  | wait_checkWait (g : SemaphoreId) (p : PlatformId) :
    (routine (.wait g p)).Asks (.call (.peer (.checkWait p)))
  | wait_relax (g : SemaphoreId) (p : PlatformId) :
    (routine (.wait g p)).Asks (.call (.peer (.relax p)))
  | wait_wait (g : SemaphoreId) (p : PlatformId) :
    (routine (.wait g p)).Asks (.call (.routine (.wait g p)))
  | peer_own (c : Peer) (f : σ → σ) : (peer c).Asks (.atom (.own f))
  | peer_use (c : Peer) (d : Service) : (peer c).Asks (.call (.service d))

namespace Program

variable {I : Interface} {π : I.Question → Prop}

lemma Only.mono {π' : I.Question → Prop} {p : Program I α} (h : p.Only π)
    (imp : ∀ q, π q → π' q) : p.Only π' := by
  induction p with
  | done a => trivial
  | ask q next ih => exact ⟨imp q h.1, fun x => ih x (h.2 x)⟩

lemma only_query {q : I.Question} (h : π q) : (query q).Only π := ⟨h, fun _ => trivial⟩

/-- A program that asks a question and goes on with the answer. -/
lemma only_ask {q : I.Question} {f : I.Answer q → Program I α} (h : π q)
    (hf : ∀ x, (f x).Only π) : (query q >>= f).Only π := (only_query h).bind hf

end Program

open Program

variable {π : Request σ → Prop}

/-- The surroundings of the driver have their own state and the services. -/
lemma Reaction.action_only (r : Reaction σ α) (own : ∀ f, π (.atom (.own f)))
    (use : ∀ c, π (.call (.service c))) : r.action.Only π := by
  induction r with
  | done a => trivial
  | ask u next ih =>
    refine Only.bind ?_ ih
    cases u with
    | own f => exact only_query (own f)
    | service c => exact only_query (use c)

lemma locked_only {l : LockId} {a : Atom σ} (acquire : π (.atom (.acquire l)))
    (use : π (.atom a)) (release : π (.atom (.release l))) : (locked l a).Only π :=
  only_ask acquire fun _ => only_ask use fun _ => only_ask release fun _ => trivial

lemma inCriticalSection_only {p : PlatformId} {body : Action σ α}
    (enter : π (.call (.peer (.enter p)))) (hb : body.Only π)
    (leave : ∀ x, π (.call (.peer (.leave p x)))) : (inCriticalSection p body).Only π :=
  only_ask enter fun x => hb.bind fun _ => only_ask (leave x) fun _ => trivial

lemma Semaphore.withPermit_only {g : SemaphoreId} {p : PlatformId}
    {body : Action σ (Except DeviceError Unit)} (wait : π (.call (.routine (.wait g p))))
    (hb : body.Only π) (post : π (.atom (.post g))) : (withPermit g p body).Only π := by
  refine only_ask wait fun x => ?_
  cases x with
  | error e => trivial
  | ok _ => exact hb.bind fun _ => only_ask post fun _ => trivial

/-! ## Commands -/

section Commands

variable {s : SessionId} {c : Command}

/-- The policy looks at the control block, under its lock. -/
lemma Session.admission_only (acquire : π (.atom (.acquire (.control s))))
    (look : ∀ m ∈ [ControlMethod.snapshot, .limits, .params], π (.atom (.control s m)))
    (release : π (.atom (.release (.control s)))) :
    (Session.admission s c : Action σ _).Only π := by
  have looks (m : ControlMethod) (hm : m ∈ [ControlMethod.snapshot, .limits, .params]) :
      (Session.control s m : Action σ _).Only π := locked_only acquire (look m hm) release
  cases c with
  | start | setLimits | setParams => exact (looks _ (by simp)).bind fun _ => trivial
  | stop | setMode | getState | setFault | getFault | cleanFault | passthrough => trivial

/-- A command is announced in the journal, if at all. -/
lemma Session.announce_only (log : ∀ n, π (.call (.peer (.log n)))) :
    (Session.announce c : Action σ _).Only π := by
  cases c with
  | passthrough => exact only_query (log _)
  | start | stop | setMode | setLimits | getState | setFault | getFault | cleanFault
  | setParams => trivial

/-- A command that is passed on calls for its operation of the lower half, and writes into the
journal. -/
lemma Session.forward_only (profile : π (.atom (.profile s)))
    (operate : ∀ h, π (.call (.peer (.operate .driver h s c.operation c.args))))
    (log : ∀ n, π (.call (.peer (.log n)))) : (Session.forward s c : Action σ _).Only π := by
  rw [forward_eq]
  refine (announce_only log).bind fun _ => only_ask profile fun p => ?_
  refine only_ask (operate p.lower) fun x => ?_
  dsimp only
  split
  · trivial
  · exact only_ask (log _) fun _ => trivial

/-- A command is held against the policy, and then it is refused or passed on. -/
lemma Session.command_only (acquire : π (.atom (.acquire (.control s))))
    (look : ∀ m ∈ [ControlMethod.snapshot, .limits, .params], π (.atom (.control s m)))
    (release : π (.atom (.release (.control s)))) (profile : π (.atom (.profile s)))
    (operate : ∀ h, π (.call (.peer (.operate .driver h s c.operation c.args))))
    (log : ∀ n, π (.call (.peer (.log n)))) : (Session.command s c : Action σ _).Only π := by
  refine (admission_only acquire look release).bind fun r => ?_
  cases r with
  | some r => exact only_ask (log _) fun _ => trivial
  | none => exact forward_only profile operate log

end Commands

/-! ## The programs one by one -/

lemma Session.openDevice_asks (s : SessionId) :
    (Session.openDevice s : Action σ _).Only (Call.service (.openDevice s)).Asks := by
  refine only_ask (.open_profile s) fun p => ?_
  refine Semaphore.withPermit_only (.open_wait s _) ?_ (.open_post s)
  refine only_ask (.open_count s) fun count => ?_
  split
  · exact only_ask (.open_log s _) fun _ => trivial
  · next v _ =>
    split
    · have setup : (operateMasked s p .setup () : Action σ _).Only
          (Call.service (.openDevice s)).Asks :=
        inCriticalSection_only (.open_enter s _) (only_query (.open_setup s _))
          fun x => .open_leave s _ x
      refine setup.bind fun r => ?_
      cases r with
      | error e => exact only_ask (.open_log s _) fun _ => trivial
      | ok _ => exact only_ask (.open_store s _) fun _ => trivial
    · exact only_ask (.open_store s v) fun _ => trivial

lemma Session.shutDown_asks (s : SessionId) (p : Profile) :
    (Session.shutDown s p : Action σ _).Only (Call.service (.closeDevice s)).Asks := by
  have shutdown : (operateMasked s p .shutdown () : Action σ _).Only
      (Call.service (.closeDevice s)).Asks :=
    inCriticalSection_only (.close_enter s _) (only_query (.close_shutdown s _))
      fun x => .close_leave s _ x
  refine only_ask (.close_store s 0) fun _ => shutdown.bind fun r => ?_
  cases r with
  | error e => exact only_ask (.close_log s _) fun _ => trivial
  | ok _ => trivial

lemma Session.closeDevice_asks (s : SessionId) :
    (Session.closeDevice s : Action σ _).Only (Call.service (.closeDevice s)).Asks := by
  refine only_ask (.close_profile s) fun p => ?_
  refine Semaphore.withPermit_only (.close_wait s _) ?_ (.close_post s)
  refine only_ask (.close_count s) fun count => ?_
  split
  · exact only_ask (.close_count s) fun _ => only_ask (.close_store s _) fun _ => trivial
  · split
    · exact only_ask (.close_log s _) fun _ => shutDown_asks s p
    · exact shutDown_asks s p

lemma Session.control_asks (s : SessionId) (m : ControlMethod) :
    (Session.control s m : Action σ _).Only (Call.service (.control s m)).Asks :=
  locked_only (.control_acquire s m) (.control_use s m) (.control_release s m)

lemma Session.command_asks (s : SessionId) (c : Command) :
    (Session.command s c : Action σ _).Only (Call.service (.command s c)).Asks :=
  command_only (.command_acquire s c) (fun m _ => .command_control s c m) (.command_release s c)
    (.command_profile s c) (.command_operate s c) (.command_log s c)

lemma Registration.register_asks (r : RegistrationRequest) :
    (Registration.register r : Action σ _).Only (Call.service (.register r)).Asks := by
  have abandoned (x : Registration) :
      (abandon r.lower x : Action σ _).Only (Call.service (.register r)).Asks :=
    only_ask (.register_discard r) fun _ => trivial
  have published (s : SessionId) :
      (publish r s : Action σ _).Only (Call.service (.register r)).Asks := by
    unfold publish DeviceTable.use
    split
    · split
      · trivial
      · exact locked_only (.register_acquire r) (.register_insert r s) (.register_release r)
    · next k _ => exact only_query (.register_publish r k s)
  unfold register
  split
  · exact abandoned _
  · split
    · exact abandoned _
    · next h =>
      refine only_ask (.register_provided r) fun set => ?_
      dsimp only
      split
      · refine only_ask (.register_create r h) fun s => (published s).bind fun x => ?_
        cases x with
        | error e => exact abandoned _
        | ok _ => exact only_ask (.register_log r _) fun _ => trivial
      · exact only_ask (.register_log r _) fun _ => abandoned _

lemma DeviceTable.use_asks (m : TableMethod SessionId) :
    (DeviceTable.use m : Action σ _).Only (Call.service (.table m)).Asks := by
  unfold use
  split
  · trivial
  · exact locked_only (.table_acquire m) (.table_use m) (.table_release m)

lemma Semaphore.claim_asks (g : SemaphoreId) (seen : UInt32) :
    (Semaphore.claim g seen : Action σ _).Only (Call.routine (.claim g seen)).Asks := by
  unfold claim
  split
  · trivial
  · next h =>
    refine only_ask (.claim_exchange g seen h) fun x => ?_
    cases x with
    | error present => exact only_query (.claim_claim g seen present)
    | ok _ => trivial

lemma Semaphore.wait_asks (g : SemaphoreId) (p : PlatformId) :
    (Semaphore.wait g p : Action σ _).Only (Call.routine (.wait g p)).Asks := by
  refine only_ask (.wait_tryWait g p) fun taken => ?_
  split
  · trivial
  · refine only_ask (.wait_checkWait g p) fun x => ?_
    cases x with
    | error e => trivial
    | ok _ => exact only_ask (.wait_relax g p) fun _ => only_query (.wait_wait g p)

/-- The list is complete: the program of a call asks for nothing that is not in it. -/
theorem Board.program_asks (B : Board σ) (c : Call) : (B.program c).Only c.Asks := by
  cases c with
  | service c =>
    cases c with
    | openDevice s => exact Session.openDevice_asks s
    | closeDevice s => exact Session.closeDevice_asks s
    | command s c => exact Session.command_asks s c
    | control s m => exact Session.control_asks s m
    | operate s o args =>
      exact only_ask (.operate_profile s o args) fun _ => only_query (.operate_lower s o args _)
    | provided s =>
      exact only_ask (.provided_profile s) fun _ => only_query (.provided_lower s _)
    | openCount s => exact only_query (.openCount_count s)
    | config s => exact only_ask (.config_profile s) fun _ => trivial
    | register r => exact Registration.register_asks r
    | table m => exact DeviceTable.use_asks m
    | tryWait i => exact only_query (.tryWait_alone i)
    | wait i p => exact only_query (.wait_alone i p)
    | post i => exact only_query (.post_alone i)
  | routine c =>
    cases c with
    | tryWait g =>
      exact only_ask (.tryWait_permits g) fun _ => only_query (.tryWait_claim g _)
    | claim g seen => exact Semaphore.claim_asks g seen
    | wait g p => exact Semaphore.wait_asks g p
  | peer c => exact Reaction.action_only _ (fun f => .peer_own c f) fun d => .peer_use c d

end LedDriver
