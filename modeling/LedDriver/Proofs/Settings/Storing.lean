import LedDriver.Proofs.Command.Forwarding
import LedDriver.Proofs.LowerHalf.Wiring
import LedDriver.Proofs.Settings.Setting
import LedDriver.Proofs.System.Moments
import LedDriver.Proofs.System.Services

/-!
# Stores on behalf of a command

A lower half that stores what it is told to: carrying out a command that sets a value, it stores the
value once and reports the result of the store, or it fails with an error of its own and stores
nothing (`Reaction.Sets`).  Apart from this it does what it likes, and uses any service, also the
same command again, before the store and after it.

Where this lower half alone stores, every store is made in an operation that the driver called for a
command (`Pool.Runs.calls_of_store`).
-/

namespace LedDriver

variable {σ α : Type} {n : Nat}

/-- The service neither stores settings of a session nor calls the operations that set them. -/
def Service.LeavesSettings (s : SessionId) (c : Service) : Prop :=
  ∀ x : Setting, c ≠ .control s x.store ∧ c ≠ .operate s x.command.operation x.command.args

/-- A lower half carries out a command that sets a value, having heard what became of its store, or
having not stored yet: it stores the value and reports the result, or it reports an error of its
own. -/
inductive Reaction.Sets (s : SessionId) (x : Setting) :
    Reaction σ x.command.operation.Answer → Option (Except DeviceError Unit) → Prop
  | fails {z : x.command.operation.Answer} {e : DeviceError} (h : x.reported z = .error e) :
    Sets s x (.done z) none
  | reports {z : x.command.operation.Answer} {r : Except DeviceError Unit} (h : x.reported z = r) :
    Sets s x (.done z) (some r)
  | own {f : σ → σ} {next : σ → Reaction σ x.command.operation.Answer}
      {heard : Option (Except DeviceError Unit)} (h : ∀ a, Sets s x (next a) heard) :
    Sets s x (.ask (.own f) next) heard
  | use {c : Service} {next : c.Answer → Reaction σ x.command.operation.Answer}
      {heard : Option (Except DeviceError Unit)} (leaves : c.LeavesSettings s)
      (h : ∀ a, Sets s x (next a) heard) : Sets s x (.ask (.service c) next) heard
  | store {next : x.store.Answer → Reaction σ x.command.operation.Answer}
      (h : ∀ v, Sets s x (next v) (some (x.stored v))) :
    Sets s x (.ask (.service (.control s x.store)) next) none

/-- A board on which the lower half of a session stores what it is told to, and nothing else stores
in the session. -/
structure Board.Sets (B : Board σ) (s : SessionId) (h : LowerId) : Prop where
  lower : ∀ x : Setting,
    ((B.lower h).operate s x.command.operation x.command.args).Sets s x none
  others : ∀ c : Peer, (∀ k g x, c ≠ .operate k g s (Setting.command x).operation x.command.args) →
    (B.reaction c).Only (Use.Within (Service.LeavesSettings s))

namespace Setting

/-- The command as a call. -/
def request (s : SessionId) (x : Setting) : Call := .service (.command s x.command)

/-- The operation that carries out the command, as a call by the driver. -/
def work (h : LowerId) (s : SessionId) (x : Setting) : Call :=
  .peer (.operate .driver h s x.command.operation x.command.args)

/-- The store as a call. -/
def storing (s : SessionId) (x : Setting) : Call := .service (.control s x.store)

lemma store_injective {x y : Setting} (h : x.store = y.store) : x = y := by
  cases x <;> cases y <;> cases h <;> rfl

lemma command_injective {x y : Setting} (h : x.command = y.command) : x = y := by
  cases x <;> cases y <;> cases h <;> rfl

lemma request_injective {s : SessionId} {x y : Setting} (h : x.request s = y.request s) :
    x = y := by
  injection h with h
  injection h with _ h
  exact command_injective h

/-- The operation and its argument tell the command. -/
lemma of_operate {s t : SessionId} {x : Setting} {c : Command}
    (same : Service.operate t c.operation c.args = .operate s x.command.operation x.command.args) :
    t = s ∧ c = x.command := by
  injection same with ht ho ha
  exact ⟨ht, Command.request_injective (Sigma.ext ho ha)⟩

end Setting

/-! ## Who can store -/

/-- What the program of a call may ask for if stores are made on behalf of commands: an atom that
stores belongs to a use of the control block, which belongs to an operation, which the driver calls
for a command. -/
def Request.InLine (s : SessionId) (o : Option Call) : Request σ → Prop
  | .atom (.control t m) => ∀ x : Setting, t = s → m = x.store → o = some (x.storing s)
  | .call (.service (.control t m)) => ∀ x : Setting, t = s → m = x.store →
    ∃ k h, o = some (.peer (.operate k h s x.command.operation x.command.args))
  | .call (.service (.operate t p args)) => ∀ x : Setting,
    Service.operate t p args ≠ .operate s x.command.operation x.command.args
  | .call (.peer (.operate k _ t p args)) => ∀ x : Setting,
    Service.operate t p args = .operate s x.command.operation x.command.args →
      k = .driver ∧ o = some (x.request s) ∨
        o = some (.service (.operate s x.command.operation x.command.args))
  | _ => True

open Program

variable {s : SessionId}

/-- Surroundings that leave the settings alone. -/
lemma Reaction.action_inLine {r : Reaction σ α} (h : r.Only (Use.Within (Service.LeavesSettings s)))
    (o : Option Call) : r.action.Only (Request.InLine s o) := by
  induction r with
  | done a => trivial
  | ask u next ih =>
    cases u with
    | own f => exact ⟨trivial, fun x => ih x (h.2 x)⟩
    | service c =>
      refine ⟨?_, fun x => ih x (h.2 x)⟩
      have leaves : c.LeavesSettings s := h.1
      cases c with
      | control t m =>
        rintro x rfl rfl
        exact absurd rfl (leaves x).1
      | operate t p args => exact fun x => (leaves x).2
      | _ => trivial

/-- A lower half that stores what it is told to stores it in its operation. -/
lemma Reaction.Sets.inLine {x : Setting} {r : Reaction σ x.command.operation.Answer}
    {heard : Option (Except DeviceError Unit)} (h : r.Sets s x heard) (k : Caller) (g : LowerId) :
    r.action.Only (Request.InLine s (some (.peer
      (.operate k g s x.command.operation x.command.args)))) := by
  induction h with
  | fails | reports => trivial
  | own _ ih => exact ⟨trivial, ih⟩
  | @use c next heard leaves _ ih =>
    refine ⟨?_, ih⟩
    cases c with
    | control t m =>
      rintro x rfl rfl
      exact absurd rfl (leaves x).1
    | operate t p args => exact fun x => (leaves x).2
    | _ => trivial
  | store _ ih =>
    refine ⟨?_, ih⟩
    rintro y - same
    obtain rfl := Setting.store_injective same
    exact ⟨k, g, rfl⟩

/-- A command reads the control block and has its operation carried out by the driver. -/
lemma Session.command_inLine (t : SessionId) (c : Command) :
    (Session.command t c : Action σ _).Only
      (Request.InLine s (some (.service (.command t c)))) := by
  have looks (m : ControlMethod) (hm : m ∈ [ControlMethod.snapshot, .limits, .params]) :
      (Request.atom (.control t m) : Request σ).InLine s (some (.service (.command t c))) := by
    rintro x - rfl
    cases x <;> simp [Setting.store] at hm
  have operates (h : LowerId) : (Request.call (.peer (.operate .driver h t c.operation c.args)) :
      Request σ).InLine s (some (.service (.command t c))) := by
    intro x same
    obtain ⟨rfl, rfl⟩ := Setting.of_operate same
    exact .inl ⟨rfl, rfl⟩
  exact command_only trivial looks trivial trivial operates fun _ => trivial

/-- On such a board the programs of all calls keep to this line, but for those of operations that
are never called. -/
theorem Board.Sets.program_inLine {B : Board σ} {h : LowerId} (sets : B.Sets s h) (c : Call)
    (known : ∀ k g x, c = .peer (.operate k g s (Setting.command x).operation x.command.args) →
      g = h) : (B.program c).Only (Request.InLine s (some c)) := by
  have setup {t : SessionId} {o : Operation} (args : o.Args) (ho : o = .setup ∨ o = .shutdown)
      (x : Setting) : Service.operate t o args ≠ .operate s x.command.operation x.command.args := by
    rcases ho with rfl | rfl <;> cases x <;> nofun
  have other {c : Call} (inLine : ∀ q, c.Asks q → Request.InLine s (some c) q) :
      (B.program c).Only (Request.InLine s (some c)) := (B.program_asks c).mono inLine
  cases c with
  | service c =>
    cases c with
    | command t c => exact Session.command_inLine t c
    | control t m =>
      refine locked_only trivial ?_ trivial
      rintro x rfl rfl
      rfl
    | operate t o args =>
      exact only_ask trivial fun p => only_query fun x same =>
        .inr (congrArg (fun c => some (Call.service c)) same)
    | openDevice t | closeDevice t =>
      refine other fun q asks => ?_
      cases asks <;> first | trivial | exact fun x same => absurd same (setup _ (by simp) x)
    | provided | openCount | config | register | table | tryWait | wait | post =>
      refine other fun q asks => ?_
      cases asks <;> trivial
  | routine c =>
    refine other fun q asks => ?_
    cases asks <;> trivial
  | peer c =>
    by_cases work : ∃ k g x, c = .operate k g s (Setting.command x).operation x.command.args
    · obtain ⟨k, g, x, rfl⟩ := work
      obtain rfl := known k g x rfl
      exact (sets.lower x).inLine k g
    · exact Reaction.action_inLine (sets.others c fun k g x same => work ⟨k, g, x, same⟩) _

namespace Pool

variable {B : Board σ} {P : Pool n σ α} {l : List (Fin n × Label σ)} {own : σ}
  {clients : Fin n → Reaction σ α} {i : Fin n} {h : LowerId}

/-- In a run every request keeps to the line. -/
lemma Runs.inLine (run : Runs B (start own clients) l P) (sets : B.Sets s h)
    (lower : (P.world.profile s).lower = h)
    (keep : ∀ i, (clients i).Only (Use.Within (Service.LeavesSettings s))) {m : Moment σ}
    (hm : m ∈ moments i l) (begins : ∀ c w x d, m.label ≠ .returned c w x d) :
    m.label.request.InLine s (m.calls.head?.map Prod.snd) := by
  refine run.asks_of_moment hm begins ?_
  cases top : m.calls with
  | nil => exact Reaction.action_inLine (keep i) _
  | cons y S =>
    obtain ⟨k, c⟩ := y
    refine sets.program_inLine c ?_
    rintro k g x rfl
    have called := mem_of_mem_moments (mem_of_moment hm (R := []) top)
    exact (run.lower_of_operated called).2.symm.trans lower

/-- An operation that sets a value is called for a command. -/
lemma Runs.calls_of_work (run : Runs B (start own clients) l P) (sets : B.Sets s h)
    (lower : (P.world.profile s).lower = h)
    (keep : ∀ i, (clients i).Only (Use.Within (Service.LeavesSettings s))) {m : Moment σ}
    (hm : m ∈ moments i l) {k : Caller} {g : LowerId} {x : Setting}
    (label : m.label = .called (.peer (.operate k g s x.command.operation x.command.args))) :
    k = .driver ∧ g = h ∧ ∃ t S, m.calls = (t, x.request s) :: S := by
  have inLine := run.inLine sets lower keep hm (by simp [label])
  have called := mem_of_mem_moments hm
  rw [label] at inLine called
  obtain ⟨rfl, top⟩ | top := inLine x rfl
  · exact ⟨rfl, (run.lower_of_operated called).2.symm.trans lower, exists_of_head top⟩
  · -- nobody calls the operation past the policy
    obtain ⟨t, S, top⟩ := exists_of_head top
    have past := run.inLine sets lower keep (mem_of_moment hm (R := []) top)
      fun _ _ _ _ => nofun
    exact absurd rfl (past x)

/-- A store is asked for by such an operation. -/
lemma Runs.calls_of_storing (run : Runs B (start own clients) l P) (sets : B.Sets s h)
    (lower : (P.world.profile s).lower = h)
    (keep : ∀ i, (clients i).Only (Use.Within (Service.LeavesSettings s))) {m : Moment σ}
    (hm : m ∈ moments i l) {x : Setting} (label : m.label = .called (x.storing s)) :
    ∃ k₁ k S, m.calls = (k₁, x.work h s) :: (k, x.request s) :: S := by
  have inLine := run.inLine sets lower keep hm (by simp [label])
  rw [label] at inLine
  obtain ⟨k, g, top⟩ := inLine x rfl rfl
  obtain ⟨k₁, S, top⟩ := exists_of_head top
  obtain ⟨rfl, rfl, t, S', rfl⟩ :=
    run.calls_of_work sets lower keep (mem_of_moment hm (R := []) top) rfl
  exact ⟨k₁, t, S', top⟩

/-- Every store is made on behalf of a command: in a use of the control block by the operation that
the driver called for it. -/
theorem Runs.calls_of_store (run : Runs B (start own clients) l P) (sets : B.Sets s h)
    (lower : (P.world.profile s).lower = h)
    (keep : ∀ i, (clients i).Only (Use.Within (Service.LeavesSettings s))) {m : Moment σ}
    (hm : m ∈ moments i l) {x : Setting} {v : x.store.Answer}
    (label : m.label = .acted (.control s x.store) v) :
    ∃ k₂ k₁ k S, m.calls = (k₂, x.storing s) :: (k₁, x.work h s) :: (k, x.request s) :: S := by
  have inLine := run.inLine sets lower keep hm (by simp [label])
  rw [label] at inLine
  obtain ⟨k₂, S, top⟩ := exists_of_head (inLine x rfl rfl)
  obtain ⟨k₁, k, S', rfl⟩ :=
    run.calls_of_storing sets lower keep (mem_of_moment hm (R := []) top) rfl
  exact ⟨k₂, k₁, k, S', top⟩

end Pool

end LedDriver
