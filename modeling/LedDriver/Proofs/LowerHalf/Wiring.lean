import LedDriver.Proofs.Command.Forwarding
import LedDriver.Proofs.Lifecycle.References
import LedDriver.Proofs.Registration.Record
import LedDriver.Proofs.Serial.Waits

/-!
# Lower halves made of a table

A lower half made of a table behaves as its entries do, and an operation without an entry fails and
does nothing (`LowerHalf.operate_ofTable_eq`).  A shared handle passes everything on
(`LowerHalf.operate_shared_eq`) and so changes nothing (`LowerHalf.shared_iterate`).

An operation of a lower half is called only on a session that has this lower half (`Call.Knows`),
and a session is created only once its lower half has answered that it provides all operations
(`Pool.Runs.complete_of_issued`).  So in a run the entries that are not filled are never called
(`Pool.Runs.filled_of_operated`), and whatever stands in their place makes no difference
(`Pool.runs_iff_of_wired`).
-/

namespace LedDriver

variable {σ α : Type} {n : Nat}

namespace LowerHalf

/-- The lower half that has a body for each operation, and provides them all. -/
def direct (bodies : SessionId → (o : Operation) → o.Args → Reaction σ o.Answer)
    (discard : Reaction σ Unit) : LowerHalf σ where
  provided := pure Flags.all
  operate := bodies
  discard := discard

/-- A shared handle changes nothing, however often it is shared. -/
lemma shared_iterate (h : LowerHalf σ) (k : Nat) : shared^[k] h = h := by
  induction k with
  | zero => rfl
  | succ k ih => rw [Function.iterate_succ_apply', ih]; rfl

variable {t : OperationTable σ} {discard : Reaction σ Unit}
  {bodies : SessionId → (o : Operation) → o.Args → Reaction σ o.Answer}

/-- A filled entry is the operation. -/
lemma operate_of_filled {o : Operation} {entry : SessionId → o.Args → Reaction σ o.Answer}
    (filled : t o = some entry) (s : SessionId) (args : o.Args) :
    (ofTable t discard).operate s o args = entry s args := by
  simp [ofTable, filled]

/-- An operation without an entry fails at once. -/
lemma operate_of_empty {o : Operation} (empty : t o = none) (s : SessionId) (args : o.Args) :
    (ofTable t discard).operate s o args = pure (o.failed .unsupported args) := by
  simp [ofTable, empty]

/-- The operations of a lower half made of a table, one by one: each is its own entry, or fails with
its buffer as it was. -/
lemma operate_ofTable_eq (t : OperationTable σ) (discard : Reaction σ Unit) (s : SessionId) :
    (ofTable t discard).operate s = fun
      | .setup, () => (t .setup).elim (pure (.error .unsupported)) fun entry => entry s ()
      | .shutdown, () => (t .shutdown).elim (pure (.error .unsupported)) fun entry => entry s ()
      | .start, () => (t .start).elim (pure (.error .unsupported)) fun entry => entry s ()
      | .stop, () => (t .stop).elim (pure (.error .unsupported)) fun entry => entry s ()
      | .modeSet, m => (t .modeSet).elim (pure (.error .unsupported)) fun entry => entry s m
      | .limitsSet, l => (t .limitsSet).elim (pure (.error .unsupported)) fun entry => entry s l
      | .paramsSet, p => (t .paramsSet).elim (pure (.error .unsupported)) fun entry => entry s p
      | .faultSet, f => (t .faultSet).elim (pure (.error .unsupported)) fun entry => entry s f
      | .faultGet, held =>
        (t .faultGet).elim (pure (.error .unsupported, held)) fun entry => entry s held
      | .faultClean, f => (t .faultClean).elim (pure (.error .unsupported)) fun entry => entry s f
      | .stateGet, held =>
        (t .stateGet).elim (pure (.error .unsupported, held)) fun entry => entry s held
      | .ioctl, (n, arg) =>
        (t .ioctl).elim (pure (.error .unsupported, arg)) fun entry => entry s (n, arg) := by
  funext o args
  have asked : (ofTable t discard).operate s o args =
      (t o).elim (pure (o.failed .unsupported args)) fun entry => entry s args := by
    cases found : t o with
    | none => exact operate_of_empty found s args
    | some entry => exact operate_of_filled found s args
  rw [asked]
  cases o <;> rfl

/-- The operations of a shared handle, one by one: each is passed on. -/
lemma operate_shared_eq (h : LowerHalf σ) (s : SessionId) :
    h.shared.operate s = fun
      | .setup, () => h.operate s .setup ()
      | .shutdown, () => h.operate s .shutdown ()
      | .start, () => h.operate s .start ()
      | .stop, () => h.operate s .stop ()
      | .modeSet, m => h.operate s .modeSet m
      | .limitsSet, l => h.operate s .limitsSet l
      | .paramsSet, p => h.operate s .paramsSet p
      | .faultSet, f => h.operate s .faultSet f
      | .faultGet, held => h.operate s .faultGet held
      | .faultClean, f => h.operate s .faultClean f
      | .stateGet, held => h.operate s .stateGet held
      | .ioctl, (n, arg) => h.operate s .ioctl (n, arg) := by
  funext o args
  cases o <;> rfl

/-- A table with all entries filled makes the lower half that has the entries for bodies. -/
lemma ofTable_eq_direct (agree : ∀ o entry, t o = some entry → ∀ s, bodies s o = entry s)
    (filled : ∀ o, (t o).isSome = true) : ofTable t discard = direct bodies discard := by
  have operate : (ofTable t discard).operate = bodies := by
    funext s o args
    obtain ⟨entry, he⟩ := Option.isSome_iff_exists.mp (filled o)
    rw [operate_of_filled he, agree o entry he]
  have provided : t.provided = Flags.all := OpSet.filter_eq_all filled
  unfold direct
  rw [← operate, ← provided]
  rfl

end LowerHalf

/-! ## Who calls an operation -/

/-- A program that has done some things calls an operation of a lower half only on a session that it
knows to have this lower half. -/
def Call.Knows (d : List (Deed σ)) : Request σ → Prop
  | .call (.peer (.operate _ h s _ _)) => ∃ p, .acted (.profile s) p ∈ d ∧ p.lower = h
  | _ => True

/-- What calls an operation calls it on one session and one lower half. -/
def Request.OperatesOn (s : SessionId) (h : LowerId) : Request σ → Prop
  | .call (.peer (.operate _ k u _ _)) => u = s ∧ k = h
  | _ => True

/-- What calls no operation. -/
def Request.OperatesNot : Request σ → Prop
  | .call (.peer (.operate _ _ _ _ _)) => False
  | _ => True

/-- A program that keeps to what it knows, begun with some deeds. -/
def Program.Informed (p : Action σ α) (d : List (Deed σ)) : Prop :=
  p.Obeys (fun d x => d ++ [x]) Call.Knows (fun _ _ => True) d

namespace Program.Informed

variable {p : Action σ α} {d : List (Deed σ)} {s : SessionId} {u : Profile}

/-- A program that knows the profile of its session. -/
lemma of_profile (h : p.Only (Request.OperatesOn s u.lower)) (known : .acted (.profile s) u ∈ d) :
    p.Informed d := by
  induction p generalizing d with
  | done a => trivial
  | ask q next ih =>
    refine ⟨?_, fun x => ih x (h.2 x) (List.mem_append_left _ known)⟩
    have here := h.1
    unfold Request.OperatesOn at here
    unfold Call.Knows
    split
    · obtain ⟨rfl, rfl⟩ := here
      exact ⟨u, known, rfl⟩
    · trivial

/-- A program that calls no operation. -/
lemma of_not (h : p.Only Request.OperatesNot) : p.Informed d := by
  induction p generalizing d with
  | done a => trivial
  | ask q next ih =>
    refine ⟨?_, fun x => ih x (h.2 x)⟩
    have here := h.1
    unfold Request.OperatesNot at here
    unfold Call.Knows
    split
    · exact here.elim
    · trivial

end Program.Informed

open Program

variable {s : SessionId} {p : Profile}

/-- A call in a critical section is one of its session. -/
lemma Session.operateMasked_operatesOn {o : Operation} {args : o.Args} :
    (operateMasked s p o args : Action σ _).Only (Request.OperatesOn s p.lower) :=
  inCriticalSection_only trivial (only_query ⟨rfl, rfl⟩) fun _ => trivial

lemma Session.openHolding_operatesOn :
    (openHolding s p : Action σ _).Only (Request.OperatesOn s p.lower) := by
  refine only_ask trivial fun count => ?_
  split
  · exact only_ask trivial fun _ => trivial
  · split
    · refine operateMasked_operatesOn.bind fun r => ?_
      cases r <;> exact only_ask trivial fun _ => trivial
    · exact only_ask trivial fun _ => trivial

lemma Session.shutDown_operatesOn :
    (shutDown s p : Action σ _).Only (Request.OperatesOn s p.lower) := by
  refine only_ask trivial fun _ => operateMasked_operatesOn.bind fun r => ?_
  cases r with
  | error e => exact only_ask trivial fun _ => trivial
  | ok _ => trivial

lemma Session.closeHolding_operatesOn :
    (closeHolding s p : Action σ _).Only (Request.OperatesOn s p.lower) := by
  refine only_ask trivial fun count => ?_
  split
  · exact only_ask trivial fun _ => only_ask trivial fun _ => trivial
  · split
    · exact only_ask trivial fun _ => shutDown_operatesOn
    · exact shutDown_operatesOn

lemma Session.forward_informed (c : Command) (d : List (Deed σ)) :
    (forward s c).Informed d := by
  have announced : (announce c : Action σ Unit).Informed d :=
    .of_not (announce_only fun _ => trivial)
  rw [forward_eq]
  refine announced.bind fun _ d _ => ⟨trivial, fun p => ?_⟩
  refine Informed.of_profile (u := p) ⟨⟨rfl, rfl⟩, fun x => ?_⟩ (List.mem_append_right _ (.head _))
  simp only [bind_done]
  split
  · trivial
  · exact only_ask trivial fun _ => trivial

lemma Session.command_informed (c : Command) (d : List (Deed σ)) :
    (command s c).Informed d := by
  have admitted : (admission s c : Action σ _).Informed d :=
    .of_not (admission_only trivial (fun _ _ => trivial) trivial)
  refine admitted.bind fun r d _ => ?_
  cases r with
  | some r => exact Informed.of_not (only_ask trivial fun _ => trivial)
  | none => exact forward_informed c d

/-- A call that operates on no session calls no operation. -/
lemma Call.Asks.operatesNot {c : Call} {q : Request σ} (h : c.Asks q)
    (hc : ∀ s, c ≠ .service (.openDevice s) ∧ c ≠ .service (.closeDevice s) ∧
      (∀ m, c ≠ .service (.command s m)) ∧ ∀ o args, c ≠ .service (.operate s o args)) :
    q.OperatesNot := by
  cases h
  case open_setup s _ => exact ((hc s).1 rfl).elim
  case close_shutdown s _ => exact ((hc s).2.1 rfl).elim
  case command_operate s m _ => exact ((hc s).2.2.1 m rfl).elim
  case operate_lower s o args _ => exact ((hc s).2.2.2 o args rfl).elim
  all_goals trivial

/-- Every program calls an operation only on a session that it knows to have the lower half. -/
theorem Board.program_informed (B : Board σ) (c : Call) (d : List (Deed σ)) :
    (B.program c).Informed d := by
  have other (hc : ∀ s, c ≠ .service (.openDevice s) ∧ c ≠ .service (.closeDevice s) ∧
      (∀ m, c ≠ .service (.command s m)) ∧ ∀ o args, c ≠ .service (.operate s o args)) :
      (B.program c).Informed d :=
    .of_not ((B.program_asks c).mono fun _ asks => asks.operatesNot hc)
  have known {s : SessionId} {f : Profile → Action σ (Except DeviceError Unit)}
      (hf : ∀ p, (f p).Only (Request.OperatesOn s p.lower)) :
      ((Atom.profile s).act >>= f).Informed d :=
    ⟨trivial, fun p => Informed.of_profile (hf p) (List.mem_append_right _ (.head _))⟩
  cases c with
  | service c =>
    cases c with
    | openDevice s =>
      exact known fun p => Semaphore.withPermit_only trivial Session.openHolding_operatesOn trivial
    | closeDevice s =>
      exact known fun p => Semaphore.withPermit_only trivial Session.closeHolding_operatesOn trivial
    | command s c => exact Session.command_informed c d
    | operate s o args =>
      exact ⟨trivial, fun p => Informed.of_profile (u := p) (only_query ⟨rfl, rfl⟩)
        (List.mem_append_right _ (.head _))⟩
    | control | provided | openCount | config | register | table | tryWait | wait | post =>
      exact other fun s => ⟨nofun, nofun, nofun, nofun⟩
  | routine c => exact other fun s => ⟨nofun, nofun, nofun, nofun⟩
  | peer c => exact other fun s => ⟨nofun, nofun, nofun, nofun⟩

namespace Pool

variable {B B' : Board σ} {P Q : Pool n σ α} {l : List (Fin n × Label σ)} {own : σ}
  {clients : Fin n → Reaction σ α} {i : Fin n} {h : LowerId} {set : OpSet}

/-- A call of an operation that is made is made on a session that has the lower half. -/
lemma Runs.lower_of_operated (run : Runs B (start own clients) l P) {c : Caller} {s : SessionId}
    {o : Operation} {args : o.Args} (he : (i, .called (.peer (.operate c h s o args))) ∈ l) :
    s < P.world.issued ∧ (P.world.profile s).lower = h := by
  obtain ⟨l₁, l₂, Q, R, rfl, before, step, after⟩ := run.exists_step he
  obtain ⟨f, hf, asks⟩ := before.exists_asking step
  obtain ⟨w, w₀, d, p⟩ := f
  cases w with
  | none => cases asks
  | some c =>
    obtain ⟨next, follows⟩ := asks
    have obeys := (B.program_informed c []).of_follows follows
    rw [Registration.foldl_append, List.nil_append] at obeys
    obtain ⟨p, known, rfl⟩ := obeys.1
    obtain ⟨old, rfl⟩ := before.profile_known hf known
    obtain ⟨created, kept⟩ := (Runs.head step after).profile_kept old
    exact ⟨created, congrArg Profile.lower kept⟩

/-- What a lower half answers that it provides, if it answers at once. -/
lemma Runs.provided_eq (run : Runs B (start own clients) l P)
    (provides : (B.lower h).provided = pure set) {f : Frame σ} (hf : f ∈ (P.parties i).frames)
    {told : OpSet} (received : .received (.peer (.provided h)) told ∈ f.past) : told = set := by
  obtain ⟨w, d, he⟩ := run.exists_returned hf received
  have follows := run.follows_of_returned he
  have program : B.program (.peer (.provided h)) = (pure set : Reaction σ OpSet).action :=
    congrArg Reaction.action provides
  rw [program] at follows
  exact follows.of_done.2

/-- A session is created only if its lower half provides all operations. -/
theorem Runs.complete_of_issued (run : Runs B (start own clients) l P)
    (provides : (B.lower h).provided = pure set) {s : SessionId} (created : s < P.world.issued)
    (lower : (P.world.profile s).lower = h) : OpSet.Complete set := by
  induction run with
  | refl => cases created
  | @tail Q R l e run step ih =>
    obtain ⟨i, e⟩ := e
    rcases step.world_eq with ⟨a, x, rfl, ha⟩ | ⟨-, same⟩
    · by_cases old : s < Q.world.issued
      · exact ih old ((congrArg Profile.lower (ha.issued_le.2 s old)).symm.trans lower)
      · obtain ⟨p, rfl, profile⟩ := ha.exists_create (Nat.not_lt.mp old) created
        obtain ⟨⟨o, w₀, d, q⟩, hf, asks⟩ := run.exists_asking step
        cases o with
        | none => cases asks
        | some c =>
          obtain ⟨next, follows⟩ := asks
          have only := (follows.only (B.program_asks c)).1
          cases only with
          | register_create r =>
            obtain ⟨-, -, -, told, received, complete⟩ := Registration.of_create follows
            obtain rfl : r.lower = h := (congrArg Profile.lower profile).symm.trans lower
            obtain rfl := run.provided_eq provides hf received
            exact complete
    · exact ih (by rwa [same] at created) (by rwa [same] at lower)

/-- A registration succeeds only with a lower half that provides all operations. -/
lemma Runs.complete_of_registered (run : Runs B (start own clients) l P) {r : RegistrationRequest}
    (provides : (B.lower r.lower).provided = pure set) {w : World σ} {s : SessionId}
    {d : List (Deed σ)} (he : (i, .returned (.service (.register r)) w (.registered s) d) ∈ l) :
    OpSet.Complete set := by
  obtain ⟨l₁, l₂, Q, R, -, before, step, -⟩ := run.exists_step he
  obtain ⟨frame, follows⟩ := before.frame_of_return step
  rcases Registration.of_complete follows with
    ⟨-, cause, fault⟩ | ⟨⟨-, -, told, received, complete⟩, -⟩
  · cases fault
  · obtain rfl := before.provided_eq provides frame received
    exact complete

/-! ## Boards that differ in what is never called -/

/-- A step is a step on another board if the call that begins has the same program there. -/
lemma Step.of_program_eq {e : Fin n × Label σ} (step : Step B P e Q)
    (same : ∀ c, e.2 = .called c → B.program c = B'.program c) : Step B' P e Q := by
  obtain ⟨i, e⟩ := e
  obtain ⟨w, p, hs, rfl⟩ := step.exists_party
  refine .party ?_
  generalize P.parties i = q at hs
  cases hs with
  | act ha => exact .act ha
  | call w₀ past c next callers =>
    rw [same c rfl]
    exact .call ..
  | «return» => exact .return ..

/-- A run is a run on another board if the calls that are made in it have the same programs
there. -/
lemma Runs.of_program_eq (run : Runs B P l Q)
    (same : ∀ i c, (i, .called c) ∈ l → B.program c = B'.program c) : Runs B' P l Q := by
  induction run with
  | refl => exact .refl _
  | @tail Q R l e run step ih =>
    refine .tail (ih fun i c he => same i c (List.mem_append_left _ he)) ?_
    refine step.of_program_eq fun c hc => same e.1 c (List.mem_append_right _ ?_)
    rw [← hc]
    exact List.mem_singleton_self _

end Pool

/-- A board with another lower half in one place. -/
def Board.withLower (B : Board σ) (h : LowerId) (g : LowerHalf σ) : Board σ :=
  { B with lower := update B.lower h g }

/-- Boards that differ in the operations of one lower half have the same programs for all other
calls. -/
lemma Board.program_withLower {B : Board σ} {h : LowerId} {g : LowerHalf σ}
    (provided : g.provided = (B.lower h).provided) (discard : g.discard = (B.lower h).discard)
    {c : Call} (agree : ∀ k s o args, c = .peer (.operate k h s o args) →
      g.operate s o args = (B.lower h).operate s o args) :
    (B.withLower h g).program c = B.program c := by
  have there (j : LowerId) : ((B.withLower h g).lower j).provided = (B.lower j).provided ∧
      ((B.withLower h g).lower j).discard = (B.lower j).discard := by
    by_cases hj : j = h
    · subst hj
      simp [withLower, provided, discard]
    · simp [withLower, update_of_ne _ _ hj]
  cases c with
  | service c => rfl
  | routine c => rfl
  | peer c =>
    refine congrArg Reaction.action ?_
    cases c with
    | operate k j s o args =>
      by_cases hj : j = h
      · subst hj
        simpa [reaction, withLower] using agree k s o args rfl
      · simp [reaction, withLower, update_of_ne _ _ hj]
    | provided j => exact (there j).1
    | discard j => exact (there j).2
    | enter | leave | checkWait | relax | log | publish => rfl

/-! ## Boards with a table -/

namespace Board

variable {B : Board σ} {h : LowerId} {set : OpSet} {depth : Nat} {w : World σ}

/-- A call whose reaction is to answer at once changes nothing and makes no calls. -/
lemma perform_of_pure {c : Peer} {x : c.Answer} (answers : B.reaction c = pure x) :
    B.perform (depth + 1) (.peer c) w = .ok ⟨x, w, [.node (.peer c) w x w []]⟩ := by
  refine perform_succ_iff.mpr ⟨⟨x, w, []⟩, ?_, rfl⟩
  have program : B.program (.peer c) = (pure x : Reaction σ c.Answer).action :=
    congrArg Reaction.action answers
  rw [program]
  exact run_done _ _ _ _

/-- A party that runs alone registers a device only with a lower half that provides all
operations. -/
lemma complete_of_registered {r : RegistrationRequest} {s : SessionId} {x : Outcome σ Registration}
    (provides : (B.lower r.lower).provided = pure set)
    (hx : B.perform depth (.service (.register r)) w = .ok x)
    (registered : x.result = .registered s) :
    OpSet.Complete set := by
  cases depth with
  | zero => exact absurd hx perform_zero_ne
  | succ depth =>
    obtain ⟨ts, registers, -⟩ := perform_register_iff.mp hx
    rw [registered] at registers
    cases registers with
    | registered _ _ provided complete _ _ =>
      cases depth with
      | zero => exact absurd provided perform_zero_ne
      | succ depth =>
        have told := (perform_of_pure (c := .provided r.lower) provides).symm.trans provided
        obtain rfl : set = _ := congrArg Outcome.result (Except.ok.inj told)
        exact complete

end Board

/-- A failed operation leaves what it was given as it was. -/
lemma Operation.left_failed (o : Operation) (e : DeviceError) (args : o.Args) :
    o.left args (o.failed e args) = args := by
  cases o <;> rfl

namespace Pool

variable {B : Board σ} {P : Pool n σ α} {l : List (Fin n × Label σ)} {own : σ}
  {clients : Fin n → Reaction σ α} {i : Fin n} {h : LowerId} {t : OperationTable σ}

/-- An operation without an entry is never called. -/
lemma Runs.filled_of_operated (run : Runs B (start own clients) l P)
    (provides : (B.lower h).provided = pure t.provided) {c : Caller} {s : SessionId} {o : Operation}
    {args : o.Args} (he : (i, .called (.peer (.operate c h s o args))) ∈ l) :
    (t o).isSome = true := by
  obtain ⟨created, lower⟩ := run.lower_of_operated he
  exact OperationTable.complete_provided_iff.mp (run.complete_of_issued provides created lower) o

/-- What stands in the place of an entry that is not filled makes no difference to any run. -/
lemma runs_iff_of_wired {discard : Reaction σ Unit}
    {bodies : SessionId → (o : Operation) → o.Args → Reaction σ o.Answer}
    (wired : B.lower h = LowerHalf.ofTable t discard)
    (agree : ∀ o entry, t o = some entry → ∀ s, bodies s o = entry s) :
    Runs B (start own clients) l P ↔
      Runs (B.withLower h ⟨pure t.provided, bodies, discard⟩) (start own clients) l P := by
  have provides : (B.lower h).provided = pure t.provided := by rw [wired]; rfl
  have provides' : ((B.withLower h ⟨pure t.provided, bodies, discard⟩).lower h).provided =
      pure t.provided := by simp [Board.withLower]
  have same {c : Call} (filled : ∀ k s o args, c = .peer (.operate k h s o args) →
      (t o).isSome = true) :
      (B.withLower h ⟨pure t.provided, bodies, discard⟩).program c = B.program c := by
    refine Board.program_withLower provides.symm (by rw [wired]; rfl) ?_
    rintro k s o args rfl
    obtain ⟨entry, he⟩ := Option.isSome_iff_exists.mp (filled k s o args rfl)
    rw [wired, LowerHalf.operate_of_filled he]
    exact congrFun (agree o entry he s) args
  constructor
  · intro run
    refine run.of_program_eq fun i c he => (same ?_).symm
    rintro k s o args rfl
    exact run.filled_of_operated provides he
  · intro run
    refine run.of_program_eq fun i c he => same ?_
    rintro k s o args rfl
    exact run.filled_of_operated provides' he

end Pool

/-- A lower half made of a table, shared any number of times, is wired as its table says.  It
provides the operations whose entries are filled, each of these is its entry, and each other fails
as unsupported and does nothing at all.  A device is registered with it only if all entries are
filled.  In a run the entries that are not filled are never called, and any lower half with the same
bodies has the same runs; once a device is registered with it, it is the lower half with these
bodies that provides everything. -/
theorem tableDriver_wiring (B : Board σ) (h : LowerId) (t : OperationTable σ)
    (discard : Reaction σ Unit) (k : Nat)
    (wired : B.lower h = LowerHalf.shared^[k] (LowerHalf.ofTable t discard)) :
    (∀ g : LowerHalf σ, (LowerHalf.shared^[k] g).provided = g.provided ∧
      ∀ s o args, (LowerHalf.shared^[k] g).operate s o args = g.operate s o args) ∧
    (B.lower h).provided = pure t.provided ∧
    (∀ i, t.provided.has i = true ↔ ∃ o : Operation, (t o).isSome = true ∧ o.index = i) ∧
    (∀ c o entry, t o = some entry → ∀ s args, B.reaction (.operate c h s o args) = entry s args) ∧
    (∀ c o, t o = none → ∀ depth s args w,
      B.perform (depth + 1) (.peer (.operate c h s o args)) w =
        .ok ⟨o.failed .unsupported args, w,
          [.node (.peer (.operate c h s o args)) w (o.failed .unsupported args) w []]⟩ ∧
      o.error? (o.failed .unsupported args) = some .unsupported ∧
      o.left args (o.failed .unsupported args) = args) ∧
    (∀ depth r w x s, r.lower = h → B.perform depth (.service (.register r)) w = .ok x →
      x.result = .registered s → ∀ o, (t o).isSome = true) ∧
    ∀ (n : Nat) (α : Type) (own : σ) (clients : Fin n → Reaction σ α) (l : List (Fin n × Label σ))
      (P : Pool n σ α) (bodies : SessionId → (o : Operation) → o.Args → Reaction σ o.Answer),
      (∀ o entry, t o = some entry → ∀ s, bodies s o = entry s) →
      (Pool.Runs B (Pool.start own clients) l P ↔
        Pool.Runs (B.withLower h ⟨pure t.provided, bodies, discard⟩) (Pool.start own clients) l P) ∧
      (Pool.Runs B (Pool.start own clients) l P →
        (∀ i c s o args, (i, .called (.peer (.operate c h s o args))) ∈ l → (t o).isSome = true) ∧
        ∀ i r w s d, (i, .returned (.service (.register r)) w (.registered s) d) ∈ l → r.lower = h →
          (∀ o, (t o).isSome = true) ∧ B = B.withLower h (LowerHalf.direct bodies discard)) := by
  rw [LowerHalf.shared_iterate] at wired
  have provides : (B.lower h).provided = pure t.provided := by rw [wired]; rfl
  refine ⟨?_, provides, fun i => OperationTable.has_provided_iff, ?_, ?_, ?_, ?_⟩
  · intro g
    rw [LowerHalf.shared_iterate]
    exact ⟨rfl, fun _ _ _ => rfl⟩
  · intro c o entry filled s args
    simp only [Board.reaction, wired]
    exact LowerHalf.operate_of_filled filled s args
  · intro c o empty depth s args w
    refine ⟨Board.perform_of_pure ?_, o.error?_failed _ _, o.left_failed _ _⟩
    simp only [Board.reaction, wired]
    exact LowerHalf.operate_of_empty empty s args
  · rintro depth r w x s rfl hx registered
    exact OperationTable.complete_provided_iff.mp
      (Board.complete_of_registered provides hx registered)
  · intro n α own clients l P bodies agree
    refine ⟨Pool.runs_iff_of_wired wired agree, fun run => ⟨?_, ?_⟩⟩
    · intro i c s o args he
      exact run.filled_of_operated provides he
    · rintro i r w s d he rfl
      have filled :=
        OperationTable.complete_provided_iff.mp (run.complete_of_registered provides he)
      refine ⟨filled, ?_⟩
      unfold Board.withLower
      rw [← LowerHalf.ofTable_eq_direct agree filled, ← wired, update_eq_self]

/-- The table with the operations of a lower half for entries. -/
def OperationTable.ofLower (g : LowerHalf σ) : OperationTable σ :=
  fun o => some fun s => g.operate s o

/-- A board with a lower half made of a table with all entries, behind two shared handles. -/
def Board.tabled : Board Unit :=
  (Board.obedient (pure (.ok ()))).withLower 0
    (LowerHalf.shared^[2]
      (LowerHalf.ofTable (.ofLower (LowerHalf.obedient (pure (.ok ())))) (pure ())))

/-- A client that registers a device and stops it. -/
def Service.stopping : Reaction Unit Unit :=
  inTurn [.register ⟨"/dev/led", 0, 0, Config.default, none⟩, .command 0 .stop]

/-- On the board with the table, the device is registered and stopped by the entry for it, as on the
board with the lower half itself. -/
theorem tableDriver_wiring_shared :
    ∃ (l : List (Fin 1 × Label Unit)) (P : Pool 1 Unit Unit),
      Pool.Runs Board.tabled (Pool.start () fun _ => Service.stopping) l P ∧
      (0, .called (.peer (.operate .driver 0 0 .stop ()))) ∈ l ∧
      (OperationTable.ofLower (LowerHalf.obedient (pure (.ok ()) : Reaction Unit _)) .stop).isSome =
        true ∧
      Board.tabled = Board.tabled.withLower 0
        (LowerHalf.direct (LowerHalf.obedient (pure (.ok ()))).operate (pure ())) := by
  have h : ((Pool.start () fun _ => Service.stopping : Pool 1 Unit Unit).play Board.tabled
      (.replicate 15 0)).isSome := rfl
  obtain ⟨l, P, run, ⟨w, d, registered⟩, stopped⟩ :
      ∃ (l : List (Fin 1 × Label Unit)) (P : Pool 1 Unit Unit),
        Pool.Runs Board.tabled (Pool.start () fun _ => Service.stopping) l P ∧
          (∃ w d, (0, .returned (.service (.register ⟨"/dev/led", 0, 0, Config.default, none⟩)) w
            (.registered 0) d) ∈ l) ∧
          (0, .called (.peer (.operate .driver 0 0 .stop ()))) ∈ l :=
    ⟨_, _, Pool.runs_of_isSome h, ⟨_, _, List.mem_of_getElem? (i := 9) rfl⟩,
      List.mem_of_getElem? (i := 12) rfl⟩
  obtain ⟨-, -, -, -, -, -, runs⟩ := tableDriver_wiring Board.tabled 0
    (.ofLower (LowerHalf.obedient (pure (.ok ())))) (pure ()) 2 rfl
  obtain ⟨-, called⟩ := runs 1 Unit () _ l P (LowerHalf.obedient (pure (.ok ()))).operate
    fun o entry filled s => congrFun (Option.some.inj filled) s
  obtain ⟨operated, accepted⟩ := called run
  exact ⟨l, P, run, stopped, operated 0 _ 0 _ () stopped, (accepted 0 _ w 0 d registered rfl).2⟩

end LedDriver
