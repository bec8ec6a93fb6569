import LedDriver.Proofs.Rejection.Rejected

/-!
# Opens and closes that spare the hardware

An open prepares the hardware only for the first reference, and a close puts it to rest only after
the last one.  `World.Spares` names the cases in which an open or a close has nothing to do with the
hardware: there are references, and will be, or no more are admitted, or no permit is free.  Exactly
then it neither prepares the hardware nor puts it to rest, and it calls no lower half and masks no
interrupts either (`Board.spares_iff`, `Board.idle_of_spares`).
-/

namespace LedDriver

open CallTree

variable {σ τ α : Type} {depth : Nat}

/-- An open or a close that has nothing to do with the hardware: there are references, and will be,
or as many as are admitted, or no permit is free. -/
inductive World.Spares (w : World σ) : Service → Prop
  | opened {s : SessionId} (references : w.count s ≠ 0) : Spares w (.openDevice s)
  | full {s : SessionId} (full : (w.profile s).config.maxOpens.toNat ≤ (w.count s).toNat) :
    Spares w (.openDevice s)
  | openBlocked {s : SessionId} (none : (w.semaphore (.guard s)).permits = 0) :
    Spares w (.openDevice s)
  | closed {s : SessionId} (shared : 1 < w.count s) : Spares w (.closeDevice s)
  | closeBlocked {s : SessionId} (none : (w.semaphore (.guard s)).permits = 0) :
    Spares w (.closeDevice s)

/-- What opens and closes do themselves. -/
def Atom.Counts : Atom σ → Prop
  | .permits _ | .exchange _ _ | .post _ | .count _ | .setCount _ _ | .profile _ => True
  | _ => False

/-- What an open or a close asks for, once it has the permit, if it has nothing to do with the
hardware. -/
def Request.Counts : Request σ → Prop
  | .atom a => a.Counts
  | .call c => ∃ n, c = .peer (.log n)

/-- The work of an open that finds references, or as many as are admitted. -/
lemma Session.openHolding_counts {s : SessionId} {p : Profile} {c : UInt8}
    (spares : c ≠ 0 ∨ p.config.maxOpens.toNat ≤ c.toNat) :
    ∃ f : UInt8 → Action σ (Except DeviceError Unit),
      Session.openHolding s p = (Atom.count s).act >>= f ∧ (f c).Only Request.Counts := by
  refine ⟨_, rfl, ?_⟩
  cases raised : (ReferenceCount.mk c p.config.maxOpens).raised with
  | error e => exact ⟨⟨_, rfl⟩, fun _ => trivial⟩
  | ok next =>
    obtain ⟨least, most⟩ := ReferenceCount.raised_eq_ok_iff.mp raised
    have shared : c ≠ 0 := spares.resolve_right (by simp only at least most; omega)
    have further : next ≠ 1 := mt (ReferenceCount.raised_eq_one_iff raised).2.mp shared
    simp only [if_neg further]
    exact ⟨trivial, fun _ => trivial⟩

/-- The work of a close that leaves references. -/
lemma Session.closeHolding_counts {s : SessionId} {p : Profile} {c : UInt8} (shared : 1 < c) :
    ∃ f : UInt8 → Action σ (Except DeviceError Unit),
      Session.closeHolding s p = (Atom.count s).act >>= f ∧ (f c).Only Request.Counts := by
  refine ⟨_, rfl, ?_⟩
  rw [if_pos shared]
  exact ⟨trivial, fun _ => ⟨trivial, fun _ => trivial⟩⟩

/-! ## Opens and closes that have to do with the hardware -/

/-- The lower half is called to prepare the hardware or to put it to rest. -/
def Call.OnHardware : Call → Prop
  | .peer (.operate _ _ _ .setup _) | .peer (.operate _ _ _ .shutdown _) => True
  | _ => False

lemma Call.OnHardware.acts {c : Call} (h : c.OnHardware) : c.Acts := by
  unfold OnHardware at h
  split at h <;> trivial

namespace Board

variable {B : Board σ} {w : World σ} {s : SessionId} {p : Profile} {view : σ → τ}

lemma exists_operate_of_masked {o : Operation} {args : o.Args} {x : Outcome σ o.Answer}
    (hx : B.run depth (Session.operateMasked s p o args) w = .ok x) :
    ∃ t ∈ x.calls, t.call = .peer (.operate .driver p.lower s o args) := by
  obtain ⟨y, z, -, rest, rfl⟩ := run_call_iff.mp hx
  obtain ⟨u, v, operated, -, rfl⟩ := run_call_iff.mp rest
  obtain ⟨_, inner, -, -, calls⟩ := exists_of_perform operated
  refine ⟨.node _ y.world u.result u.world inner, ?_, rfl⟩
  simp [calls]

/-- The work of an open that finds no reference, where one is admitted, prepares the hardware. -/
lemma exists_onHardware_of_openHolding (none : w.count s = 0)
    (admitted : 0 < p.config.maxOpens.toNat) {x : Outcome σ (Except DeviceError Unit)}
    (hx : B.run depth (Session.openHolding s p) w = .ok x) : ∃ t ∈ x.calls, t.call.OnHardware := by
  have run := run_of_effect hx rfl
  have raised : (ReferenceCount.mk (w.count s) p.config.maxOpens).raised = .ok 1 := by
    rw [none]
    exact ReferenceCount.raised_eq_ok_iff.mpr ⟨rfl, admitted⟩
  simp only [Program.bind_done, raised, if_pos] at run
  obtain ⟨y, z, operated, -, rfl⟩ := run_bind_iff.mp run
  obtain ⟨t, mem, ht⟩ := exists_operate_of_masked operated
  exact ⟨t, List.mem_append_left _ mem, by rw [ht]; trivial⟩

lemma exists_onHardware_of_shutDown {x : Outcome σ (Except DeviceError Unit)}
    (hx : B.run depth (Session.shutDown s p) w = .ok x) : ∃ t ∈ x.calls, t.call.OnHardware := by
  obtain ⟨r, -, run⟩ := run_atom_iff.mp hx
  simp only [Program.bind_done] at run
  obtain ⟨y, z, operated, -, rfl⟩ := run_bind_iff.mp run
  obtain ⟨t, mem, ht⟩ := exists_operate_of_masked operated
  exact ⟨t, List.mem_append_left _ mem, by rw [ht]; trivial⟩

/-- The work of a close that leaves no reference puts the hardware to rest. -/
lemma exists_onHardware_of_closeHolding (last : ¬ 1 < w.count s)
    {x : Outcome σ (Except DeviceError Unit)}
    (hx : B.run depth (Session.closeHolding s p) w = .ok x) : ∃ t ∈ x.calls, t.call.OnHardware := by
  have run := run_of_effect hx rfl
  simp only [Program.bind_done, if_neg last] at run
  split at run
  · obtain ⟨y, z, -, shut, rfl⟩ := run_call_iff.mp run
    obtain ⟨t, mem, ht⟩ := exists_onHardware_of_shutDown shut
    exact ⟨t, List.mem_append_right _ mem, ht⟩
  · exact exists_onHardware_of_shutDown run

/-- An open or a close finds no permit, or does its work with one. -/
lemma blocked_or_worked (waiting : B.WaitingKeeps view)
    {body : Profile → Action σ (Except DeviceError Unit)} {x : Outcome σ (Except DeviceError Unit)}
    (hx : B.run depth ((Atom.profile s).act >>= fun p =>
      Semaphore.withPermit (.guard s) p.platform (body p)) w = .ok x) :
    (w.semaphore (.guard s)).permits = 0 ∨
      ∃ z, B.run depth (body (w.profile s)) (w.taken (.guard s)) = .ok z ∧ z.calls ⊆ x.calls := by
  obtain ⟨-, y, waited, outcome⟩ := run_withPermit hx
  obtain ⟨-, ⟨answer, -, taken⟩ | ⟨-, none, -⟩⟩ := wait_spec waiting waited
  · rcases outcome with ⟨e, failed, -⟩ | ⟨-, z, worked, rfl⟩
    · rw [answer] at failed
      cases failed
    · exact .inr ⟨z, taken ▸ worked, List.subset_append_right ..⟩
  · exact .inl none

/-- An open or a close that was carried out has nothing to do with the hardware if it neither
prepared it nor put it to rest. -/
theorem spares_of_avoid (waiting : B.WaitingKeeps view) {e : Service}
    (counts : e = .openDevice s ∨ e = .closeDevice s) {x : Outcome σ e.Answer}
    (hx : B.perform depth (.service e) w = .ok x)
    (spared : CallTree.Avoid Call.OnHardware x.calls) :
    w.Spares e := by
  obtain ⟨_, inner, rfl, run, calls⟩ := exists_of_perform hx
  have untouched {t : CallTree σ} (ht : t ∈ inner) : ¬ t.call.OnHardware := by
    rw [calls] at spared
    exact spared t (.inside (List.mem_singleton_self _) (.here ht))
  rcases counts with rfl | rfl
  · rcases blocked_or_worked waiting run with none | ⟨z, worked, calls⟩
    · exact .openBlocked none
    · by_cases references : w.count s = 0
      · by_cases full : (w.profile s).config.maxOpens.toNat ≤ (w.count s).toNat
        · exact .full full
        · obtain ⟨t, mem, ht⟩ :=
            exists_onHardware_of_openHolding (w := w.taken (.guard s)) references
              (Nat.zero_lt_of_lt (Nat.lt_of_not_le full)) worked
          exact absurd ht (untouched (calls mem))
      · exact .opened references
  · rcases blocked_or_worked waiting run with none | ⟨z, worked, calls⟩
    · exact .closeBlocked none
    · by_cases shared : 1 < w.count s
      · exact .closed shared
      · obtain ⟨t, mem, ht⟩ :=
          exists_onHardware_of_closeHolding (w := w.taken (.guard s)) shared worked
        exact absurd ht (untouched (calls mem))

/-! ## Opens and closes that have nothing to do with the hardware -/

/-- A program that counts and writes lines of the journal lets no lower half work and masks no
interrupts. -/
lemma idle_of_counting (journal : B.JournalKeeps view) {q : Action σ α}
    (counting : q.Only Request.Counts)
    {x : Outcome σ α} (hx : B.run depth q w = .ok x) : Idle x.calls := by
  induction q generalizing w x with
  | done a =>
    cases run_done_iff.mp hx
    exact idle_nil
  | ask r next ih =>
    cases r with
    | atom a =>
      obtain ⟨r, -, rest⟩ := run_atom_iff.mp hx
      exact ih r.1 (counting.2 r.1) rest
    | call c =>
      obtain ⟨y, z, told, rest, rfl⟩ := run_call_iff.mp hx
      obtain ⟨n, rfl⟩ := counting.1
      obtain ⟨calls, -⟩ := discreet_spec (c := .log n) (journal n) told
      refine Idle.append ?_ (ih y.result (counting.2 y.result) rest)
      rw [calls]
      exact .node id idle_nil

/-- The same after a look at the count. -/
lemma idle_of_count (journal : B.JournalKeeps view) {q : Action σ α}
    (counting : ∃ f : UInt8 → Action σ α, q = (Atom.count s).act >>= f ∧
      (f (w.count s)).Only Request.Counts) {x : Outcome σ α} (hx : B.run depth q w = .ok x) :
    Idle x.calls := by
  obtain ⟨f, rfl, counting⟩ := counting
  have run := run_of_effect hx rfl
  exact idle_of_counting journal counting run

/-- An open or a close lets no lower half work and masks no interrupts if its work does not. -/
lemma idle_of_withPermit (waiting : B.WaitingKeeps view)
    {body : Profile → Action σ (Except DeviceError Unit)} {x : Outcome σ (Except DeviceError Unit)}
    (hx : B.run depth ((Atom.profile s).act >>= fun p =>
      Semaphore.withPermit (.guard s) p.platform (body p)) w = .ok x)
    (work : (w.semaphore (.guard s)).permits ≠ 0 →
      ∀ z, B.run depth (body (w.profile s)) (w.taken (.guard s)) = .ok z → Idle z.calls) :
    Idle x.calls := by
  obtain ⟨-, y, waited, outcome⟩ := run_withPermit hx
  obtain ⟨idle, spec⟩ := wait_spec waiting waited
  rcases outcome with ⟨e, answer, rfl⟩ | ⟨answer, z, worked, rfl⟩
  · exact idle
  · rcases spec with ⟨-, free, taken⟩ | ⟨⟨e, failed⟩, -⟩
    · exact idle.append (work free z (taken ▸ worked))
    · rw [answer] at failed
      cases failed

/-- An open or a close that has nothing to do with the hardware calls no lower half and masks no
interrupts. -/
theorem idle_of_spares (waiting : B.WaitingKeeps view) (journal : B.JournalKeeps view) {e : Service}
    (spares : w.Spares e) {x : Outcome σ e.Answer} (hx : B.perform depth (.service e) w = .ok x) :
    Idle x.calls := by
  obtain ⟨_, inner, rfl, run, calls⟩ := exists_of_perform hx
  rw [calls]
  cases spares with
  | opened references =>
    refine .node id (idle_of_withPermit waiting run fun _ z worked => ?_)
    exact idle_of_count (w := w.taken _) journal
      (Session.openHolding_counts (.inl references)) worked
  | full full =>
    refine .node id (idle_of_withPermit waiting run fun _ z worked => ?_)
    exact idle_of_count (w := w.taken _) journal (Session.openHolding_counts (.inr full)) worked
  | closed shared =>
    refine .node id (idle_of_withPermit waiting run fun _ z worked => ?_)
    exact idle_of_count (w := w.taken _) journal (Session.closeHolding_counts shared) worked
  | openBlocked none | closeBlocked none =>
    exact .node id (idle_of_withPermit waiting run fun free => absurd none free)

/-- An open or a close that was carried out has nothing to do with the hardware exactly if it
neither prepared it nor put it to rest. -/
theorem spares_iff (waiting : B.WaitingKeeps view) (journal : B.JournalKeeps view) {e : Service}
    (counts : e = .openDevice s ∨ e = .closeDevice s) {x : Outcome σ e.Answer}
    (hx : B.perform depth (.service e) w = .ok x) :
    w.Spares e ↔ CallTree.Avoid Call.OnHardware x.calls := by
  refine ⟨fun spares t within hardware => ?_, spares_of_avoid waiting counts hx⟩
  exact idle_of_spares waiting journal spares hx t within hardware.acts

end Board

end LedDriver
