import LedDriver.Proofs.Serial.History

/-!
# Stores of the open count

An open count that is stored was computed from an open count that the storing program has read
(`Board.Continues.computed`).  Whoever stores it has the permit, and since nobody else stores a
count meanwhile, what it has read is what the count still is at the store (`Runs.computed`).  So no
update of the count is ever lost.
-/

namespace LedDriver

variable {σ α : Type} {n : Nat}

/-- What an open or a close of a session stores if it finds a count. -/
def Call.Stores (s : SessionId) (p : Profile) (k v : UInt8) : Call → Prop
  | .service (.openDevice u) => u = s ∧ (ReferenceCount.mk k p.config.maxOpens).raised = .ok v
  | .service (.closeDevice u) => u = s ∧ v = (ReferenceCount.mk k p.config.maxOpens).lowered
  | _ => False

/-- If a program with certain deeds asks to store an open count, it has computed the count from one
that it has read. -/
def Request.Computed (s : SessionId) (c : Call) (d : List (Deed σ)) : Request σ → Prop
  | .atom (.setCount u v) => u = s → ∃ p k, Deed.acted (.profile s) p ∈ d ∧
      Deed.acted (.count s) k ∈ d ∧ c.Stores s p k v
  | _ => True

/-- Going on from certain deeds, the program of a call stores only what it has computed. -/
def Program.Computes (s : SessionId) (c : Call) (p : Action σ α) (d : List (Deed σ)) : Prop :=
  p.Obeys (fun d x => d ++ [x]) (fun d q => q.Computed s c d) (fun _ _ => True) d

/-- A program that stores no open count stores only what it has computed. -/
lemma Program.Computes.of_only {s : SessionId} {c : Call} {p : Action σ α}
    (h : p.Only (Request.StoresNot s)) (d : List (Deed σ)) : p.Computes s c d := by
  induction p generalizing d with
  | done a => trivial
  | ask q next ih =>
    refine ⟨?_, fun x => ih x (h.2 x) _⟩
    change q.Computed s c d
    unfold Request.Computed
    split
    · exact fun same => absurd same h.1
    · trivial

namespace Session

variable {s : SessionId} {p : Profile} {d : List (Deed σ)}

/-- An open stores one more than it has read. -/
lemma openHolding_computes (known : .acted (.profile s) p ∈ d) :
    (openHolding s p : Action σ _).Computes s (.service (.openDevice s)) d := by
  refine ⟨trivial, fun k => ?_⟩
  simp only [Program.bind_done]
  split
  · exact ⟨trivial, fun _ => trivial⟩
  · next v raised =>
    have stores (d' : List (Deed σ)) (known : .acted (.profile s) p ∈ d')
        (read : .acted (.count s) k ∈ d') : ((Atom.setCount s v).act >>= fun _ => pure (.ok ()) :
          Action σ (Except DeviceError Unit)).Computes s (.service (.openDevice s)) d' :=
      ⟨fun _ => ⟨p, k, known, read, rfl, raised⟩, fun _ => trivial⟩
    split
    · refine ⟨trivial, fun i => ⟨trivial, fun r => ⟨trivial, fun x => ?_⟩⟩⟩
      cases r with
      | error e => exact ⟨trivial, fun _ => trivial⟩
      | ok _ => exact stores _ (by simp [known]) (by simp [Request.deed])
    · exact stores _ (by simp [known]) (by simp [Request.deed])

/-- Putting the hardware to rest stores what is less than a count that was at most one. -/
lemma shutDown_computes {k : UInt8} (few : ¬ 1 < k) (known : .acted (.profile s) p ∈ d)
    (read : .acted (.count s) k ∈ d) :
    (shutDown s p : Action σ _).Computes s (.service (.closeDevice s)) d := by
  have least : (ReferenceCount.mk k p.config.maxOpens).lowered = 0 := by
    have most : ¬ 1 < k.toNat := fun many => few (UInt8.lt_iff_toNat_lt.mpr many)
    have less := ReferenceCount.toNat_lowered ⟨k, p.config.maxOpens⟩
    apply UInt8.toNat_inj.mp
    rw [less, UInt8.toNat_zero]
    exact Nat.sub_eq_zero_of_le (Nat.not_lt.mp most)
  refine ⟨fun _ => ⟨p, k, known, read, rfl, least.symm⟩, fun x => ?_⟩
  refine Program.Computes.of_only ?_ _
  refine (operateMasked_only s p).bind fun r => ?_
  cases r with
  | error e => exact Program.only_ask trivial fun _ => trivial
  | ok _ => trivial

/-- A close stores one less than it has read. -/
lemma closeHolding_computes (known : .acted (.profile s) p ∈ d) :
    (closeHolding s p : Action σ _).Computes s (.service (.closeDevice s)) d := by
  refine ⟨trivial, fun k => ?_⟩
  simp only [Program.bind_done]
  split
  · refine ⟨trivial, fun m => ⟨fun _ => ⟨p, m, ?_, ?_, rfl, rfl⟩, fun _ => trivial⟩⟩
    · simp [known]
    · simp [Request.deed]
  · next few =>
    split
    · refine ⟨trivial, fun x => ?_⟩
      exact shutDown_computes few (by simp [known]) (by simp [Request.deed])
    · exact shutDown_computes few (by simp [known]) (by simp [Request.deed])

/-- What is done with a permit is done by a program that knows its session. -/
lemma withPermit_computes {c : Call} {body : Profile → Action σ (Except DeviceError Unit)}
    (hb : ∀ p d, .acted (.profile s) p ∈ d → (body p).Computes s c d) :
    ((Atom.profile s).act >>= fun p =>
      Semaphore.withPermit (.guard s) p.platform (body p)).Computes s c [] := by
  refine ⟨trivial, fun p => ⟨trivial, fun r => ?_⟩⟩
  cases r with
  | error e => trivial
  | ok _ =>
    have known : (Deed.acted (.profile s) p : Deed σ) ∈ [.acted (.profile s) p,
        .received (.routine (.wait (.guard s) p.platform)) (.ok ())] := List.mem_cons_self ..
    exact (hb p _ known).bind fun r d _ => ⟨trivial, fun _ => trivial⟩

end Session

/-- A program that stores an open count has computed it from one that it has read. -/
theorem Board.Continues.computed {B : Board σ} {c : Call} {s : SessionId} {d : List (Deed σ)}
    {q : Request σ} (h : B.Continues (some c) d q) (hc : c.session? = some s) :
    q.Computed s c d := by
  obtain ⟨next, follows⟩ := h
  have computes : (B.program c).Computes s c [] := by
    rcases Call.counts_iff.mpr hc with rfl | rfl
    · exact Session.withPermit_computes fun p d => Session.openHolding_computes
    · exact Session.withPermit_computes fun p d => Session.closeHolding_computes
  have whole : d.foldl (fun d x => d ++ [x]) [] = d := by
    rw [List.foldl_append_eq_append, List.nil_append, ← List.flatMap_def, List.flatMap_singleton']
  have left := computes.of_follows follows
  rw [whole] at left
  exact left.1

/-- Where no count is stored, all counts that are read are the same. -/
lemma Path.counts_of_no_store {s : SessionId} {k m : UInt8} {d : List (Deed σ)}
    (h : Path (Deed.Counts s) k d m) (none : ∀ x ∈ d, x.isStore s = false) :
    m = k ∧ ∀ v, Deed.acted (.count s) v ∈ d → v = k := by
  induction d generalizing k with
  | nil => exact ⟨h, fun v hv => absurd hv List.not_mem_nil⟩
  | cons x d ih =>
    obtain ⟨z, first, rest⟩ := h
    rw [List.forall_mem_cons] at none
    have still : z = k ∧ ∀ v, Deed.acted (.count s) v = x → v = k := by
      unfold Deed.Counts at first
      split at first
      · refine ⟨first.1, fun v hv => ?_⟩
        cases hv
        exact first.2 rfl
      · next u v y =>
        have other : u ≠ s := by simpa using none.1
        exact ⟨first.trans (if_neg other), fun v hv => by cases hv⟩
      · next other _ => exact ⟨first, fun v hv => absurd hv.symm (other s v)⟩
    obtain ⟨rfl, read⟩ := still
    obtain ⟨last, reads⟩ := ih rest none.2
    refine ⟨last, fun v hv => ?_⟩
    rcases List.mem_cons.mp hv with hv | hv
    · exact read v hv
    · exact reads v hv

namespace Pool

variable {B : Board σ} {P Q : Pool n σ α} {l : List (Fin n × Label σ)} {own : σ}
  {clients : Fin n → Reaction σ α} {s : SessionId}

/-- A party that stores an open count has computed it from the present one: that is what its open or
close has read, whenever it read the count. -/
theorem Runs.computed (run : Runs B (start own clients) l P) {i : Fin n} {v : UInt8} {x : Unit}
    (step : Step B P (i, .acted (.setCount s v) x) Q) :
    ∃ c w d below, (P.parties i).frames = ⟨some c, w, d, none⟩ :: below ∧
      .acted (.count s) (P.world.count s) ∈ d ∧
      (∀ m, .acted (.count s) m ∈ d → m = P.world.count s) ∧
      c.Stores s (P.world.profile s) (P.world.count s) v := by
  obtain ⟨old, new, below, hold, hnew, others, turn⟩ := run.turn step
  obtain ⟨rest, frames, -⟩ := frames_of_turn hold hnew others
  obtain ⟨es, -, -, account⟩ := run.exists_history s
  generalize hw : Q.world = w' at turn
  cases turn with
  | @act o w _ d _ _ ask ha =>
    simp only [coe_cons_add, coe_nil_add] at frames
    have serves : Frame.Serves s ⟨o, w, d, none⟩ := ask.serves (q := .atom (.setCount s v)) rfl
    obtain ⟨visits, -⟩ := id serves
    obtain ⟨c, rfl, hc⟩ := Option.bind_eq_some_iff.mp visits
    have holding : Phase.of s d = .holding := ask.phase_allows hc
    obtain ⟨p, k, known, read, stores⟩ := ask.computed hc rfl
    rw [frames] at account
    obtain ⟨counts, -⟩ := account.of_serving serves (run.not_serves frames serves.holds)
    obtain ⟨z, -, mine⟩ := Path.append_iff.mp counts
    obtain ⟨next, follows⟩ := ask
    obtain ⟨same, reads⟩ := mine.counts_of_no_store (B.not_isStore_of_holding hc follows holding)
    rw [← same] at reads
    have mem : (⟨some c, w, d, none⟩ : Frame σ) ∈ (P.parties i).frames := by
      rw [hold]
      exact List.mem_cons_self ..
    obtain ⟨-, rfl⟩ := run.profile_known mem known
    obtain rfl := reads k read
    exact ⟨c, w, d, below, hold, read, reads, stores⟩

end Pool

end LedDriver
