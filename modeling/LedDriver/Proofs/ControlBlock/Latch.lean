import LedDriver.Proofs.System.Turns

/-!
# Latches

The limits and the parameters of a control block are latches: each is stored with a lock of its own,
and once the lock is set the value can never be stored again.

`Latch` treats the two alike.  A locked latch survives every method, and a store that meets it is
denied and leaves the whole block as it is (`ControlMethod.apply_of_locked`).  Since a control block
changes by its methods alone, the same holds of every atom and along every run (`Runs.stored_eq`):
whatever the clients and the lower halves do, in whatever order and at whatever depth, a lock is set
at most once and what was locked stays (`Runs.latch_holds`).
-/

namespace LedDriver

/-- A part of the control block with a lock of its own. -/
inductive Latch where
  | limits
  | params
deriving DecidableEq

namespace Latch

/-- What a latch stores. -/
@[reducible]
def Value : Latch → Type
  | limits => Limits
  | params => Params

/-- What is stored in a latch of a block, with its lock. -/
def stored : (k : Latch) → ControlBlock → k.Value
  | limits, b => b.limits
  | params, b => b.params

/-- A value with its lock set. -/
def isLocked : (k : Latch) → k.Value → Bool
  | limits, v => v.lock
  | params, v => v.lock

/-- The latch of a block is locked. -/
def Locked (k : Latch) (b : ControlBlock) : Prop := k.isLocked (k.stored b) = true

instance (k : Latch) (b : ControlBlock) : Decidable (k.Locked b) :=
  inferInstanceAs (Decidable (_ = true))

/-- The lock is part of what is stored. -/
lemma Locked.of_stored_eq {k : Latch} {b c : ControlBlock} (h : k.Locked b)
    (same : k.stored c = k.stored b) : k.Locked c := by
  unfold Locked
  rw [same]
  exact h

end Latch

namespace ControlMethod

/-- The latch that a method stores to. -/
def latch? : ControlMethod → Option Latch
  | storeLimits _ => some .limits
  | storeParams _ => some .params
  | _ => none

/-- The answer of a store that was denied. -/
def Denied : (m : ControlMethod) → m.Answer → Prop
  | storeLimits _, r | storeParams _, r => r = .error .permissionDenied
  | _, _ => False

/-- The method stores a value with the lock set, and succeeds. -/
def locks (k : Latch) : (m : ControlMethod) → m.Answer → Bool
  | storeLimits v, .ok () => k == .limits && v.lock
  | storeParams v, .ok () => k == .params && v.lock
  | _, _ => false

variable {k : Latch} {b : ControlBlock}

/-- A locked latch survives every method. -/
lemma stored_apply (m : ControlMethod) (h : k.Locked b) : k.stored (m.apply b).2 = k.stored b := by
  cases k with
  | limits => exact apply_limits_of_lock m h
  | params => exact apply_params_of_lock m h

/-- A store to a locked latch is denied and leaves the whole block as it is. -/
lemma apply_of_locked {m : ControlMethod} (hm : m.latch? = some k) (h : k.Locked b) :
    m.Denied (m.apply b).1 ∧ (m.apply b).2 = b := by
  cases m <;> cases hm <;>
    simp only [apply, Denied, Latch.Locked, Latch.isLocked, Latch.stored] at h ⊢ <;> simp [h]

/-- A method that sets a lock stores to that latch. -/
lemma latch?_of_locks {m : ControlMethod} {x : m.Answer} (h : m.locks k x = true) :
    m.latch? = some k := by
  unfold locks at h
  split at h <;> simp_all [latch?]

/-- A store that is denied sets no lock. -/
lemma locks_of_denied {m : ControlMethod} {x : m.Answer} (h : m.Denied x) :
    m.locks k x = false := by
  unfold Denied at h
  split at h
  · subst h
    rfl
  · subst h
    rfl
  · exact h.elim

/-- A method that sets a lock leaves the latch locked. -/
lemma locked_apply {m : ControlMethod} (h : m.locks k (m.apply b).1 = true) :
    k.Locked (m.apply b).2 := by
  have hm := latch?_of_locks h
  by_cases hb : k.Locked b
  · rw [locks_of_denied (apply_of_locked hm hb).1] at h
    cases h
  · cases m <;> cases hm <;>
      simp_all [apply, locks, Latch.Locked, Latch.isLocked, Latch.stored]

end ControlMethod

variable {σ α : Type} {n : Nat}

/-! ## Latches and atoms -/

namespace Atom.Performs

variable {w w' : World σ} {a : Atom σ} {x : a.Answer} {s : SessionId} {k : Latch}

/-- A locked latch survives every atom. -/
lemma stored_eq (h : a.Performs w x w') (hw : w.Blank) (locked : k.Locked (w.block s)) :
    k.stored (w'.block s) = k.stored (w.block s) := by
  by_cases ha : ∃ m, a = .control s m
  · obtain ⟨m, rfl⟩ := ha
    rw [h.of_control.2]
    exact ControlMethod.stored_apply m locked
  · rw [h.block_eq hw fun m hm => ha ⟨m, hm⟩]

/-- A store to a locked latch is denied and leaves the whole block as it is. -/
lemma denied {m : ControlMethod} {x : m.Answer} (h : (Atom.control s m).Performs w x w')
    (hm : m.latch? = some k) (locked : k.Locked (w.block s)) :
    m.Denied x ∧ w'.block s = w.block s := by
  obtain ⟨rfl, hb⟩ := h.of_control
  rw [hb]
  exact ControlMethod.apply_of_locked hm locked

end Atom.Performs

/-- The deed sets the lock of a latch of a session. -/
def Deed.locks (s : SessionId) (k : Latch) : Deed σ → Bool
  | .acted (.control t m) x => t == s && m.locks k x
  | _ => false

/-- The call sets the lock of a latch of a session, and reports that it did. -/
def Label.reportsLock (s : SessionId) (k : Latch) : Label σ → Bool
  | .returned (.service (.control t m)) _ x _ => t == s && m.locks k x
  | _ => false

/-- An atom that sets a lock finds the latch unlocked and leaves it locked. -/
lemma Deed.locks_acted {w w' : World σ} {a : Atom σ} {x : a.Answer} {s : SessionId} {k : Latch}
    (h : a.Performs w x w') (hd : (Deed.acted a x).locks s k = true) :
    ¬ k.Locked (w.block s) ∧ k.Locked (w'.block s) := by
  cases a <;> try cases hd
  next t m =>
    obtain ⟨ht, hm⟩ : t = s ∧ m.locks k x = true := by simpa [Deed.locks] using hd
    subst ht
    refine ⟨fun locked => ?_, ?_⟩
    · rw [ControlMethod.locks_of_denied
        (h.denied (ControlMethod.latch?_of_locks hm) locked).1] at hm
      cases hm
    · obtain ⟨rfl, hb⟩ := h.of_control
      rw [hb]
      exact ControlMethod.locked_apply hm

/-! ## Latches along runs -/

namespace Session

/-- A use of a control block that ended has used it once, under the lock. -/
lemma control_record {s : SessionId} {m : ControlMethod} {d : List (Deed σ)} {r : m.Answer}
    (h : Follows (control s m) d (.done r)) :
    d = [.acted (.acquire (.control s)) (), .acted (.control s m) r,
      .acted (.release (.control s)) ()] := by
  obtain ⟨_, d₁, rfl, h₁⟩ := h.of_atom
  obtain ⟨x, d₂, rfl, h₂⟩ := h₁.of_atom
  obtain ⟨_, d₃, rfl, h₃⟩ := h₂.of_atom
  obtain ⟨rfl, rfl⟩ := h₃.of_done
  rfl

end Session

namespace Pool

variable {B : Board σ} {P Q : Pool n σ α} {l l' : List (Fin n × Label σ)} {own : σ}
  {clients : Fin n → Reaction σ α} {s : SessionId} {k : Latch}

/-- What was locked stays as it is for the rest of a run. -/
theorem Runs.stored_eq (run : Runs B (start own clients) l P) (later : Runs B P l' Q)
    (locked : k.Locked (P.world.block s)) :
    k.stored (Q.world.block s) = k.stored (P.world.block s) := by
  induction later with
  | refl => rfl
  | @tail Q R l' e later step ih =>
    obtain ⟨i, e⟩ := e
    rcases step.world_eq with ⟨a, x, -, ha⟩ | ⟨-, hw⟩
    · rw [ha.stored_eq (run.trans later).blank (locked.of_stored_eq ih), ih]
    · rw [hw, ih]

lemma Runs.locked (run : Runs B (start own clients) l P) (later : Runs B P l' Q)
    (locked : k.Locked (P.world.block s)) : k.Locked (Q.world.block s) :=
  locked.of_stored_eq (run.stored_eq later locked)

/-- In a run a lock is set at most once, and not at all while the latch is unlocked. -/
lemma Runs.countP_locks (run : Runs B (start own clients) l P) :
    (performed l).countP (Deed.locks s k) ≤ if k.Locked (P.world.block s) then 1 else 0 := by
  induction run with
  | refl => exact Nat.zero_le _
  | @tail Q R l e run step ih =>
    obtain ⟨i, e⟩ := e
    have kept (h : k.Locked (Q.world.block s)) : k.Locked (R.world.block s) :=
      run.locked (.tail (.refl Q) step) h
    rw [performed_snoc, List.countP_append]
    by_cases first : 0 < e.performed.countP (Deed.locks s k)
    · -- The lock is set in this step, so it was not set before.
      rcases step.world_eq with ⟨a, x, rfl, ha⟩ | ⟨he, -⟩
      · obtain ⟨y, hy, hd⟩ := List.countP_pos_iff.mp first
        obtain rfl := List.mem_singleton.mp hy
        obtain ⟨unlocked, locked⟩ := Deed.locks_acted ha hd
        have one : (Label.acted a x).performed.countP (Deed.locks s k) = 1 := by
          simp [Label.performed, hd]
        rw [if_neg unlocked] at ih
        rw [if_pos locked, one]
        omega
      · cases e with
        | acted a x => exact absurd rfl (he a x)
        | called c => cases first
        | «returned» c w x d => cases first
    · by_cases h : k.Locked (Q.world.block s)
      · rw [if_pos h] at ih
        rw [if_pos (kept h)]
        omega
      · rw [if_neg h] at ih
        omega

/-- A call that reports that it set a lock has done so. -/
lemma Runs.countP_reportsLock (run : Runs B (start own clients) l P) :
    l.countP (fun e => e.2.reportsLock s k) ≤ (performed l).countP (Deed.locks s k) := by
  refine run.countP_le_performed (fun _ _ => rfl) ?_
  rintro ⟨i, e⟩ he h
  simp only [Label.reportsLock] at h
  split at h
  · next t m _ r d =>
    have record := Session.control_record (run.follows_of_returned he)
    simp only [Label.deeds, record]
    simp_all [Deed.locks]
  · cases h

/-- A call that begins with a latch locked finds it with the same value throughout: its snapshots
show that value, and its stores to the latch are denied. -/
lemma frameInvariant_locked (s : SessionId) (k : Latch) :
    FrameInvariant (σ := σ) fun w w₀ d => k.Locked (w₀.block s) →
      k.stored (w.block s) = k.stored (w₀.block s) ∧
        (∀ m x, Deed.acted (.control s m) x ∈ d → m.latch? = some k → m.Denied x) ∧
        ∀ b, Deed.acted (.control s .snapshot) b ∈ d → k.stored b = k.stored (w₀.block s) where
  start w locked :=
    ⟨rfl, fun _ _ h => absurd h List.not_mem_nil, fun _ h => absurd h List.not_mem_nil⟩
  others ha hw w₀ d h locked := by
    obtain ⟨same, denied, shown⟩ := h locked
    exact ⟨(ha.stored_eq hw (locked.of_stored_eq same)).trans same, denied, shown⟩
  acted {w a x w'} ha hw w₀ d h locked := by
    obtain ⟨same, denied, shown⟩ := h locked
    have now := locked.of_stored_eq same
    refine ⟨(ha.stored_eq hw now).trans same, fun m y hy hm => ?_, fun b hb => ?_⟩
    · rcases List.mem_append.mp hy with hy | hy
      · exact denied m y hy hm
      · cases List.mem_singleton.mp hy
        exact (ha.denied hm now).1
    · rcases List.mem_append.mp hb with hb | hb
      · exact shown b hb
      · cases List.mem_singleton.mp hb
        rw [ha.of_control.1]
        exact same
  received w w₀ d c x h locked := by
    obtain ⟨same, denied, shown⟩ := h locked
    refine ⟨same, fun m y hy hm => denied m y ?_ hm, fun b hb => shown b ?_⟩
    · simpa using hy
    · simpa using hb

/-- As long as a program remembers a snapshot that shows a latch locked, the latch is as it is
shown. -/
lemma frameInvariant_snapshot (s : SessionId) (k : Latch) :
    FrameInvariant (σ := σ) fun w _ d => ∀ b, Deed.acted (.control s .snapshot) b ∈ d →
      k.Locked b → k.stored (w.block s) = k.stored b where
  start w b hb := absurd hb List.not_mem_nil
  others ha hw w₀ d h b hb locked := by
    have same := h b hb locked
    exact (ha.stored_eq hw (locked.of_stored_eq same)).trans same
  acted {w a x w'} ha hw w₀ d h b hb locked := by
    rcases List.mem_append.mp hb with hb | hb
    · have same := h b hb locked
      exact (ha.stored_eq hw (locked.of_stored_eq same)).trans same
    · cases List.mem_singleton.mp hb
      obtain ⟨rfl, left⟩ := ha.of_control
      rw [left]
      rfl
  received w w₀ d c x h b hb locked := h b (by simpa using hb) locked

/-- Latches are one-way: in every run a lock is set at most once, by one atom and in one call; what
is locked stays as it is; and from then on every store is denied and leaves the whole control block
as it is. -/
theorem Runs.latch_holds (run : Runs B (start own clients) l P) (later : Runs B P l' Q)
    (s : SessionId) (k : Latch) :
    (performed (l ++ l')).countP (Deed.locks s k) ≤ 1 ∧
      (l ++ l').countP (fun e => e.2.reportsLock s k) ≤ 1 ∧
      (k.Locked (P.world.block s) →
        k.stored (Q.world.block s) = k.stored (P.world.block s) ∧
          ∀ i m x R, Step B Q (i, .acted (.control s m) x) R → m.latch? = some k →
            m.Denied x ∧ R.world.block s = Q.world.block s) ∧
      ∀ i m w x d, (i, Label.returned (.service (.control s m)) w x d) ∈ l ++ l' →
        m.latch? = some k → k.Locked (w.block s) → m.Denied x := by
  have whole := run.trans later
  have once : (performed (l ++ l')).countP (Deed.locks s k) ≤ 1 := by
    refine whole.countP_locks.trans ?_
    split <;> omega
  refine ⟨once, whole.countP_reportsLock.trans once,
    fun locked => ⟨run.stored_eq later locked, ?_⟩, ?_⟩
  · intro i m x R step hm
    exact step.performs.denied hm (run.locked later locked)
  · intro i m w x d he hm locked
    obtain ⟨_, _, R, _, -, before, step, -⟩ := whole.exists_step he
    obtain ⟨frame, hf⟩ := before.frame_of_return step
    obtain ⟨-, denied, -⟩ := before.frame_of_progress (frameInvariant_locked s k) frame locked
    refine denied m x ?_ hm
    rw [Session.control_record hf]
    simp

/-- A client that registers a device and stores two limits with the lock set, one after the
other. -/
def lockingTwice : Reaction Unit Unit := do
  let _ ← (Service.register ⟨"/dev/led", 0, 0, Config.default, none⟩).use
  let _ ← (Service.control 0 (.storeLimits ⟨⟨0x3F800000⟩, true⟩)).use
  let _ ← (Service.control 0 (.storeLimits ⟨⟨0x40000000⟩, true⟩)).use
  pure ()

/-- After the first of two stores with the lock set, the second is denied and the first stays. -/
theorem latch_holds_lockingTwice :
    ∃ (l l' : List (Fin 1 × Label Unit)) (P Q : Pool 1 Unit Unit),
      Runs (.obedient (pure (.ok ()))) (start () fun _ => lockingTwice) l P ∧
        Runs (.obedient (pure (.ok ()))) P l' Q ∧
        (l ++ l').countP (fun e => e.2.reportsLock 0 .limits) = 1 ∧
        (P.world.block 0).limits = ⟨⟨0x3F800000⟩, true⟩ ∧
        (Q.world.block 0).limits = (P.world.block 0).limits := by
  let B : Board Unit := .obedient (pure (.ok ()))
  let P₀ : Pool 1 Unit Unit := start () fun _ => lockingTwice
  have h₁ : (P₀.play B (.replicate 15 0)).isSome := rfl
  have h₂ : (((P₀.play B (.replicate 15 0)).get h₁).2.play B (.replicate 5 0)).isSome := rfl
  have first := runs_of_isSome h₁
  have second := runs_of_isSome h₂
  obtain ⟨-, -, stays, -⟩ := first.latch_holds second 0 .limits
  exact ⟨_, _, _, _, first, second, rfl, rfl, (stays rfl).1⟩

end Pool

end LedDriver
