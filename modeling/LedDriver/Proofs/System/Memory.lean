import Mathlib.Tactic.Common
import LedDriver.System.Interleaving

/-!
# The memory of a session

Each session has a memory of its own: its control block with the lock, its open count and the guard
of that count.  An atom changes the memory of the session that it belongs to and no other
(`Performs.memory_eq`), since the memory of a session that was not created yet is as it will be when
the session is created (`World.Blank`).  Hence a control block changes by its methods alone
(`Performs.block_eq`), an open count by being stored (`Performs.count_eq`), and the permits of a
guard by an exchange or a post (`Performs.guard_eq`).  What was fixed when a session was created
never changes (`Performs.issued_le`).
-/

namespace LedDriver

variable {σ : Type}

/-- What belongs to one session. -/
structure Memory where
  control : SpinLock ControlBlock
  count : UInt8
  guard : Semaphore

/-- The memory of a new session: a new control block, no reference, a free guard. -/
def Memory.new : Memory := ⟨SpinLock.free ControlBlock.initial, 0, ⟨1⟩⟩

namespace World

/-- The memory of a session. -/
def memory (w : World σ) (s : SessionId) : Memory :=
  ⟨w.control s, w.count s, w.semaphore (.guard s)⟩

/-- The control block of a session. -/
def block (w : World σ) (s : SessionId) : ControlBlock := (w.control s).value

/-- The sessions that were not created have the memory of a new session. -/
def Blank (w : World σ) : Prop := ∀ s, w.issued ≤ s → w.memory s = Memory.new

lemma blank_initial (own : σ) : (World.initial own).Blank := fun _ _ => rfl

/-- A new session changes nothing for those that exist. -/
lemma memory_create_of_lt (w : World σ) (p : Profile) {s : SessionId} (h : s < w.issued) :
    (w.create p).memory s = w.memory s := by simp [memory, create, update, Nat.ne_of_lt h]

lemma memory_create (w : World σ) (p : Profile) (h : w.Blank) (s : SessionId) :
    (w.create p).memory s = w.memory s := by
  by_cases hs : s = w.issued
  · subst hs
    rw [h _ (Nat.le_refl _)]
    simp [memory, create, Memory.new]
  · simp [memory, create, update, hs]

end World

/-- An atom that takes effect belongs to a session that was created, if it belongs to one. -/
lemma Atom.apply_eq_ok_iff {a : Atom σ} {w : World σ} {r : a.Answer × World σ} :
    a.apply w = .ok r ↔ (∀ s, a.session? = some s → s < w.issued) ∧ a.effect w = .ok r := by
  unfold apply
  cases a.session? with
  | none => simp
  | some s => by_cases h : s < w.issued <;> simp [h]

namespace Atom.Performs

variable {w w' : World σ} {a : Atom σ} {x : a.Answer} {s : SessionId}

/-- An atom changes no memory but that of its own session, if the creation of a session does not. -/
lemma memory_eq (h : a.Performs w x w') (hw : ∀ p, (w.create p).memory s = w.memory s)
    (hs : a.session? ≠ some s) : w'.memory s = w.memory s := by
  cases h with
  | spurious => rfl
  | effect h =>
    obtain ⟨-, h⟩ := apply_eq_ok_iff.mp h
    have off {t : SessionId} (ht : some t ≠ some s) : s ≠ t := fun e => ht (e ▸ rfl)
    cases a with
    | acquire l =>
      cases l <;> simp only [Atom.effect] at h <;> split at h <;> cases h
      · simp [World.memory, update_of_ne _ _ (off hs)]
      · rfl
    | release l =>
      cases l <;> cases h
      · simp [World.memory, update_of_ne _ _ (off hs)]
      · rfl
    | control t m =>
      cases h
      simp [World.memory, update_of_ne _ _ (off hs)]
    | exchange g seen =>
      simp only [Atom.effect] at h
      split at h <;> cases h
      · cases g with
        | guard t => simp [World.memory, update, off hs]
        | alone i => simp [World.memory, update]
      · rfl
    | post g =>
      cases h
      cases g with
      | guard t => simp [World.memory, update, off hs]
      | alone i => simp [World.memory, update]
    | setCount t v =>
      cases h
      simp [World.memory, update_of_ne _ _ (off hs)]
    | create p =>
      cases h
      exact hw p
    | table | permits | count | profile | own =>
      cases h
      rfl

/-- Sessions are created one after the other, and what was fixed about a session stays. -/
lemma issued_le (h : a.Performs w x w') :
    w.issued ≤ w'.issued ∧ ∀ s < w.issued, w'.profile s = w.profile s := by
  cases h with
  | spurious => exact ⟨Nat.le_refl _, fun _ _ => rfl⟩
  | effect h =>
    obtain ⟨-, h⟩ := apply_eq_ok_iff.mp h
    cases a with
    | acquire l =>
      cases l <;> simp only [Atom.effect] at h <;> split at h <;> cases h <;>
        exact ⟨Nat.le_refl _, fun _ _ => rfl⟩
    | release l => cases l <;> cases h <;> exact ⟨Nat.le_refl _, fun _ _ => rfl⟩
    | exchange g seen =>
      simp only [Atom.effect] at h
      split at h <;> cases h <;> exact ⟨Nat.le_refl _, fun _ _ => rfl⟩
    | create p =>
      cases h
      exact ⟨Nat.le_succ _, fun s hs => update_of_ne _ _ (Nat.ne_of_lt hs)⟩
    | control | table | permits | post | count | setCount | profile | own =>
      cases h
      exact ⟨Nat.le_refl _, fun _ _ => rfl⟩

/-- A session exists from the atom on that creates it. -/
lemma exists_create (h : a.Performs w x w') (new : w.issued ≤ s) (hs : s < w'.issued) :
    ∃ p, a = .create p ∧ w'.profile s = p := by
  cases h with
  | spurious => exact absurd hs (Nat.not_lt.mpr new)
  | effect h =>
    obtain ⟨-, h⟩ := apply_eq_ok_iff.mp h
    cases a with
    | acquire l =>
      cases l <;> simp only [Atom.effect] at h <;> split at h <;> cases h <;>
        exact absurd hs (Nat.not_lt.mpr new)
    | release l => cases l <;> cases h <;> exact absurd hs (Nat.not_lt.mpr new)
    | exchange g seen =>
      simp only [Atom.effect] at h
      split at h <;> cases h <;> exact absurd hs (Nat.not_lt.mpr new)
    | create p =>
      cases h
      obtain rfl : s = w.issued := Nat.le_antisymm (Nat.lt_succ_iff.mp hs) new
      exact ⟨p, rfl, update_self ..⟩
    | control | table | permits | post | count | setCount | profile | own =>
      cases h
      exact absurd hs (Nat.not_lt.mpr new)

/-! ## What single atoms do -/

/-- The use of a control block answers and leaves what the method says. -/
lemma of_control {m : ControlMethod} {x : m.Answer} (h : (Atom.control s m).Performs w x w') :
    x = (m.apply (w.block s)).1 ∧ w'.block s = (m.apply (w.block s)).2 := by
  cases h with
  | effect h =>
    obtain ⟨-, h⟩ := apply_eq_ok_iff.mp h
    cases h
    exact ⟨rfl, by simp [World.block]⟩

/-- A count is stored as it is given. -/
lemma of_setCount {v : UInt8} {x : Unit} (h : (Atom.setCount s v).Performs w x w') :
    w'.count s = v := by
  cases h with
  | effect h =>
    obtain ⟨-, h⟩ := apply_eq_ok_iff.mp h
    cases h
    simp

/-- A count is read as it is. -/
lemma of_count {v : UInt8} (h : (Atom.count s).Performs w v w') : v = w.count s ∧ w' = w := by
  cases h with
  | effect h =>
    obtain ⟨-, h⟩ := apply_eq_ok_iff.mp h
    cases h
    exact ⟨rfl, rfl⟩

/-- What was fixed about a session can be read once the session is created. -/
lemma of_profile {p : Profile} (h : (Atom.profile s).Performs w p w') :
    p = w.profile s ∧ s < w.issued ∧ w' = w := by
  cases h with
  | effect h =>
    obtain ⟨hs, h⟩ := apply_eq_ok_iff.mp h
    cases h
    exact ⟨rfl, hs s rfl, rfl⟩

/-- A session is created with what is to be fixed about it. -/
lemma of_create {p : Profile} {s : SessionId} (h : (Atom.create p).Performs w s w') :
    s < w'.issued ∧ w'.profile s = p := by
  cases h with
  | effect h =>
    obtain ⟨-, h⟩ := apply_eq_ok_iff.mp h
    cases h
    exact ⟨Nat.lt_succ_self _, update_self ..⟩

/-- An exchange takes one permit if it succeeds and none if it fails. -/
lemma of_exchange {g : SemaphoreId} {seen : UInt32} {x : Except UInt32 Unit}
    (h : (Atom.exchange g seen).Performs w x w') :
    (x = .ok () ∧ (w.semaphore g).permits = seen ∧ (w'.semaphore g).permits = seen - 1 ∧
      w'.count = w.count) ∨ ((∃ v, x = .error v) ∧ w' = w) := by
  cases h with
  | spurious => exact .inr ⟨⟨_, rfl⟩, rfl⟩
  | effect h =>
    obtain ⟨-, h⟩ := apply_eq_ok_iff.mp h
    simp only [Atom.effect] at h
    split at h
    · next t ht =>
      cases h
      obtain ⟨hp, rfl⟩ := Semaphore.exchange?_eq_some_iff.mp ht
      exact .inl ⟨rfl, hp, by simp, rfl⟩
    · cases h
      exact .inr ⟨⟨_, rfl⟩, rfl⟩

/-- A post gives one permit back. -/
lemma of_post {g : SemaphoreId} {x : Unit} (h : (Atom.post g).Performs w x w') :
    (w'.semaphore g).permits = (w.semaphore g).permits + 1 ∧ w'.count = w.count := by
  cases h with
  | effect h =>
    obtain ⟨-, h⟩ := apply_eq_ok_iff.mp h
    cases h
    exact ⟨by simp [Semaphore.post], rfl⟩

/-- The surroundings change their state as they do. -/
lemma of_own {f : σ → σ} {x : σ} (h : (Atom.own f).Performs w x w') :
    x = w.own ∧ w'.own = f w.own := by
  cases h with
  | effect h =>
    obtain ⟨-, h⟩ := apply_eq_ok_iff.mp h
    cases h
    exact ⟨rfl, rfl⟩

/-! ## What atoms leave alone -/

/-- Only the surroundings change their state. -/
lemma own_eq (h : a.Performs w x w') (ha : ∀ f, a ≠ .own f) : w'.own = w.own := by
  cases h with
  | spurious => rfl
  | effect h =>
    obtain ⟨-, h⟩ := apply_eq_ok_iff.mp h
    cases a with
    | own f => exact absurd rfl (ha f)
    | acquire l => cases l <;> simp only [Atom.effect] at h <;> split at h <;> cases h <;> rfl
    | release l => cases l <;> cases h <;> rfl
    | exchange g seen =>
      simp only [Atom.effect] at h
      split at h <;> cases h <;> rfl
    | control | table | permits | post | count | setCount | profile | create =>
      cases h
      rfl

/-- An atom leaves alone what it is not made for: the control block unless it uses it, the open
count unless it stores it, and the permits of the guard unless it takes or gives one. -/
lemma leaves (h : a.Performs w x w') (hw : ∀ p, (w.create p).memory s = w.memory s) :
    ((∀ m, a ≠ .control s m) → w'.block s = w.block s) ∧
      ((∀ v, a ≠ .setCount s v) → w'.count s = w.count s) ∧
      ((∀ seen, a ≠ .exchange (.guard s) seen) → a ≠ .post (.guard s) →
        w'.semaphore (.guard s) = w.semaphore (.guard s)) := by
  by_cases hs : a.session? = some s
  · cases h with
    | spurious => exact ⟨fun _ => rfl, fun _ => rfl, fun _ _ => rfl⟩
    | effect h =>
      obtain ⟨-, h⟩ := apply_eq_ok_iff.mp h
      cases a with
      | control t m =>
        cases hs
        cases h
        exact ⟨fun ha => absurd rfl (ha m), fun _ => rfl, fun _ _ => rfl⟩
      | setCount t v =>
        cases hs
        cases h
        exact ⟨fun _ => rfl, fun ha => absurd rfl (ha v), fun _ _ => rfl⟩
      | exchange g seen =>
        cases g
        · cases hs
          simp only [Atom.effect] at h
          split at h <;> cases h <;>
            exact ⟨fun _ => rfl, fun _ => rfl, fun ha => absurd rfl (ha seen)⟩
        · cases hs
      | post g =>
        cases g
        · cases hs
          cases h
          exact ⟨fun _ => rfl, fun _ => rfl, fun _ ha => absurd rfl ha⟩
        · cases hs
      | acquire l =>
        cases l
        · cases hs
          simp only [Atom.effect] at h
          split at h <;> cases h
          next l hl =>
            obtain ⟨-, rfl⟩ := SpinLock.acquire?_eq_some_iff.mp hl
            exact ⟨fun _ => by simp [World.block], fun _ => rfl, fun _ _ => rfl⟩
        · cases hs
      | release l =>
        cases l
        · cases hs
          cases h
          exact ⟨fun _ => by simp [World.block], fun _ => rfl, fun _ _ => rfl⟩
        · cases hs
      | permits | count | profile =>
        cases h
        exact ⟨fun _ => rfl, fun _ => rfl, fun _ _ => rfl⟩
      | create | own | table => cases hs
  · have same := h.memory_eq hw hs
    exact ⟨fun _ => congrArg (·.control.value) same, fun _ => congrArg (·.count) same,
      fun _ _ => congrArg (·.guard) same⟩

/-- An atom that does not use the control block of a session leaves it alone. -/
lemma block_eq (h : a.Performs w x w') (hw : w.Blank) (ha : ∀ m, a ≠ .control s m) :
    w'.block s = w.block s := (h.leaves fun p => w.memory_create p hw s).1 ha

/-- An atom that does not use the control block of a session that was created leaves it alone. -/
lemma block_eq_of_lt (h : a.Performs w x w') (created : s < w.issued) (ha : ∀ m, a ≠ .control s m) :
    w'.block s = w.block s := (h.leaves fun p => w.memory_create_of_lt p created).1 ha

/-- An atom that does not store the open count of a session leaves it alone. -/
lemma count_eq (h : a.Performs w x w') (hw : w.Blank) (ha : ∀ v, a ≠ .setCount s v) :
    w'.count s = w.count s := (h.leaves fun p => w.memory_create p hw s).2.1 ha

/-- An atom that neither takes nor gives a permit of a guard leaves its permits alone. -/
lemma guard_eq (h : a.Performs w x w') (hw : w.Blank) (he : ∀ seen, a ≠ .exchange (.guard s) seen)
    (hp : a ≠ .post (.guard s)) : w'.semaphore (.guard s) = w.semaphore (.guard s) :=
  (h.leaves fun p => w.memory_create p hw s).2.2 he hp

/-- Sessions that were not created keep the memory of a new session. -/
lemma blank (h : a.Performs w x w') (hw : w.Blank) : w'.Blank := by
  intro s hs
  have issued : w.issued ≤ s := Nat.le_trans h.issued_le.1 hs
  rw [← hw s issued]
  cases h with
  | spurious => rfl
  | effect h =>
    refine memory_eq (.effect h) (fun p => w.memory_create p hw s) fun ha => ?_
    exact absurd ((apply_eq_ok_iff.mp h).1 s ha) (Nat.not_lt.mpr issued)

end Atom.Performs

end LedDriver
