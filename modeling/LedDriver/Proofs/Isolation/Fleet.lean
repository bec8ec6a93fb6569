import LedDriver.Proofs.Locking.Holding
import LedDriver.Proofs.Registration.Table

/-!
# Fleets of devices

Many devices on one board, and two runs in which the same device takes part.

A `Fleet` says what belongs to each device: a path, lower halves, platforms, and a part of the state
of the surroundings.  Two runs know the sessions of a device by different numbers, and `Links` tell
which numbers stand for the same session.  Two worlds mirror each other for a device if all that
belongs to it is the same in both but for these numbers (`Fleet.Mirror`).  What a device does for
itself leads from such worlds to such worlds and leaves everything that belongs to other devices as
it was (`Fleet.Passes`), and each atom on its sessions, its place in the device table and its part
of the state does so (`Fleet.AtomAlike.apply`).
-/

namespace LedDriver

variable {ι σ τ : Type}

/-- Devices on one board: the path of each, its lower halves and platforms, and its part of the
state of the surroundings.  No two devices have the same path. -/
structure Fleet (ι σ τ : Type) where
  path : ι → String
  lower : ι → Nat → LowerId
  platform : ι → Nat → PlatformId
  view : ι → σ → τ
  distinct : Function.Injective path

/-- Which sessions of two runs stand for each other. -/
abbrev Links := SessionId → SessionId → Prop

namespace World

variable {w : World σ} {s : SessionId}

/-- The world with another memory of a session. -/
def touch (w : World σ) (s : SessionId) (k : Memory) : World σ :=
  { w with
    control := update w.control s k.control
    count := update w.count s k.count
    semaphore := update w.semaphore (.guard s) k.guard }

@[simp] lemma memory_touch (w : World σ) (s : SessionId) (k : Memory) :
    (w.touch s k).memory s = k := by simp [memory, touch]

lemma memory_touch_of_ne (w : World σ) (k : Memory) {s t : SessionId} (h : t ≠ s) :
    (w.touch s k).memory t = w.memory t := by simp [memory, touch, update, h]

lemma memory_create_self (w : World σ) (p : Profile) :
    (w.create p).memory w.issued = Memory.new := by
  simp [memory, create, Memory.new]

lemma profile_create (w : World σ) (p : Profile) {s : SessionId} (h : s < w.issued) :
    (w.create p).profile s = w.profile s := by simp [create, update, Nat.ne_of_lt h]

end World

/-- An atom about a session that was created has its effect. -/
lemma Atom.apply_of_created {a : Atom σ} {s : SessionId} (hs : a.session? = some s)
    {w : World σ} (created : s < w.issued) {r : a.Answer × World σ} (effect : a.effect w = .ok r) :
    a.apply w = .ok r := by
  refine Atom.apply_eq_ok_iff.mpr ⟨fun t ht => ?_, effect⟩
  rw [hs] at ht
  cases ht
  exact created

/-- What is published at a path after a node was put to a table is what was published there before,
or else that node. -/
lemma DeviceTable.lookup_insert {ν : Type} {t : DeviceTable ν} {e : DeviceEntry ν} {p : String} :
    DeviceTable.lookup (t.insert e).2 p =
      (t.lookup p).or (if e.path = p then some e.node else none) := by
  rw [lookup, entryAt?_insert, lookup]
  cases t.entryAt? p with
  | some d => rfl
  | none => by_cases h : e.path = p <;> simp [h]

section Option

variable {α β : Type} {r r' : α → β → Prop} {x : Option α} {y : Option β}

lemma optionRel_mono (h : Option.Rel r x y) (weaker : ∀ {a b}, r a b → r' a b) :
    Option.Rel r' x y := by
  cases h with
  | some h => exact .some (weaker h)
  | none => exact .none

lemma optionRel_or_some (h : Option.Rel r x y) {a : α} {b : β} (k : r a b) :
    Option.Rel r (x.or (some a)) (y.or (some b)) := by
  cases h with
  | some h => exact .some h
  | none => exact .some k

end Option

namespace Fleet

variable {F : Fleet ι σ τ} {d : ι} {ρ ρ' ρ'' : Links} {w w' v v' u u' : World σ}

/-- A session made like this belongs to the device. -/
def Owns (F : Fleet ι σ τ) (d : ι) (p : Profile) : Prop :=
  (∃ k, p.lower = F.lower d k) ∧ ∃ k, p.platform = F.platform d k

/-- For a device, two worlds are the same: its sessions, which links pair, what is published at its
path, and its part of the state of the surroundings. -/
structure Mirror (F : Fleet ι σ τ) (d : ι) (ρ : Links) (w w' : World σ) : Prop where
  created : ∀ {s s'}, ρ s s' → s < w.issued ∧ s' < w'.issued
  unique : ∀ {s s' t t'}, ρ s s' → ρ t t' → (s = t ↔ s' = t')
  profile : ∀ {s s'}, ρ s s' → w.profile s = w'.profile s' ∧ F.Owns d (w.profile s)
  memory : ∀ {s s'}, ρ s s' → w.memory s = w'.memory s'
  node : Option.Rel ρ (w.table.value.lookup (F.path d)) (w'.table.value.lookup (F.path d))
  lock : w.table.held = w'.table.held
  view : F.view d w.own = F.view d w'.own

/-- From one world to another, everything was kept that does not belong to a device: the sessions
that are not among its own, what is published at other paths, and the other devices' parts of the
state. -/
structure Kept (F : Fleet ι σ τ) (d : ι) (ρ : Links) (w v : World σ) : Prop where
  issued : w.issued ≤ v.issued
  session : ∀ s < w.issued, (∀ s', ¬ ρ s s') → v.profile s = w.profile s ∧ v.memory s = w.memory s
  node : ∀ p ≠ F.path d, v.table.value.lookup p = w.table.value.lookup p
  lock : v.table.held = w.table.held
  view : ∀ e ≠ d, F.view e v.own = F.view e w.own

/-- From two worlds that mirror each other to two such worlds, the latter with more links, which are
about new sessions.  What belongs to other devices is kept in the first of the two runs. -/
structure Passes (F : Fleet ι σ τ) (d : ι) (ρ ρ' : Links) (w w' v v' : World σ) : Prop where
  mirror : F.Mirror d ρ' v v'
  grows : ρ ≤ ρ'
  fresh : ∀ {s s'}, ρ' s s' → ρ s s' ∨ w.issued ≤ s
  kept : F.Kept d ρ w v

namespace Kept

lemma refl (w : World σ) : F.Kept d ρ w w :=
  ⟨Nat.le_refl _, fun _ _ _ => ⟨rfl, rfl⟩, fun _ _ => rfl, rfl, fun _ _ => rfl⟩

lemma trans (h : F.Kept d ρ w v) (h' : F.Kept d ρ' v u)
    (fresh : ∀ {s s'}, ρ' s s' → ρ s s' ∨ w.issued ≤ s) : F.Kept d ρ w u where
  issued := Nat.le_trans h.issued h'.issued
  session s hs other := by
    obtain ⟨profile, memory⟩ := h.session s hs other
    have still : ∀ s', ¬ ρ' s s' := fun s' linked =>
      (fresh linked).elim (other s') (Nat.not_le_of_lt hs)
    obtain ⟨profile', memory'⟩ := h'.session s (Nat.lt_of_lt_of_le hs h.issued) still
    exact ⟨profile'.trans profile, memory'.trans memory⟩
  node p hp := (h'.node p hp).trans (h.node p hp)
  lock := h'.lock.trans h.lock
  view e he := (h'.view e he).trans (h.view e he)

end Kept

namespace Passes

lemma refl (m : F.Mirror d ρ w w') : F.Passes d ρ ρ w w' w w' := ⟨m, le_rfl, .inl, .refl w⟩

lemma trans (h : F.Passes d ρ ρ' w w' v v') (h' : F.Passes d ρ' ρ'' v v' u u') :
    F.Passes d ρ ρ'' w w' u u' where
  mirror := h'.mirror
  grows := h.grows.trans h'.grows
  fresh linked := by
    rcases h'.fresh linked with linked | new
    · exact h.fresh linked
    · exact .inr (Nat.le_trans h.kept.issued new)
  kept := h.kept.trans h'.kept h.fresh

/-- Two sessions that stand for each other can be given the same memory. -/
lemma touch (m : F.Mirror d ρ w w') {s s' : SessionId} (h : ρ s s') (k : Memory) :
    F.Passes d ρ ρ w w' (w.touch s k) (w'.touch s' k) where
  mirror :=
    { created := m.created
      unique := m.unique
      profile := m.profile
      memory := by
        intro t t' ht
        by_cases same : t = s
        · obtain rfl := same
          obtain rfl := (m.unique ht h).mp rfl
          simp
        · have other : t' ≠ s' := mt (m.unique ht h).mpr same
          rw [w.memory_touch_of_ne k same, w'.memory_touch_of_ne k other]
          exact m.memory ht
      node := m.node
      lock := m.lock
      view := m.view }
  grows := le_rfl
  fresh := .inl
  kept :=
    { issued := Nat.le_refl _
      session := by
        intro t _ other
        have apart : t ≠ s := by
          rintro rfl
          exact other _ h
        exact ⟨rfl, w.memory_touch_of_ne k apart⟩
      node := fun _ _ => rfl
      lock := rfl
      view := fun _ _ => rfl }

end Passes

/-! ## Atoms -/

/-- Two atoms do the same for a device, and their answers are related: both are about sessions that
stand for each other, about the device's path, or about its part of the state of the surroundings,
and leave the other parts alone. -/
inductive AtomAlike (F : Fleet ι σ τ) (d : ι) (ρ : Links) :
    (a a' : Atom σ) → (Links → a.Answer → a'.Answer → Prop) → Prop
  | control {s s' : SessionId} (h : ρ s s') (m : ControlMethod) :
    AtomAlike F d ρ (.control s m) (.control s' m) fun _ => Eq
  | lookup : AtomAlike F d ρ (.table (.lookup (F.path d))) (.table (.lookup (F.path d))) Option.Rel
  | insert {s s' : SessionId} (h : ρ s s') (mode : FileMode) :
    AtomAlike F d ρ (.table (.insert ⟨F.path d, s, mode⟩)) (.table (.insert ⟨F.path d, s', mode⟩))
      fun _ => Eq
  | permits {s s' : SessionId} (h : ρ s s') :
    AtomAlike F d ρ (.permits (.guard s)) (.permits (.guard s')) fun _ => Eq
  | exchange {s s' : SessionId} (h : ρ s s') (seen : UInt32) :
    AtomAlike F d ρ (.exchange (.guard s) seen) (.exchange (.guard s') seen) fun _ => Eq
  | post {s s' : SessionId} (h : ρ s s') :
    AtomAlike F d ρ (.post (.guard s)) (.post (.guard s')) fun _ => Eq
  | count {s s' : SessionId} (h : ρ s s') : AtomAlike F d ρ (.count s) (.count s') fun _ => Eq
  | setCount {s s' : SessionId} (h : ρ s s') (value : UInt8) :
    AtomAlike F d ρ (.setCount s value) (.setCount s' value) fun _ => Eq
  | profile {s s' : SessionId} (h : ρ s s') :
    AtomAlike F d ρ (.profile s) (.profile s') fun _ p p' => p = p' ∧ F.Owns d p
  | create {p : Profile} (h : F.Owns d p) : AtomAlike F d ρ (.create p) (.create p) id
  | own {f f' : σ → σ}
    (same : ∀ a a', F.view d a = F.view d a' → F.view d (f a) = F.view d (f' a'))
    (apart : ∀ e ≠ d, ∀ a, F.view e (f a) = F.view e a) :
    AtomAlike F d ρ (.own f) (.own f') fun _ a a' => F.view d a = F.view d a'

/-- Something is published at the path of the device in both worlds or in neither, and only what is
published there can change. -/
lemma Passes.publish (m : F.Mirror d ρ w w') {s s' : SessionId} (h : ρ s s') (mode : FileMode) :
    (w.table.value.insert ⟨F.path d, s, mode⟩).1 = (w'.table.value.insert ⟨F.path d, s', mode⟩).1 ∧
      F.Passes d ρ ρ w w'
        { w with table := w.table.store (w.table.value.insert ⟨F.path d, s, mode⟩).2 }
        { w' with table := w'.table.store (w'.table.value.insert ⟨F.path d, s', mode⟩).2 } := by
  have node := m.node
  constructor
  · simp only [DeviceTable.lookup] at node
    simp only [DeviceTable.insert]
    cases entry : w.table.value.entryAt? (F.path d) with
    | none =>
      cases entry' : w'.table.value.entryAt? (F.path d) with
      | none => rfl
      | some e' =>
        rw [entry, entry'] at node
        cases node
    | some e =>
      cases entry' : w'.table.value.entryAt? (F.path d) with
      | none =>
        rw [entry, entry'] at node
        cases node
      | some e' => rfl
  · exact
      { mirror :=
          { m with
            node := by
              simp only [SpinLock.value_store, DeviceTable.lookup_insert, if_pos]
              exact optionRel_or_some node h
            lock := m.lock }
        grows := le_rfl
        fresh := .inl
        kept :=
          { Kept.refl w with
            node := by
              intro p hp
              simp [DeviceTable.lookup_insert, hp.symm]
            lock := rfl } }

/-- A new session has a new number in either world, and they stand for each other. -/
lemma Passes.create (m : F.Mirror d ρ w w') {p : Profile} (h : F.Owns d p) :
    F.Passes d ρ (fun s s' => ρ s s' ∨ s = w.issued ∧ s' = w'.issued) w w' (w.create p)
      (w'.create p) where
  mirror :=
    { created := by
        rintro s s' (h | ⟨rfl, rfl⟩)
        · exact ⟨Nat.lt_succ_of_lt (m.created h).1, Nat.lt_succ_of_lt (m.created h).2⟩
        · exact ⟨Nat.lt_succ_self _, Nat.lt_succ_self _⟩
      unique := by
        rintro s s' t t' (h | ⟨rfl, rfl⟩) (k | ⟨rfl, rfl⟩)
        · exact m.unique h k
        · exact ⟨fun e => absurd e (Nat.ne_of_lt (m.created h).1),
            fun e => absurd e (Nat.ne_of_lt (m.created h).2)⟩
        · exact ⟨fun e => absurd e.symm (Nat.ne_of_lt (m.created k).1),
            fun e => absurd e.symm (Nat.ne_of_lt (m.created k).2)⟩
        · exact ⟨fun _ => rfl, fun _ => rfl⟩
      profile := by
        rintro s s' (k | ⟨rfl, rfl⟩)
        · rw [w.profile_create p (m.created k).1, w'.profile_create p (m.created k).2]
          exact m.profile k
        · simp [World.create, h]
      memory := by
        rintro s s' (k | ⟨rfl, rfl⟩)
        · rw [w.memory_create_of_lt p (m.created k).1, w'.memory_create_of_lt p (m.created k).2]
          exact m.memory k
        · rw [w.memory_create_self p, w'.memory_create_self p]
      node := optionRel_mono m.node .inl
      lock := m.lock
      view := m.view }
  grows _ _ := .inl
  fresh := by
    rintro s s' (h | ⟨rfl, -⟩)
    · exact .inl h
    · exact .inr (Nat.le_refl _)
  kept :=
    { issued := Nat.le_succ _
      session := by
        intro s hs _
        exact ⟨w.profile_create p hs, w.memory_create_of_lt p hs⟩
      node := fun _ _ => rfl
      lock := rfl
      view := fun _ _ => rfl }

/-- Atoms that change the memory of the same session in the same way. -/
lemma AtomAlike.apply_memory (m : F.Mirror d ρ w w') {s s' : SessionId} (h : ρ s s') {a a' : Atom σ}
    {R : Links → a.Answer → a'.Answer → Prop} (hs : a.session? = some s)
    (hs' : a'.session? = some s') {x : a.Answer} {x' : a'.Answer} (answers : R ρ x x') (k : Memory)
    (effect : a.effect w = .ok (x, w.touch s k))
    (effect' : a'.effect w' = .ok (x', w'.touch s' k)) :
    ∃ r r' ρ', a.apply w = .ok r ∧ a'.apply w' = .ok r' ∧ R ρ' r.1 r'.1 ∧
      F.Passes d ρ ρ' w w' r.2 r'.2 :=
  ⟨_, _, ρ, Atom.apply_of_created hs (m.created h).1 effect,
    Atom.apply_of_created hs' (m.created h).2 effect', answers, .touch m h k⟩

/-- Atoms that do the same for a device can be performed in worlds that mirror each other, with
related answers, and leave such worlds. -/
theorem AtomAlike.apply {a a' : Atom σ} {R : Links → a.Answer → a'.Answer → Prop}
    (h : AtomAlike F d ρ a a' R) (m : F.Mirror d ρ w w') :
    ∃ r r' ρ', a.apply w = .ok r ∧ a'.apply w' = .ok r' ∧ R ρ' r.1 r'.1 ∧
      F.Passes d ρ ρ' w w' r.2 r'.2 := by
  cases h with
  | @control s s' h c =>
    obtain ⟨control, count, guard⟩ := Memory.mk.inj (m.memory h)
    refine AtomAlike.apply_memory m h rfl rfl (x := (c.apply (w.control s).value).1) rfl
      ⟨(w.control s).store (c.apply (w.control s).value).2, w.count s, w.semaphore (.guard s)⟩ ?_ ?_
    · simp [Atom.effect, World.touch]
    · simp [Atom.effect, World.touch, control, count, guard]
  | lookup => exact ⟨_, _, ρ, rfl, rfl, m.node, .refl m⟩
  | insert h mode =>
    obtain ⟨answers, passes⟩ := Passes.publish m h mode
    exact ⟨_, _, ρ, rfl, rfl, answers, passes⟩
  | @permits s s' h =>
    have guard : w.semaphore (.guard s) = w'.semaphore (.guard s') :=
      congrArg Memory.guard (m.memory h)
    exact ⟨_, _, ρ, Atom.apply_of_created rfl (m.created h).1 rfl,
      Atom.apply_of_created rfl (m.created h).2 rfl, congrArg Semaphore.permits guard, .refl m⟩
  | @exchange s s' h seen =>
    obtain ⟨control, count, guard⟩ := Memory.mk.inj (m.memory h)
    cases taken : (w.semaphore (.guard s)).exchange? seen with
    | none =>
      have effect : (Atom.exchange (.guard s) seen).effect w =
          .ok (.error (w.semaphore (.guard s)).permits, w) := by simp [Atom.effect, taken]
      have effect' : (Atom.exchange (.guard s') seen).effect w' =
          .ok (.error (w.semaphore (.guard s)).permits, w') := by simp [Atom.effect, ← guard, taken]
      exact ⟨_, _, ρ, Atom.apply_of_created rfl (m.created h).1 effect,
        Atom.apply_of_created rfl (m.created h).2 effect', rfl, .refl m⟩
    | some left =>
      refine AtomAlike.apply_memory m h rfl rfl (x := .ok ()) rfl
        ⟨w.control s, w.count s, left⟩ ?_ ?_
      · simp [Atom.effect, World.touch, taken]
      · simp [Atom.effect, World.touch, control, count, ← guard, taken]
  | @post s s' h =>
    obtain ⟨control, count, guard⟩ := Memory.mk.inj (m.memory h)
    refine AtomAlike.apply_memory m h rfl rfl (x := ()) rfl
      ⟨w.control s, w.count s, (w.semaphore (.guard s)).post⟩ ?_ ?_
    · simp [Atom.effect, World.touch]
    · simp [Atom.effect, World.touch, control, count, guard]
  | @count s s' h =>
    exact ⟨_, _, ρ, Atom.apply_of_created rfl (m.created h).1 rfl,
      Atom.apply_of_created rfl (m.created h).2 rfl, congrArg Memory.count (m.memory h), .refl m⟩
  | @setCount s s' h value =>
    obtain ⟨control, count, guard⟩ := Memory.mk.inj (m.memory h)
    refine AtomAlike.apply_memory m h rfl rfl (x := ()) rfl
      ⟨w.control s, value, w.semaphore (.guard s)⟩ ?_ ?_
    · simp [Atom.effect, World.touch]
    · simp [Atom.effect, World.touch, control, guard]
  | profile h =>
    exact ⟨_, _, ρ, Atom.apply_of_created rfl (m.created h).1 rfl,
      Atom.apply_of_created rfl (m.created h).2 rfl, m.profile h, .refl m⟩
  | create h => exact ⟨_, _, _, rfl, rfl, .inr ⟨rfl, rfl⟩, .create m h⟩
  | own same apart =>
    refine ⟨_, _, ρ, rfl, rfl, m.view, ?_⟩
    exact
      { mirror := { m with view := same _ _ m.view }
        grows := le_rfl
        fresh := .inl
        kept := { Kept.refl w with view := fun e he => apart e he _ } }

end Fleet

end LedDriver
