import LedDriver.Proofs.Nesting.Mask

/-!
# Locks held by programs

Which locks a program holds, as its deeds tell (`Deed.held`), and what it may ask for while it holds
them (`LockId.Allows`).  A program takes a lock to use what is behind it once and gives it back at
once: with a lock it makes no call and takes no other lock, and it ends without a lock
(`Board.program_careful`).  The programs of the surroundings have nothing to do with locks at all.
-/

namespace LedDriver

variable {σ α β : Type}

namespace World

/-- A lock is held. -/
def locked (w : World σ) : LockId → Bool
  | .control s => (w.control s).held
  | .table => w.table.held

end World

/-! ## Locks and atoms -/

namespace Atom.Performs

variable {w w' : World σ} {a : Atom σ} {x : a.Answer} {k : LockId}

/-- A lock is taken when it is free; the other locks stay as they are. -/
lemma of_acquire {x : Unit} (h : (Atom.acquire k).Performs w x w') (j : LockId) :
    w.locked k = false ∧ w'.locked j = if j = k then true else w.locked j := by
  cases h with
  | effect h =>
    obtain ⟨-, h⟩ := apply_eq_ok_iff.mp h
    cases k with
    | control s =>
      simp only [Atom.effect] at h
      split at h <;> cases h
      next l hl =>
        obtain ⟨free, rfl⟩ := SpinLock.acquire?_eq_some_iff.mp hl
        refine ⟨free, ?_⟩
        cases j with
        | control t => by_cases ht : t = s <;> simp [World.locked, update, ht]
        | table => simp [World.locked]
    | table =>
      simp only [Atom.effect] at h
      split at h <;> cases h
      next l hl =>
        obtain ⟨free, rfl⟩ := SpinLock.acquire?_eq_some_iff.mp hl
        refine ⟨free, ?_⟩
        cases j <;> simp [World.locked]

/-- A lock that is given back is free; the other locks stay as they are. -/
lemma of_release {x : Unit} (h : (Atom.release k).Performs w x w') (j : LockId) :
    w'.locked j = if j = k then false else w.locked j := by
  cases h with
  | effect h =>
    obtain ⟨-, h⟩ := apply_eq_ok_iff.mp h
    cases k with
    | control s =>
      cases h
      cases j with
      | control t => by_cases ht : t = s <;> simp [World.locked, update, ht]
      | table => simp [World.locked]
    | table =>
      cases h
      cases j <;> simp [World.locked]

/-- Any other atom leaves all locks as they are. -/
lemma locked_eq (h : a.Performs w x w') (hw : w.Blank) (takes : ∀ k, a ≠ .acquire k)
    (gives : ∀ k, a ≠ .release k) (j : LockId) : w'.locked j = w.locked j := by
  cases h with
  | spurious => rfl
  | effect h =>
    obtain ⟨-, h⟩ := apply_eq_ok_iff.mp h
    cases a with
    | acquire k => exact absurd rfl (takes k)
    | release k => exact absurd rfl (gives k)
    | control s m =>
      cases h
      cases j with
      | control t => by_cases ht : t = s <;> simp [World.locked, update, ht]
      | table => rfl
    | exchange g seen =>
      simp only [Atom.effect] at h
      split at h <;> cases h <;> cases j <;> rfl
    | create p =>
      cases h
      cases j with
      | control t => exact congrArg (·.control.held) (w.memory_create p hw t)
      | table => rfl
    | table | permits | post | count | setCount | profile | own =>
      cases h
      cases j <;> rfl

end Atom.Performs

/-! ## Locks and deeds -/

namespace LockId

/-- What lies behind a lock. -/
def Protects : LockId → Atom σ → Prop
  | control s, .control t _ => t = s
  | table, .table _ => True
  | _, _ => False

/-- The locks held after one more deed. -/
def after (ks : List LockId) : Deed σ → List LockId
  | .acted (.acquire k) _ => k :: ks
  | .acted (.release k) _ => ks.erase k
  | _ => ks

/-- What a program may ask for: with one lock, to use what lies behind it or to give it back; with
none, anything but these. -/
def Allows : List LockId → Request σ → Prop
  | [], .atom (.control _ _) | [], .atom (.table _) | [], .atom (.release _) => False
  | [], _ => True
  | [k], .atom a => k.Protects a ∨ a = .release k
  | _, _ => False

/-- Only taking a lock and giving it back change which locks are held. -/
lemma after_eq {a : Atom σ} {x : a.Answer} {ks : List LockId} (takes : ∀ k, a ≠ .acquire k)
    (gives : ∀ k, a ≠ .release k) : after ks (.acted a x) = ks := by
  cases a with
  | acquire k => exact absurd rfl (takes k)
  | release k => exact absurd rfl (gives k)
  | _ => rfl

/-- The use of what lies behind a lock changes no lock. -/
lemma Protects.after_eq {k : LockId} {a : Atom σ} (h : k.Protects a) (ks : List LockId)
    (x : a.Answer) : after ks (.acted a x) = ks := by
  refine LockId.after_eq ?_ ?_ <;> rintro j rfl <;> cases k <;> cases h

/-- A program calls only without a lock. -/
lemma Allows.eq_nil_of_call {ks : List LockId} {c : Call}
    (h : Allows ks (.call c : Request σ)) : ks = [] := by
  rcases ks with - | ⟨k, - | ⟨j, ks⟩⟩
  · rfl
  · cases h
  · cases h

/-- A program takes a lock only without a lock. -/
lemma Allows.eq_nil_of_acquire {ks : List LockId} {k : LockId}
    (h : Allows ks (.atom (.acquire k) : Request σ)) : ks = [] := by
  rcases ks with - | ⟨j, - | ⟨i, ks⟩⟩
  · rfl
  · rcases h with h | h
    · cases j <;> cases h
    · cases h
  · cases h

/-- With a lock, a program performs an atom only to use what lies behind it or to give it back. -/
lemma Allows.of_mem {ks : List LockId} {k : LockId} {a : Atom σ}
    (h : Allows ks (.atom a : Request σ)) (hk : k ∈ ks) :
    ks = [k] ∧ (k.Protects a ∨ a = .release k) := by
  rcases ks with - | ⟨j, - | ⟨i, ks⟩⟩
  · cases hk
  · obtain rfl := List.mem_singleton.mp hk
    exact ⟨rfl, h⟩
  · cases h

/-- A program gives back the only lock that it has. -/
lemma Allows.eq_of_release {ks : List LockId} {k : LockId}
    (h : Allows ks (.atom (.release k) : Request σ)) : ks = [k] := by
  rcases ks with - | ⟨j, - | ⟨i, ks⟩⟩
  · cases h
  · rcases h with h | h
    · cases j <;> cases h
    · cases h
      rfl
  · cases h

end LockId

/-- The locks that a program took and did not give back. -/
def Deed.held (d : List (Deed σ)) : List LockId := d.foldl LockId.after []

@[simp] lemma Deed.held_nil : held ([] : List (Deed σ)) = [] := rfl

@[simp] lemma Deed.held_snoc (d : List (Deed σ)) (x : Deed σ) :
    held (d ++ [x]) = LockId.after (held d) x := by
  simp [held]

/-! ## The programs one by one -/

/-- What has nothing to do with locks. -/
def Request.Lockless : Request σ → Prop
  | .atom (.acquire _) | .atom (.release _) | .atom (.control _ _) | .atom (.table _) => False
  | _ => True

/-- A program that begins without a lock asks only for what its locks allow, and it ends without a
lock. -/
def Program.Careful (p : Action σ α) : Prop :=
  p.Obeys LockId.after LockId.Allows (fun _ ks => ks = []) []

namespace Program.Careful

/-- A program that asks for nothing that has to do with locks. -/
lemma of_only {p : Action σ α} (h : p.Only Request.Lockless) : p.Careful := by
  induction p with
  | done a => exact rfl
  | ask q next ih =>
    obtain ⟨hq, hnext⟩ := h
    refine ⟨?_, fun x => ?_⟩
    · cases q with
      | atom a => cases a <;> first | exact trivial | exact hq.elim
      | call c => exact trivial
    · have same : LockId.after [] (q.deed x) = [] := by
        cases q with
        | atom a => cases a <;> first | rfl | exact hq.elim
        | call c => rfl
      rw [same]
      exact ih x (hnext x)

/-- One such program and then another. -/
lemma bind {p : Action σ α} {f : α → Action σ β} (hp : p.Careful) (hf : ∀ a, (f a).Careful) :
    (p.bind f).Careful :=
  Program.Obeys.bind hp fun a ks hks => by
    subst hks
    exact hf a

end Program.Careful

open Program

/-- A single use of what lies behind a lock. -/
lemma locked_careful {k : LockId} {a : Atom σ} (h : k.Protects a) : (locked k a).Careful := by
  refine ⟨trivial, fun _ => ⟨.inl h, fun x => ?_⟩⟩
  change Obeys _ _ _ _ (LockId.after [k] (.acted a x))
  rw [h.after_eq]
  refine ⟨.inr rfl, fun _ => ?_⟩
  change [k].erase k = []
  simp

/-- The surroundings have nothing to do with locks. -/
lemma Reaction.action_careful (r : Reaction σ α) : r.action.Careful :=
  .of_only (r.action_only (fun _ => trivial) fun _ => trivial)

namespace Session

lemma control_careful (s : SessionId) (m : ControlMethod) :
    (Session.control s m : Action σ _).Careful := locked_careful rfl

lemma admission_careful (s : SessionId) (c : Command) :
    (Session.admission s c : Action σ _).Careful := by
  cases c with
  | start | setLimits | setParams => exact (control_careful s _).bind fun _ => rfl
  | stop | setMode | getState | setFault | getFault | cleanFault | passthrough => exact rfl

lemma command_careful (s : SessionId) (c : Command) :
    (Session.command s c : Action σ _).Careful := by
  refine (admission_careful s c).bind fun r => .of_only ?_
  cases r with
  | some r => exact only_ask trivial fun _ => trivial
  | none => exact forward_only trivial (fun _ => trivial) fun _ => trivial

end Session

lemma DeviceTable.use_careful (m : TableMethod SessionId) :
    (DeviceTable.use m : Action σ _).Careful := by
  unfold use
  split
  · exact rfl
  · exact locked_careful trivial

lemma Registration.register_careful (r : RegistrationRequest) :
    (Registration.register r : Action σ _).Careful := by
  have abandoned (x : Registration) : (abandon r.lower x : Action σ _).Careful :=
    .of_only (only_ask trivial fun _ => trivial)
  have published (s : SessionId) : (publish r s : Action σ _).Careful := by
    unfold publish
    split
    · exact DeviceTable.use_careful _
    · exact .of_only (only_query trivial)
  unfold register
  split
  · exact abandoned _
  split
  · exact abandoned _
  refine ⟨trivial, fun set => ?_⟩
  change Careful _
  dsimp only [bind_done]
  split
  · refine ⟨trivial, fun s => (published s).bind fun x => ?_⟩
    cases x with
    | error e => exact abandoned _
    | ok _ => exact .of_only (only_ask trivial fun _ => trivial)
  · exact ⟨trivial, fun _ => abandoned _⟩

/-- The program of every call uses locks with care. -/
theorem Board.program_careful (B : Board σ) (c : Call) : (B.program c).Careful := by
  have lockless (h : ∀ q : Request σ, c.Asks q → q.Lockless) : (B.program c).Careful :=
    .of_only ((B.program_asks c).mono h)
  cases c with
  | service c =>
    cases c with
    | command s c => exact Session.command_careful s c
    | control s m => exact Session.control_careful s m
    | register r => exact Registration.register_careful r
    | table m => exact DeviceTable.use_careful m
    | openDevice | closeDevice | operate | provided | openCount | config | tryWait | wait | post =>
      exact lockless fun q h => by cases h <;> trivial
  | routine c => exact lockless fun q h => by cases h <;> trivial
  | peer c => exact Reaction.action_careful _

end LedDriver
