import LedDriver.Proofs.Isolation.Driver

/-!
# Two runs for one device

Programs that do the same for a device, run in worlds that mirror each other for it, meet
(`Fleet.Apart.perform_meets`): either both come to a halt or both have outcomes, and then the
results are related, the calls look the same, the worlds mirror each other again, and everything
that belongs to other devices was kept.
-/

namespace LedDriver

variable {ι σ τ α β : Type}

/-! ## Atoms under a lock -/

section Locks

variable {w : World σ} {l : LockId} {a : Atom σ}

/-- Nobody takes a lock that is held. -/
lemma Atom.acquire_of_held (held : w.locked l = true) :
    ∃ o, (Atom.acquire l).apply w = .error o := by
  cases taken : (Atom.acquire l).apply w with
  | error o => exact ⟨o, rfl⟩
  | ok r =>
    have free := (Atom.Performs.of_acquire (Atom.Performs.effect taken) l).1
    rw [held] at free
    cases free

/-- An atom under its lock, if that is free, is the atom alone. -/
lemma Atom.apply_locked (protects : l.Protects a) (free : w.locked l = false)
    {r : a.Answer × World σ} (effect : a.apply w = .ok r) :
    ∃ w₁ w₂, (Atom.acquire l).apply w = .ok ((), w₁) ∧ a.apply w₁ = .ok (r.1, w₂) ∧
      (Atom.release l).apply w₂ = .ok ((), r.2) := by
  cases l with
  | control s =>
    cases a with
    | control t m =>
      obtain rfl : t = s := protects
      obtain ⟨created, effect⟩ := apply_eq_ok_iff.mp effect
      have created := created t rfl
      cases effect
      have free : (w.control t).held = false := free
      let taken : World σ :=
        { w with control := update w.control t { w.control t with held := true } }
      let used : World σ :=
        { w with control := update w.control t ⟨true, (m.apply (w.control t).value).2⟩ }
      refine ⟨taken, used, ?_, ?_, ?_⟩
      · simp [Atom.apply, Atom.session?, created, Atom.effect, SpinLock.acquire?, free, taken]
      · simp [Atom.apply, Atom.session?, created, Atom.effect, SpinLock.store, taken, used]
      · simp [Atom.apply, Atom.session?, created, Atom.effect, SpinLock.release,
          SpinLock.store, free, used]
    | _ => exact protects.elim
  | table =>
    cases a with
    | table m =>
      cases effect
      have free : w.table.held = false := free
      refine ⟨{ w with table := { w.table with held := true } }, _, ?_, rfl, ?_⟩
      · simp [Atom.apply, Atom.session?, Atom.effect, SpinLock.acquire?, free]
      · simp [Atom.apply, Atom.session?, Atom.effect, SpinLock.release, SpinLock.store, free]
    | _ => exact protects.elim

end Locks

/-- A run that begins with an atom that something stands in the way of comes to a halt. -/
lemma Board.run_atom_error {B : Board σ} {depth : Nat} {w : World σ} {a : Atom σ} {o : Obstacle}
    {next : a.Answer → Action σ α} (h : a.apply w = .error o) :
    B.run depth (.ask (.atom a) next) w = .error (.stuck o) := by
  rw [run_ask]
  simp only [Run.bind, Request.run, Atom.run, h]

namespace Fleet

variable {F : Fleet ι σ τ} {B : Board σ} {depth : Nat} {d : ι} {ρ ρ' : Links} {w w' v v' : World σ}

/-- Locks that protect what atoms that do the same use are held together. -/
lemma AtomAlike.locked_eq {a a' : Atom σ} {R : Links → a.Answer → a'.Answer → Prop}
    (h : AtomAlike F d ρ a a' R) (m : F.Mirror d ρ w w') {l l' : LockId} (under : l.Protects a)
    (under' : l'.Protects a') : w.locked l = w'.locked l' := by
  cases h with
  | control h c =>
    cases l with
    | table => exact under.elim
    | control s =>
      cases l' with
      | table => exact under'.elim
      | control s' =>
        obtain rfl : _ = s := under
        obtain rfl : _ = s' := under'
        exact congrArg (fun k => k.control.held) (m.memory h)
  | lookup | insert =>
    cases l with
    | control s => exact under.elim
    | table =>
      cases l' with
      | control s' => exact under'.elim
      | table => exact m.lock
  | permits | exchange | post | count | setCount | profile | create | own =>
    cases l <;> exact under.elim

/-! ## Calls that look the same -/

namespace CallAlike

variable {c c' : Call} {R : Links → c.Answer → c'.Answer → Prop}

lemma begun_eq (h : F.CallAlike d ρ c c' R) : c.begun = c'.begun := by
  cases h <;> rfl

lemma ended_eq (h : F.CallAlike d ρ c c' R) {x : c.Answer} {x' : c'.Answer} (related : R ρ' x x') :
    c.ended x = c'.ended x' := by
  cases h with
  | register request => cases x <;> cases x' <;> first | rfl | cases related <;> rfl
  | lookup => cases related <;> rfl
  | openDevice | closeDevice | command | control | operate | provided | openCount | config
  | tryWait | claim | wait | lower | peer =>
    cases related
    rfl

end CallAlike

/-! ## Runs that meet -/

/-- Two runs for a device, begun in certain worlds, meet. -/
inductive Meets (F : Fleet ι σ τ) (d : ι) (ρ : Links) (w w' : World σ) (R : Links → α → β → Prop) :
    Except Halt (Outcome σ α) → Except Halt (Outcome σ β) → Prop
  | halt (e e' : Halt) : Meets F d ρ w w' R (.error e) (.error e')
  | ok {ρ' : Links} {x : Outcome σ α} {x' : Outcome σ β} (result : R ρ' x.result x'.result)
    (sights : x.calls.flatMap CallTree.sights = x'.calls.flatMap CallTree.sights)
    (passes : F.Passes d ρ ρ' w w' x.world x'.world) : Meets F d ρ w w' R (.ok x) (.ok x')

variable {R : Links → α → β → Prop}

/-- What happens after runs that led from worlds to worlds. -/
lemma Meets.after {m : Except Halt (Outcome σ α)} {m' : Except Halt (Outcome σ β)}
    (first : F.Passes d ρ ρ' w w' v v') (h : F.Meets d ρ' v v' R m m') :
    F.Meets d ρ w w' R m m' := by
  cases h with
  | halt e e' => exact .halt e e'
  | ok result sights passes => exact .ok result sights (first.trans passes)

/-- A call and what comes after it. -/
lemma Meets.call {c c' : Call} {S : Links → c.Answer → c'.Answer → Prop}
    {next : c.Answer → Action σ α} {next' : c'.Answer → Action σ β}
    (first : F.Meets d ρ w w' S (B.perform depth c w) (B.perform depth c' w'))
    (rest : ∀ {ρ' x x'} {v v' : World σ}, ρ ≤ ρ' → S ρ' x x' → F.Mirror d ρ' v v' →
      F.Meets d ρ' v v' R (B.run depth (next x) v) (B.run depth (next' x') v')) :
    F.Meets d ρ w w' R (B.run depth (.ask (.call c) next) w)
      (B.run depth (.ask (.call c') next') w') := by
  rw [Board.run_ask, Board.run_ask]
  simp only [Run.bind, Request.run]
  generalize B.perform depth c w = m at first
  generalize B.perform depth c' w' = m' at first
  cases first with
  | halt e e' => exact .halt e e'
  | @ok ρ' x x' related sights passes =>
    have later := rest passes.grows related passes.mirror
    simp only
    generalize B.run depth (next x.result) x.world = k at later
    generalize B.run depth (next' x'.result) x'.world = k' at later
    cases later with
    | halt e e' => exact .halt e e'
    | ok result sights' passes' =>
      refine .ok result ?_ (passes.trans passes')
      rw [List.flatMap_append, List.flatMap_append, sights, sights']

/-- Programs that do the same meet if the calls that they make do. -/
lemma ProgramAlike.run_meets
    (calls : ∀ {ρ c c' S} {w w' : World σ}, F.CallAlike d ρ c c' S → F.Mirror d ρ w w' →
      F.Meets d ρ w w' S (B.perform depth c w) (B.perform depth c' w'))
    {p : Action σ α} {p' : Action σ β} (h : F.ProgramAlike d R ρ p p') (m : F.Mirror d ρ w w') :
    F.Meets d ρ w w' R (B.run depth p w) (B.run depth p' w') := by
  induction h generalizing w w' with
  | done h => exact .ok h rfl (.refl m)
  | atom h _ ih =>
    obtain ⟨r, r', ρ₁, effect, effect', related, passes⟩ := h.apply m
    rw [Board.run_atom effect, Board.run_atom effect']
    exact .after passes (ih passes.grows related passes.mirror)
  | @locked _ a a' _ l l' next next' h under under' _ ih =>
    have together := h.locked_eq m under under'
    cases held : w.locked l with
    | true =>
      obtain ⟨o, taken⟩ := Atom.acquire_of_held held
      obtain ⟨o', taken'⟩ := Atom.acquire_of_held (together ▸ held)
      rw [Board.run_atom_error taken, Board.run_atom_error taken']
      exact .halt _ _
    | false =>
      obtain ⟨r, r', ρ₁, effect, effect', related, passes⟩ := h.apply m
      obtain ⟨w₁, w₂, acquired, used, released⟩ := Atom.apply_locked under held effect
      obtain ⟨w₁', w₂', acquired', used', released'⟩ :=
        Atom.apply_locked under' (together ▸ held) effect'
      rw [Board.run_atom acquired, Board.run_atom used, Board.run_atom released,
        Board.run_atom acquired', Board.run_atom used', Board.run_atom released']
      exact .after passes (ih passes.grows related passes.mirror)
  | call h _ ih => exact (calls h m).call fun grows related m => ih grows related m

/-- Calls that do the same for a device meet. -/
theorem Apart.perform_meets (apart : F.Apart B) {c c' : Call}
    {R : Links → c.Answer → c'.Answer → Prop} (h : F.CallAlike d ρ c c' R) (m : F.Mirror d ρ w w') :
    F.Meets d ρ w w' R (B.perform depth c w) (B.perform depth c' w') := by
  induction depth generalizing ρ c c' w w' with
  | zero => exact .halt _ _
  | succ depth ih =>
    have inside := (apart.program h).run_meets (fun h m => ih h m) m
    have unfolded : B.perform (depth + 1) c w = (B.run depth (B.program c)).asCall c w := rfl
    have unfolded' : B.perform (depth + 1) c' w' = (B.run depth (B.program c')).asCall c' w' := rfl
    rw [unfolded, unfolded']
    simp only [Run.asCall]
    generalize B.run depth (B.program c) w = k at inside
    generalize B.run depth (B.program c') w' = k' at inside
    cases inside with
    | halt e e' => exact .halt e e'
    | ok related sights passes =>
      refine .ok related ?_ passes
      simp only [List.flatMap_singleton, CallTree.sights]
      rw [sights, h.begun_eq, h.ended_eq related]

end Fleet

end LedDriver
