import LedDriver.Proofs.Locking.Holding

/-!
# Freedom from deadlock on locks

A lock that is taken and not given back would stop its own party for good the next time that it asks
for it.  This cannot happen, however deeply calls are nested.  A lock is held exactly if one party
holds it, in the innermost of its programs (`Guarded`); whenever a party begins or ends a call or
asks for a lock it holds no lock, and a party that holds a lock can give it back by steps of its own
(`Runs.locks_safe`).
-/

namespace LedDriver

variable {σ α : Type} {n : Nat}

/-- The locks that a party holds: those that its programs in progress took and did not give back. -/
def Party.held (p : Party σ α) : List LockId := p.frames.flatMap fun f => Deed.held f.past

/-- The next thing that a party asks for. -/
def Party.AsksFor (p : Party σ α) (q : Request σ) : Prop := ∃ next, p.rest = .ask q next

/-! ## Programs in progress -/

section Lawful

variable {B : Board σ} {main : Reaction σ α} {o : Option Call} {w w' : World σ} {p p' : Party σ α}

/-- The program of a call or of a party uses locks with care. -/
lemma Board.source_careful : (B.source main.action o).Careful := by
  cases o with
  | none => exact main.action_careful
  | some c => exact B.program_careful c

/-- What a program has left it carries out with the locks that it holds. -/
lemma Board.careful_of_follows {d : List (Deed σ)} {q : Action σ (Result α o)}
    (h : Follows (B.source main.action o) d q) :
    q.Obeys LockId.after LockId.Allows (fun _ ks => ks = []) (Deed.held d) :=
  B.source_careful.of_follows h

/-- Programs that are set aside hold no lock. -/
lemma Callers.Lawful.held_eq_nil {k : Callers σ α o} (h : k.Lawful B main.action) :
    k.frames.flatMap (fun f => Deed.held f.past) = [] := by
  induction k with
  | none => rfl
  | call c before past next outer ih =>
    have free : Deed.held past = [] := (Board.careful_of_follows h.1).1.eq_nil_of_call
    simp [Callers.frames, free, ih h.2]

/-- Only the innermost program of a party can hold a lock. -/
lemma Party.Lawful.held_eq (h : p.Lawful B main.action) : p.held = Deed.held p.past := by
  simp [Party.held, Party.frames, h.2.held_eq_nil]

/-- A party asks only for what its locks allow. -/
lemma Party.Lawful.allows (h : p.Lawful B main.action) {q : Request σ} (asks : p.AsksFor q) :
    LockId.Allows p.held q := by
  obtain ⟨next, hq⟩ := asks
  have follows := h.1
  rw [hq] at follows
  rw [h.held_eq]
  exact (Board.careful_of_follows follows).1

/-- A party that performs an atom was allowed to, and it holds what the atom leaves it. -/
lemma Board.Step.held_of_acted {a : Atom σ} {x : a.Answer} (h : B.Step w p (.acted a x) w' p')
    (law : p.Lawful B main.action) :
    LockId.Allows p.held (.atom a) ∧ p'.held = LockId.after p.held (.acted a x) := by
  have law' := h.lawful law
  refine ⟨?_, ?_⟩
  · cases h
    exact law.allows ⟨_, rfl⟩
  · rw [law.held_eq, law'.held_eq]
    cases h
    exact Deed.held_snoc ..

/-- A party that begins a call holds no lock before and after. -/
lemma Board.Step.held_of_called {c : Call} (h : B.Step w p (.called c) w' p')
    (law : p.Lawful B main.action) : p.held = [] ∧ p'.held = [] := by
  have law' := h.lawful law
  refine ⟨?_, ?_⟩
  · cases h
    exact (law.allows ⟨_, rfl⟩).eq_nil_of_call
  · rw [law'.held_eq]
    cases h
    rfl

/-- A party that ends a call holds no lock before and after. -/
lemma Board.Step.held_of_returned {c : Call} {v : World σ} {x : c.Answer} {d : List (Deed σ)}
    (h : B.Step w p (.returned c v x d) w' p') (law : p.Lawful B main.action) :
    p.held = [] ∧ p'.held = [] := by
  have law' := h.lawful law
  rw [law.held_eq, law'.held_eq]
  cases h with
  | «return» =>
    have ended : Deed.held d = [] := Board.careful_of_follows law.1
    have waiting := (Board.careful_of_follows law.2.1).1.eq_nil_of_call
    exact ⟨ended, by simp [waiting, LockId.after]⟩

end Lawful

/-! ## Parties and locks -/

/-- A lock on the memory of a session that was not created is free. -/
lemma World.Blank.lt_of_locked {w : World σ} (hw : w.Blank) {s : SessionId}
    (h : w.locked (.control s) = true) : s < w.issued := by
  by_contra hs
  have new : (w.memory s).control.held = false := by
    rw [hw s (Nat.not_lt.mp hs)]
    rfl
  exact Bool.false_ne_true (new.symm.trans h)

namespace Pool

variable {B : Board σ} {P Q : Pool n σ α} {l : List (Fin n × Label σ)} {own : σ}
  {clients : Fin n → Reaction σ α} {i : Fin n} {k : LockId}

/-- A party that performs an atom was allowed to, and it holds what the atom leaves it. -/
lemma Runs.held_of_acted (run : Runs B (start own clients) l P) {a : Atom σ} {x : a.Answer}
    (step : Step B P (i, .acted a x) Q) : LockId.Allows (P.parties i).held (.atom a) ∧
      (Q.parties i).held = LockId.after (P.parties i).held (.acted a x) := by
  obtain ⟨w, p, hs, rfl⟩ := step.exists_party
  simpa using hs.held_of_acted (run.lawful i)

/-- A party that begins a call holds no lock before and after. -/
lemma Runs.held_of_called (run : Runs B (start own clients) l P) {c : Call}
    (step : Step B P (i, .called c) Q) : (P.parties i).held = [] ∧ (Q.parties i).held = [] := by
  obtain ⟨w, p, hs, rfl⟩ := step.exists_party
  simpa using hs.held_of_called (run.lawful i)

/-- A party that ends a call holds no lock before and after. -/
lemma Runs.held_of_returned (run : Runs B (start own clients) l P) {c : Call} {v : World σ}
    {x : c.Answer} {d : List (Deed σ)} (step : Step B P (i, .returned c v x d) Q) :
    (P.parties i).held = [] ∧ (Q.parties i).held = [] := by
  obtain ⟨w, p, hs, rfl⟩ := step.exists_party
  simpa using hs.held_of_returned (run.lawful i)

/-- The locks that are held are those that the parties hold, and no two parties hold the same. -/
structure Guarded (P : Pool n σ α) : Prop where
  locked_iff : ∀ k, P.world.locked k = true ↔ ∃ i, k ∈ (P.parties i).held
  unique : ∀ i j k, k ∈ (P.parties i).held → k ∈ (P.parties j).held → i = j

/-- A party that takes a free lock while it holds none has it for itself. -/
lemma Guarded.take (h : P.Guarded) (none : (P.parties i).held = [])
    (free : P.world.locked k = false) (taken : (Q.parties i).held = [k])
    (others : ∀ j ≠ i, (Q.parties j).held = (P.parties j).held)
    (flags : ∀ m, Q.world.locked m = if m = k then true else P.world.locked m) : Q.Guarded := by
  have nobody (j : Fin n) : k ∉ (P.parties j).held := by
    intro hj
    rw [(h.locked_iff k).mpr ⟨j, hj⟩] at free
    cases free
  have after (j : Fin n) (m : LockId) :
      m ∈ (Q.parties j).held ↔ (j = i ∧ m = k) ∨ m ∈ (P.parties j).held := by
    by_cases hj : j = i
    · subst hj
      simp [taken, none]
    · simp [others j hj, hj]
  refine ⟨fun m => ?_, fun j j' m hj hj' => ?_⟩
  · rw [flags]
    split
    · next hm => exact ⟨fun _ => ⟨i, (after i m).mpr (.inl ⟨rfl, hm⟩)⟩, fun _ => rfl⟩
    · next hm => simp [h.locked_iff, after, hm]
  · rcases (after j m).mp hj with ⟨rfl, rfl⟩ | hj
    · rcases (after j' m).mp hj' with ⟨rfl, -⟩ | hj'
      · rfl
      · exact absurd hj' (nobody _)
    · rcases (after j' m).mp hj' with ⟨rfl, rfl⟩ | hj'
      · exact absurd hj (nobody _)
      · exact h.unique j j' m hj hj'

/-- A party that gives its only lock back leaves it free. -/
lemma Guarded.give (h : P.Guarded) (one : (P.parties i).held = [k])
    (none : (Q.parties i).held = [])
    (others : ∀ j ≠ i, (Q.parties j).held = (P.parties j).held)
    (flags : ∀ m, Q.world.locked m = if m = k then false else P.world.locked m) : Q.Guarded := by
  have mine : k ∈ (P.parties i).held := by simp [one]
  have after (j : Fin n) (m : LockId) :
      m ∈ (Q.parties j).held ↔ m ≠ k ∧ m ∈ (P.parties j).held := by
    by_cases hj : j = i
    · subst hj
      simp [none, one]
    · rw [others j hj]
      refine ⟨fun hm => ⟨?_, hm⟩, fun hm => hm.2⟩
      rintro rfl
      exact hj (h.unique j i _ hm mine)
  refine ⟨fun m => ?_, fun j j' m hj hj' =>
    h.unique j j' m ((after j m).mp hj).2 ((after j' m).mp hj').2⟩
  rw [flags]
  split
  · next hm => simp [after, hm]
  · next hm => simp [h.locked_iff, after, hm]

/-- Where no party takes or gives a lock, nothing changes. -/
lemma Guarded.keep (h : P.Guarded) (same : ∀ j, (Q.parties j).held = (P.parties j).held)
    (flags : ∀ m, Q.world.locked m = P.world.locked m) : Q.Guarded := by
  refine ⟨fun m => ?_, fun j j' m hj hj' => ?_⟩
  · simp only [flags, h.locked_iff, same]
  · rw [same] at hj hj'
    exact h.unique j j' m hj hj'

/-- In every run the locks that are held are those that the parties hold. -/
theorem Runs.guarded (run : Runs B (start own clients) l P) : P.Guarded := by
  induction run with
  | refl =>
    refine ⟨fun k => ?_, fun i j k hi => by cases hi⟩
    cases k <;> simp [start, World.initial, World.locked, Party.held, Party.frames, Party.start,
      Callers.frames]
  | @tail Q R l e run step ih =>
    obtain ⟨i, e⟩ := e
    have others (j : Fin n) (hj : j ≠ i) : (R.parties j).held = (Q.parties j).held := by
      obtain ⟨_, _, _, -, -, others, -⟩ := run.turn step
      rw [others j hj]
    have keep (same : (R.parties i).held = (Q.parties i).held) (j : Fin n) :
        (R.parties j).held = (Q.parties j).held := by
      by_cases hj : j = i
      · rw [hj, same]
      · exact others j hj
    cases e with
    | acted a x =>
      have performs : a.Performs Q.world x R.world := step.performs
      obtain ⟨allowed, after⟩ := run.held_of_acted step
      by_cases takes : ∃ k, a = .acquire k
      · obtain ⟨k, rfl⟩ := takes
        have none := allowed.eq_nil_of_acquire
        have flags := performs.of_acquire
        refine ih.take none (flags k).1 ?_ others fun m => (flags m).2
        simp [after, none, LockId.after]
      by_cases gives : ∃ k, a = .release k
      · obtain ⟨k, rfl⟩ := gives
        have one := allowed.eq_of_release
        refine ih.give one ?_ others performs.of_release
        simp [after, one, LockId.after]
      have flags := performs.locked_eq run.blank (fun k h => takes ⟨k, h⟩) fun k h => gives ⟨k, h⟩
      refine ih.keep (keep ?_) flags
      rw [after, LockId.after_eq (fun k h => takes ⟨k, h⟩) fun k h => gives ⟨k, h⟩]
    | called c =>
      obtain ⟨before, after⟩ := run.held_of_called step
      have same : R.world = Q.world := (step.world_eq.resolve_left (by rintro ⟨_, _, ⟨⟩, _⟩)).2
      exact ih.keep (keep (after.trans before.symm)) fun m => congrArg (World.locked · m) same
    | returned c v x d =>
      obtain ⟨before, after⟩ := run.held_of_returned step
      have same : R.world = Q.world := (step.world_eq.resolve_left (by rintro ⟨_, _, ⟨⟩, _⟩)).2
      exact ih.keep (keep (after.trans before.symm)) fun m => congrArg (World.locked · m) same

/-- A party that holds a lock can use what lies behind it and give it back, whatever the others
do. -/
lemma Runs.exists_act (run : Runs B (start own clients) l P) {o : Option Call} {w₀ : World σ}
    {d : List (Deed σ)} {a : Atom σ} {next : a.Answer → Action σ (Result α o)}
    {callers : Callers σ α o} (hp : P.parties i = ⟨o, w₀, d, .ask (.atom a) next, callers⟩)
    (hk : (P.parties i).held = [k]) (ha : k.Protects a ∨ a = .release k) :
    ∃ x w, Step B P (i, .acted a x)
      ⟨w, update P.parties i ⟨o, w₀, d ++ [.acted a x], next x, callers⟩⟩ := by
  have locked : P.world.locked k = true := (run.guarded.locked_iff k).mpr ⟨i, by simp [hk]⟩
  obtain ⟨x, w, applies⟩ : ∃ x w, a.apply P.world = .ok (x, w) := by
    cases k with
    | control s =>
      have created : s < P.world.issued := run.blank.lt_of_locked locked
      rcases ha with ha | rfl
      · cases a <;> cases ha
        exact ⟨_, _, if_pos created⟩
      · exact ⟨_, _, if_pos created⟩
    | table =>
      rcases ha with ha | rfl
      · cases a <;> first | exact ha.elim | exact ⟨_, _, rfl⟩
      · exact ⟨_, _, rfl⟩
  have step : B.Step P.world (P.parties i) (.acted a x) w
      ⟨o, w₀, d ++ [.acted a x], next x, callers⟩ := by
    rw [hp]
    exact .act (.effect applies)
  exact ⟨x, w, .party step⟩

/-- A party that holds a lock gives it back by atoms of its own alone. -/
lemma Runs.exists_release (run : Runs B (start own clients) l P)
    (hk : k ∈ (P.parties i).held) : ∃ l' Q, Runs B P l' Q ∧
      (∀ e ∈ l', e.1 = i ∧ ∃ a x, e.2 = .acted a x) ∧ Q.world.locked k = false := by
  -- The induction is on what the party has left: it is done only when it holds no lock.
  generalize hp : P.parties i = p
  obtain ⟨o, w₀, d, r, callers⟩ := p
  have law := run.lawful i
  induction r generalizing d P l with
  | done x =>
    rw [hp] at law hk
    rw [law.held_eq] at hk
    have ended : Deed.held d = [] := Board.careful_of_follows law.1
    rw [ended] at hk
    cases hk
  | ask q next ih =>
    have allowed : LockId.Allows (P.parties i).held q := law.allows (by rw [hp]; exact ⟨next, rfl⟩)
    cases q with
    | call c =>
      rw [allowed.eq_nil_of_call] at hk
      cases hk
    | atom a =>
      obtain ⟨one, use⟩ := allowed.of_mem hk
      obtain ⟨x, w, step⟩ := run.exists_act hp one use
      have mine : (i, Label.acted a x).1 = i ∧ ∃ b y, (i, Label.acted a x).2 = .acted b y :=
        ⟨rfl, a, x, rfl⟩
      rcases use with use | rfl
      · have after := (run.held_of_acted step).2
        rw [use.after_eq, one] at after
        obtain ⟨l', Q, rest, own, free⟩ := ih x (run.tail step) (after ▸ List.mem_singleton_self k)
          _ (update_self ..) ((run.tail step).lawful i)
        exact ⟨_, Q, rest.head step, List.forall_mem_cons.mpr ⟨mine, own⟩, free⟩
      · refine ⟨_, _, (Runs.refl P).tail step, List.forall_mem_singleton.mpr mine, ?_⟩
        have free := step.performs.of_release k
        rwa [if_pos rfl] at free

/-- Where one party is alone and holds no lock, all locks are free. -/
lemma Runs.free_of_alone (run : Runs B (start own clients) l P) (alone : ∀ j, j = i)
    (none : (P.parties i).held = []) (k : LockId) : P.world.locked k = false := by
  by_contra locked
  obtain ⟨j, hj⟩ := (run.guarded.locked_iff k).mp (by simpa using locked)
  rw [alone j, none] at hj
  cases hj

/-- No party stops itself on a lock.  A lock is held exactly if a party holds it, and then no other
party does.  A party holds no lock when it begins a call, when a call of its ends, whatever the
answer, and when it asks for a lock.  A lock that is held can be given back by its holder's own
atoms.  Hence all locks are free at these moments where one party is alone. -/
theorem Runs.locks_safe (run : Runs B (start own clients) l P) :
    P.Guarded ∧
      (∀ i c Q, Step B P (i, .called c) Q → (P.parties i).held = []) ∧
      (∀ i c w x d Q, Step B P (i, .returned c w x d) Q → (Q.parties i).held = []) ∧
      (∀ i k, (P.parties i).AsksFor (.atom (.acquire k)) → (P.parties i).held = []) ∧
      (∀ i k, k ∈ (P.parties i).held → ∃ l' Q, Runs B P l' Q ∧
        (∀ e ∈ l', e.1 = i ∧ ∃ a x, e.2 = .acted a x) ∧ Q.world.locked k = false) ∧
      ∀ i, (∀ j, j = i) → ∀ k,
        (∀ c Q, Step B P (i, .called c) Q → P.world.locked k = false) ∧
        (∀ c w x d Q, Step B P (i, .returned c w x d) Q → Q.world.locked k = false) ∧
        ((P.parties i).AsksFor (.atom (.acquire k)) → P.world.locked k = false) := by
  have asking (i : Fin n) (k : LockId) (asks : (P.parties i).AsksFor (.atom (.acquire k))) :
      (P.parties i).held = [] := ((run.lawful i).allows asks).eq_nil_of_acquire
  refine ⟨run.guarded, fun i c Q step => (run.held_of_called step).1,
    fun i c w x d Q step => (run.held_of_returned step).2, asking,
    fun i k hk => run.exists_release hk, fun i alone k => ⟨?_, ?_, ?_⟩⟩
  · intro c Q step
    exact run.free_of_alone alone (run.held_of_called step).1 k
  · intro c w x d Q step
    exact (run.tail step).free_of_alone alone (run.held_of_returned step).2 k
  · intro asks
    exact run.free_of_alone alone (asking i k asks) k

/-- A client that registers a device and sets its parameters, and one that looks at them. -/
def settingAndLooking : Fin 2 → Reaction Unit Unit
  | 0 => do
    let _ ← (Service.register ⟨"/dev/led", 0, 0, Config.default, none⟩).use
    let _ ← (Service.command 0 (.setParams ⟨⟨0x42480000⟩, ⟨0⟩, ⟨0⟩, false⟩)).use
    pure ()
  | 1 => do
    let _ ← (Service.control 0 .params).use
    pure ()

/-- While one client has the lock of a control block, the lower half of the other asks for it from
within a command; it holds no lock, and the lock can be given back. -/
theorem locks_safe_settingAndLooking :
    ∃ (l : List (Fin 2 × Label Unit)) (P : Pool 2 Unit Unit),
      Runs (.obedient (pure (.ok ()))) (start () settingAndLooking) l P ∧
        (P.parties 0).AsksFor (.atom (.acquire (.control 0))) ∧
        (P.parties 0).frames.length = 4 ∧ (P.parties 0).held = [] ∧
        P.world.locked (.control 0) = true ∧ (P.parties 1).held = [.control 0] ∧
        ∃ l' Q, Runs (.obedient (pure (.ok ()))) P l' Q ∧
          (∀ e ∈ l', e.1 = 1 ∧ ∃ a x, e.2 = .acted a x) ∧ Q.world.locked (.control 0) = false := by
  let B : Board Unit := .obedient (pure (.ok ()))
  let P₀ : Pool 2 Unit Unit := start () settingAndLooking
  have h : (P₀.play B (.replicate 17 0 ++ [1, 1])).isSome := rfl
  have run := runs_of_isSome h
  obtain ⟨guarded, -, -, asking, giving, -⟩ := run.locks_safe
  have asks : (((P₀.play B (.replicate 17 0 ++ [1, 1])).get h).2.parties 0).AsksFor
      (.atom (.acquire (.control 0))) := ⟨_, rfl⟩
  have mine : LockId.control 0 ∈
      (((P₀.play B (.replicate 17 0 ++ [1, 1])).get h).2.parties 1).held :=
    List.mem_singleton_self _
  exact ⟨_, _, run, asks, rfl, asking 0 _ asks, (guarded.locked_iff _).mpr ⟨1, mine⟩, rfl,
    giving 1 _ mine⟩

end Pool

end LedDriver
