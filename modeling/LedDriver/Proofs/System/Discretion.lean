import LedDriver.Proofs.System.Trees

/-!
# Discretion

Parts of the surroundings that keep out of the driver's business.  A reaction is discreet about a
part of the surroundings' state if it uses no service and leaves that part as it is; it then always
ends, makes no call, and leaves the world as it was but for the rest of the surroundings' state
(`Reaction.run_discreet`).  `World.map` reduces a world to the part in question, so that two worlds
that differ in nothing else have equal images.

Where checking a wait and letting others run are discreet, a party that runs alone and waits for a
permit has taken it, if there was one, and has changed nothing otherwise (`Board.wait_spec`).
-/

namespace LedDriver

variable {σ τ α : Type}

namespace World

/-- The world with a part of the state of the surroundings instead of all of it. -/
def map (view : σ → τ) (w : World σ) : World τ := { w with own := view w.own }

/-- The session that a semaphore belongs to was created, if it belongs to one. -/
def Has (w : World σ) (g : SemaphoreId) : Prop :=
  ∀ s, (Atom.permits g : Atom σ).session? = some s → s < w.issued

/-- The world in which a permit was taken. -/
def taken (w : World σ) (g : SemaphoreId) : World σ :=
  { w with semaphore := update w.semaphore g ⟨(w.semaphore g).permits - 1⟩ }

/-- The world in which a permit was given back. -/
def posted (w : World σ) (g : SemaphoreId) : World σ :=
  { w with semaphore := update w.semaphore g (w.semaphore g).post }

/-- A permit that was taken and given back is in its place again. -/
@[simp] lemma posted_taken (w : World σ) (g : SemaphoreId) : (w.taken g).posted g = w := by
  have whole : (⟨(w.semaphore g).permits - 1⟩ : Semaphore).post = w.semaphore g :=
    Semaphore.post_of_exchange? (Semaphore.exchange?_eq_some_iff.mpr ⟨rfl, rfl⟩)
  simp [posted, taken, whole]

@[simp] lemma map_posted (view : σ → τ) (w : World σ) (g : SemaphoreId) :
    (w.posted g).map view = (w.map view).posted g := rfl

@[simp] lemma map_taken (view : σ → τ) (w : World σ) (g : SemaphoreId) :
    (w.taken g).map view = (w.map view).taken g := rfl

/-- Two worlds that differ at most in the state of the surroundings, and there not in a certain
part. -/
lemma map_eq_map_iff {view : σ → τ} {w w' : World σ} :
    w'.map view = w.map view ↔ ∃ b, w' = { w with own := b } ∧ view b = view w.own := by
  constructor
  · intro same
    refine ⟨w'.own, ?_, congrArg World.own same⟩
    obtain ⟨_, _, _, _, _, _, own⟩ := w
    obtain ⟨_, _, _, _, _, _, own'⟩ := w'
    simp only [World.map, World.mk.injEq] at same ⊢
    simp [same]
  · rintro ⟨b, rfl, same⟩
    simp only [World.map, same]

end World

/-- The surroundings change their own state but for a part of it, and use no service. -/
def Use.Keeps (view : σ → τ) : Use σ → Prop
  | .own f => ∀ a, view (f a) = view a
  | .service _ => False

/-- What the surroundings do leaves a part of their state alone if it leaves more of it alone. -/
lemma Use.Keeps.comp {ρ : Type} {view : σ → τ} (part : τ → ρ) {u : Use σ} (h : u.Keeps view) :
    u.Keeps (part ∘ view) := by
  cases u with
  | own f => exact fun a => congrArg part (h a)
  | service c => exact h

/-- A lower half works, or interrupts are masked. -/
def Call.Acts : Call → Prop
  | .peer (.operate _ _ _ _ _) | .peer (.enter _) => True
  | _ => False

namespace CallTree

/-- No lower half works and no interrupts are masked in the calls of a list, at any depth. -/
def Idle (ts : List (CallTree σ)) : Prop := ∀ t : CallTree σ, t.Within ts → ¬ t.call.Acts

lemma idle_nil : Idle ([] : List (CallTree σ)) := avoid_nil

lemma Idle.append {ts us : List (CallTree σ)} (ht : Idle ts) (hu : Idle us) : Idle (ts ++ us) :=
  Avoid.append ht hu

lemma Idle.node {c : Call} {w w' : World σ} {x : c.Answer} {ts : List (CallTree σ)}
    (hc : ¬ c.Acts) (ht : Idle ts) : Idle [CallTree.node c w x w' ts] := Avoid.node hc ht

end CallTree

open CallTree

variable {B : Board σ} {depth : Nat} {w : World σ} {view : σ → τ}

/-- A discreet reaction ends, makes no call, and leaves the world as it was but for the state of the
surroundings that it is not discreet about. -/
lemma Reaction.run_discreet (B : Board σ) (depth : Nat) (w : World σ) {r : Reaction σ α}
    (h : r.Only (Use.Keeps view)) :
    ∃ a v, B.run depth r.action w = .ok ⟨a, v, []⟩ ∧ v.map view = w.map view := by
  induction r generalizing w with
  | done a => exact ⟨a, w, rfl, rfl⟩
  | ask u next ih =>
    cases u with
    | own f =>
      obtain ⟨a, v, run, same⟩ := ih w.own (w := { w with own := f w.own }) (h.2 _)
      refine ⟨a, v, Board.run_own_iff.mpr run, same.trans ?_⟩
      simp only [World.map, h.1 w.own]
    | service c => exact h.1.elim

namespace Board

/-- A call that is met with a discreet reaction. -/
lemma perform_discreet (depth : Nat) (w : World σ) {c : Peer}
    (h : (B.reaction c).Only (Use.Keeps view)) :
    ∃ a v, B.perform (depth + 1) (.peer c) w = .ok ⟨a, v, [.node (.peer c) w a v []]⟩ ∧
      v.map view = w.map view := by
  obtain ⟨a, v, run, same⟩ := Reaction.run_discreet B depth w h
  exact ⟨a, v, perform_succ_iff.mpr ⟨_, run, rfl⟩, same⟩

/-- What a call that is met with a discreet reaction has done. -/
lemma discreet_spec {c : Peer} (h : (B.reaction c).Only (Use.Keeps view))
    {x : Outcome σ c.Answer} (hx : B.perform depth (.peer c) w = .ok x) :
    x.calls = [.node (.peer c) w x.result x.world []] ∧ x.world.map view = w.map view := by
  cases depth with
  | zero => exact absurd hx perform_zero_ne
  | succ d =>
    obtain ⟨a, v, run, same⟩ := perform_discreet d w h
    obtain rfl := Except.ok.inj (run.symm.trans hx)
    exact ⟨rfl, same⟩

/-- The journal is discreet about a part of the state of the surroundings. -/
def JournalKeeps (B : Board σ) (view : σ → τ) : Prop := ∀ n, (B.log n).Only (Use.Keeps view)

/-- What a platform does for a waiting party is discreet about a part of the state of the
surroundings. -/
structure WaitingKeeps (B : Board σ) (view : σ → τ) : Prop where
  checkWait : ∀ p, (B.platform p).checkWait.Only (Use.Keeps view)
  relax : ∀ p, (B.platform p).relax.Only (Use.Keeps view)

/-! ## Waiting for a permit -/

variable {g : SemaphoreId} {p : PlatformId}

/-- An exchange of the present counter takes a permit. -/
lemma effect_exchange_present (w : World σ) (g : SemaphoreId) :
    (Atom.exchange g (w.semaphore g).permits : Atom σ).effect w = .ok (.ok (), w.taken g) := by
  have present : (w.semaphore g).exchange? (w.semaphore g).permits =
      some ⟨(w.semaphore g).permits - 1⟩ := Semaphore.exchange?_eq_some_iff.mpr ⟨rfl, rfl⟩
  simp only [Atom.effect, present]
  rfl

/-- An attempt to take a permit, knowing the present counter. -/
lemma claim_spec {x : Outcome σ Bool}
    (hx : B.perform depth (.routine (.claim g (w.semaphore g).permits)) w = .ok x) :
    Idle x.calls ∧ ((x.result = true ∧ (w.semaphore g).permits ≠ 0 ∧ x.world = w.taken g) ∨
      (x.result = false ∧ (w.semaphore g).permits = 0 ∧ x.world = w)) := by
  obtain ⟨d, inner, rfl, run, calls⟩ := exists_of_perform hx
  obtain ⟨result, world, trees⟩ := x
  dsimp only at run calls ⊢
  rw [calls]
  have program : B.program (.routine (.claim g (w.semaphore g).permits)) =
      Semaphore.claim g (w.semaphore g).permits := rfl
  rw [program] at run
  unfold Semaphore.claim at run
  split at run
  · next zero =>
    cases run_done_iff.mp run
    exact ⟨.node id idle_nil, .inr ⟨rfl, zero, rfl⟩⟩
  · next free =>
    have taken := run_of_effect run (effect_exchange_present w g)
    cases run_done_iff.mp taken
    exact ⟨.node id idle_nil, .inl ⟨rfl, free, rfl⟩⟩

/-- An attempt to take a permit takes it exactly if there is one. -/
lemma tryWait_spec {x : Outcome σ Bool} (hx : B.perform depth (.routine (.tryWait g)) w = .ok x) :
    Idle x.calls ∧ ((x.result = true ∧ (w.semaphore g).permits ≠ 0 ∧ x.world = w.taken g) ∨
      (x.result = false ∧ (w.semaphore g).permits = 0 ∧ x.world = w)) := by
  obtain ⟨d, inner, rfl, run, calls⟩ := exists_of_perform hx
  obtain ⟨result, world, trees⟩ := x
  dsimp only at run calls ⊢
  have seen : (Atom.permits g : Atom σ).effect w = .ok ((w.semaphore g).permits, w) := rfl
  have run := run_of_effect run seen
  obtain ⟨y, z, claimed, rest, whole⟩ := run_call_iff.mp run
  cases run_done_iff.mp rest
  cases whole
  obtain ⟨idle, outcome⟩ := claim_spec claimed
  rw [calls]
  exact ⟨.node id (by simpa using idle), outcome⟩

/-- An attempt to take a permit takes it, where there is one. -/
lemma perform_tryWait_free (B : Board σ) (depth : Nat) (session : w.Has g)
    (free : (w.semaphore g).permits ≠ 0) : ∃ inner,
    B.perform (depth + 2) (.routine (.tryWait g)) w =
      .ok ⟨true, w.taken g, [.node (.routine (.tryWait g)) w true (w.taken g) inner]⟩ := by
  have session' : ∀ s, (Atom.exchange g (w.semaphore g).permits : Atom σ).session? = some s →
      s < w.issued := by
    cases g <;> exact session
  have seen : (Atom.permits g : Atom σ).apply w = .ok ((w.semaphore g).permits, w) :=
    Atom.apply_eq_ok_iff.mpr ⟨session, rfl⟩
  have exchanged : (Atom.exchange g (w.semaphore g).permits : Atom σ).apply w =
      .ok (.ok (), w.taken g) :=
    Atom.apply_eq_ok_iff.mpr ⟨session', effect_exchange_present w g⟩
  have claimed : B.run depth (Semaphore.claim g (w.semaphore g).permits) w =
      .ok ⟨true, w.taken g, []⟩ := by
    unfold Semaphore.claim
    rw [if_neg free]
    exact run_atom exchanged
  have tried : B.run (depth + 1) (Semaphore.tryWait g) w = .ok ⟨true, w.taken g, _⟩ :=
    (run_atom seen).trans
      (run_call_iff.mpr ⟨_, _, perform_succ_iff.mpr ⟨_, claimed, rfl⟩, rfl, rfl⟩)
  exact ⟨_, perform_succ_iff.mpr ⟨_, tried, rfl⟩⟩

/-- An attempt to take a permit fails and changes nothing, where there is none. -/
lemma perform_tryWait_none (B : Board σ) (depth : Nat) (session : w.Has g)
    (none : (w.semaphore g).permits = 0) : ∃ inner,
    B.perform (depth + 2) (.routine (.tryWait g)) w =
      .ok ⟨false, w, [.node (.routine (.tryWait g)) w false w inner]⟩ := by
  have seen : (Atom.permits g : Atom σ).apply w = .ok ((w.semaphore g).permits, w) :=
    Atom.apply_eq_ok_iff.mpr ⟨session, rfl⟩
  have claimed : B.run depth (Semaphore.claim g (w.semaphore g).permits) w =
      .ok ⟨false, w, []⟩ := by
    unfold Semaphore.claim
    rw [if_pos none]
    rfl
  have tried : B.run (depth + 1) (Semaphore.tryWait g) w = .ok ⟨false, w, _⟩ :=
    (run_atom seen).trans
      (run_call_iff.mpr ⟨_, _, perform_succ_iff.mpr ⟨_, claimed, rfl⟩, rfl, rfl⟩)
  exact ⟨_, perform_succ_iff.mpr ⟨_, tried, rfl⟩⟩

/-- A party that runs alone and waits for a permit has taken it, if there was one; otherwise it has
given up, and has changed nothing. -/
theorem wait_spec (waiting : B.WaitingKeeps view) {x : Outcome σ (Except DeviceError Unit)}
    (hx : B.perform depth (.routine (.wait g p)) w = .ok x) :
    Idle x.calls ∧ ((x.result = .ok () ∧ (w.semaphore g).permits ≠ 0 ∧ x.world = w.taken g) ∨
      ((∃ e, x.result = .error e) ∧ (w.semaphore g).permits = 0 ∧
        x.world.map view = w.map view)) := by
  induction depth generalizing w x with
  | zero => exact absurd hx perform_zero_ne
  | succ d ih =>
    obtain ⟨_, inner, ⟨⟩, run, calls⟩ := exists_of_perform hx
    obtain ⟨result, world, trees⟩ := x
    dsimp only at run calls ⊢
    rw [calls]
    obtain ⟨y, z, tried, rest, whole⟩ := run_call_iff.mp run
    cases whole
    obtain ⟨idle, ⟨taken, some, after⟩ | ⟨taken, none, after⟩⟩ := tryWait_spec tried
    · rw [taken] at rest
      cases run_done_iff.mp rest
      exact ⟨.node id (by simpa using idle), .inl ⟨rfl, some, after⟩⟩
    · rw [taken, after] at rest
      obtain ⟨y', z', checked, rest, whole⟩ := run_call_iff.mp rest
      obtain ⟨told, same⟩ := discreet_spec (c := .checkWait p) (waiting.checkWait p) checked
      have idle' : Idle (y.calls ++ y'.calls) := by
        rw [told]
        exact idle.append (.node id idle_nil)
      cases answer : y'.result with
      | error e =>
        rw [answer] at rest
        cases run_done_iff.mp rest
        cases whole
        exact ⟨.node id (by simpa using idle'), .inr ⟨⟨e, rfl⟩, none, same⟩⟩
      | ok _ =>
        rw [answer] at rest
        obtain ⟨u, v, relaxed, rest', whole'⟩ := run_call_iff.mp rest
        obtain ⟨told, relaxed⟩ := discreet_spec (c := .relax p) (waiting.relax p) relaxed
        obtain ⟨u', v', again, done, whole''⟩ := run_call_iff.mp rest'
        cases run_done_iff.mp done
        cases whole''
        cases whole'
        cases whole
        obtain ⟨idle'', outcome⟩ := ih again
        have still : u.world.map view = w.map view := relaxed.trans same
        have permits : (u.world.semaphore g).permits = 0 :=
          (congrArg (fun w => (w.semaphore g).permits) still).trans none
        refine ⟨.node id ?_, ?_⟩
        · rw [told]
          simpa using idle'.append ((Idle.node id idle_nil).append idle'')
        · rcases outcome with ⟨-, some, -⟩ | ⟨gaveUp, -, after⟩
          · exact absurd permits some
          · exact .inr ⟨gaveUp, none, after.trans still⟩

end Board

end LedDriver
