import Mathlib.Algebra.BigOperators.Fin
import LedDriver.Proofs.System.Memory
import LedDriver.Proofs.System.Runs
import LedDriver.Proofs.System.Scope

/-!
# Turns

What one step of a run does to the programs in progress.  A `Board.Turn` replaces one or two of them
and leaves all others alone, and the program that makes the step does what it can do after its deeds
(`Runs.turn`).  The programs of all parties together are a multiset, so that quantities can be
summed over them (`Pool.frames`).

A property of programs in progress that holds at their beginning, is kept while the world changes
under them, and is kept by their own deeds holds throughout a run (`Runs.frame_of_progress`).  Every
atom that was performed is recorded once, among the deeds of a call that ended or of a program in
progress (`Runs.recorded`).
-/

namespace LedDriver

variable {σ α : Type} {n : Nat}

/-- The questions of the surroundings of the driver. -/
inductive Request.IsUse : Request σ → Prop
  | own (f : σ → σ) : IsUse (.atom (.own f))
  | service (c : Service) : IsUse (.call (.service c))

/-- What a program that belongs to a call can ask for, and a program that belongs to none. -/
def Call.Allows : Option Call → Request σ → Prop
  | none, q => q.IsUse
  | some c, q => c.Asks q

/-- The program of a call, or of a party, can go on with a question after its deeds. -/
def Board.Continues (B : Board σ) : Option Call → List (Deed σ) → Request σ → Prop
  | none, _, q => q.IsUse
  | some c, d, q => ∃ next, Follows (B.program c) d (.ask q next)

/-- The question that a step answers, or begins to answer. -/
def Label.request : Label σ → Request σ
  | .acted a _ => .atom a
  | .called c | .returned c _ _ _ => .call c

namespace Board

variable {B : Board σ} {w w' : World σ} {o : Option Call} {d : List (Deed σ)} {q : Request σ}

lemma Continues.allows (h : B.Continues o d q) : Call.Allows o q := by
  cases o with
  | none => exact h
  | some c =>
    obtain ⟨next, h⟩ := h
    exact (h.only (B.program_asks c)).1

lemma continues_of_follows {main : Reaction σ α}
    {next : (Request.interface σ).Answer q → Action σ (Result α o)}
    (h : Follows (B.source main.action o) d (.ask q next)) : B.Continues o d q := by
  cases o with
  | none => exact (h.only (main.action_only .own .service)).1
  | some c => exact ⟨next, h⟩

/-- What a step does to the programs in progress: some of them are replaced by others. -/
inductive Turn (B : Board σ) (w : World σ) :
    Label σ → World σ → List (Frame σ) → List (Frame σ) → Prop
  /-- A program performs an atom. -/
  | act {o : Option Call} {w₀ w' : World σ} {d : List (Deed σ)} {a : Atom σ} {x : a.Answer}
      (ask : B.Continues o d (.atom a)) (h : a.Performs w x w') :
      B.Turn w (.acted a x) w' [⟨o, w₀, d, none⟩] [⟨o, w₀, d ++ [.acted a x], none⟩]
  /-- A program begins to wait for a call, and the program of the call begins. -/
  | call {o : Option Call} {w₀ : World σ} {d : List (Deed σ)} {c : Call}
      (ask : B.Continues o d (.call c)) :
      B.Turn w (.called c) w [⟨o, w₀, d, none⟩] [⟨some c, w, [], none⟩, ⟨o, w₀, d, some c⟩]
  /-- The program of a call is done, and the program that waits for it receives the answer. -/
  | return {o : Option Call} {w₀ w₁ : World σ} {d deeds : List (Deed σ)} {c : Call} {x : c.Answer}
      (ask : B.Continues o d (.call c)) (complete : Follows (B.program c) deeds (.done x)) :
      B.Turn w (.returned c w₁ x deeds) w [⟨some c, w₁, deeds, none⟩, ⟨o, w₀, d, some c⟩]
        [⟨o, w₀, d ++ [.received c x], none⟩]

/-- A step of a lawful party is a turn of its programs. -/
lemma Step.turn {main : Reaction σ α} {p p' : Party σ α} {l : Label σ} (h : B.Step w p l w' p')
    (law : p.Lawful B main.action) :
    ∃ old new rest, p.frames = old ++ rest ∧ p'.frames = new ++ rest ∧ B.Turn w l w' old new := by
  cases h with
  | act ha => exact ⟨_, _, _, rfl, rfl, .act (continues_of_follows law.1) ha⟩
  | call => exact ⟨_, _, _, rfl, rfl, .call (continues_of_follows law.1)⟩
  | «return» =>
    exact ⟨[_, _], _, _, rfl, rfl, .return (continues_of_follows law.2.1) law.1⟩

end Board

namespace Pool

variable {B : Board σ} {P Q : Pool n σ α} {l : List (Fin n × Label σ)} {base : World σ} {own : σ}
  {clients : Fin n → Reaction σ α}

/-- A step of a run of clients is a turn of the party that makes it; the other parties stay as they
are. -/
theorem Runs.turn (run : Runs B (startIn base clients) l P) {i : Fin n} {e : Label σ}
    (step : Step B P (i, e) Q) :
    ∃ old new rest, (P.parties i).frames = old ++ rest ∧ (Q.parties i).frames = new ++ rest ∧
      (∀ j ≠ i, Q.parties j = P.parties j) ∧ B.Turn P.world e Q.world old new := by
  obtain ⟨w, p, hs, rfl⟩ := step.exists_party
  obtain ⟨old, new, rest, hp, hq, turn⟩ := hs.turn (run.lawful i)
  exact ⟨old, new, rest, hp, by simpa using hq, fun j hj => update_of_ne _ _ hj, turn⟩

/-- A step is the answer or the beginning of an answer to what a program in progress asks for. -/
lemma Runs.exists_asking (run : Runs B (startIn base clients) l P) {i : Fin n} {e : Label σ}
    (step : Step B P (i, e) Q) :
    ∃ f ∈ (P.parties i).frames, B.Continues f.owner f.past e.request := by
  obtain ⟨old, new, rest, hold, -, -, turn⟩ := run.turn step
  rw [hold]
  generalize Q.world = w at turn
  cases turn with
  | act ask _ | call ask => exact ⟨_, List.mem_cons_self .., ask⟩
  | «return» ask _ => exact ⟨_, List.mem_cons_of_mem _ (List.mem_cons_self ..), ask⟩

/-- What the program that performs an atom or begins a call can ask for at all, it can ask for in
that step. -/
lemma Runs.exists_source (run : Runs B (startIn base clients) l P) {i : Fin n} {e : Label σ}
    (step : Step B P (i, e) Q) (begins : ∀ c w x d, e ≠ .returned c w x d) :
    ∃ o w₀ d rest, (P.parties i).frames = ⟨o, w₀, d, none⟩ :: rest ∧
      ∀ π : Request σ → Prop, (B.source (clients i).action o).Only π → π e.request := by
  have law := run.lawful i
  obtain ⟨w, p, hs, -⟩ := step.exists_party
  generalize P.parties i = q at hs law
  cases hs with
  | act _ => exact ⟨_, _, _, _, rfl, fun π only => (law.1.only only).1⟩
  | call => exact ⟨_, _, _, _, rfl, fun π only => (law.1.only only).1⟩
  | «return» => exact absurd rfl (begins _ _ _ _)

/-- The deeds of a program in progress answer what its call can ask for. -/
lemma Runs.asked (run : Runs B (startIn base clients) l P) {i : Fin n} {f : Frame σ}
    (hf : f ∈ (P.parties i).frames) : ∀ x ∈ f.past, Call.Allows f.owner x.request := by
  obtain ⟨o, w₀, d, p⟩ := f
  obtain ⟨q, follows⟩ := (run.lawful i).exists_follows hf
  cases o with
  | none => exact follows.asked ((clients i).action_only .own .service)
  | some c => exact follows.asked (B.program_asks c)

/-! ## Properties of programs in progress -/

/-- A property of programs in progress, in the world as it is, that holds at their beginning and
that atoms and answers keep.  It does not depend on the call that a program waits for. -/
structure FrameInvariant (I : World σ → World σ → List (Deed σ) → Prop) : Prop where
  /-- It holds of a program that begins. -/
  start : ∀ w, I w w []
  /-- Atoms of other programs keep it. -/
  others : ∀ {w a x w'}, Atom.Performs w a x w' → w.Blank → ∀ w₀ d, I w w₀ d → I w' w₀ d
  /-- Atoms of the program keep it. -/
  acted : ∀ {w a x w'}, Atom.Performs w a x w' → w.Blank → ∀ w₀ d, I w w₀ d →
    I w' w₀ (d ++ [.acted a x])
  /-- Answers that the program receives keep it. -/
  received : ∀ w w₀ d c x, I w w₀ d → I w w₀ (d ++ [.received c x])

lemma Runs.blank (run : Runs B (start own clients) l P) : P.world.Blank := by
  refine run.preserves (I := fun P => P.world.Blank) ?_ (World.blank_initial own)
  rintro Q ⟨i, e⟩ R step hQ
  obtain ⟨w, p, hs, rfl⟩ := step.exists_party
  generalize Q.parties i = q at hs
  cases hs with
  | act ha => exact ha.blank hQ
  | call => exact hQ
  | «return» => exact hQ

/-- Such a property holds of every program in progress. -/
theorem Runs.frame_of_progress {I : World σ → World σ → List (Deed σ) → Prop}
    (inv : FrameInvariant I) (run : Runs B (start own clients) l P) {i : Fin n} {f : Frame σ}
    (hf : f ∈ (P.parties i).frames) : I P.world f.before f.past := by
  have all : ∀ i, ∀ f ∈ (P.parties i).frames, I P.world f.before f.past := by
    clear hf
    induction run with
    | refl =>
      intro j g hg
      obtain rfl := List.mem_singleton.mp hg
      exact inv.start _
    | @tail Q R l e run step ih =>
      obtain ⟨j, e⟩ := e
      obtain ⟨old, new, rest, hold, hnew, others, turn⟩ := run.turn step
      have blank := run.blank
      have here := ih j
      rw [hold, List.forall_mem_append] at here
      obtain ⟨mine, below⟩ := here
      have kept : ∀ w₀ d, I Q.world w₀ d → I R.world w₀ d := by
        intro w₀ d hd
        generalize R.world = w at turn
        cases turn with
        | act _ ha => exact inv.others ha blank w₀ d hd
        | call _ => exact hd
        | «return» _ _ => exact hd
      have made : ∀ f ∈ new, I R.world f.before f.past := by
        generalize R.world = w at turn
        cases turn with
        | act _ ha =>
          simp only [List.forall_mem_singleton] at mine ⊢
          exact inv.acted ha blank _ _ mine
        | call _ =>
          simp only [List.forall_mem_cons] at mine ⊢
          exact ⟨inv.start _, mine⟩
        | «return» _ _ =>
          rw [List.forall_mem_singleton]
          exact inv.received _ _ _ _ _ (mine _ (.tail _ (.head _)))
      intro k g hg
      by_cases hk : k = j
      · subst hk
        rw [hnew] at hg
        rcases List.mem_append.mp hg with hg | hg
        · exact made g hg
        · exact kept _ _ (below g hg)
      · rw [others k hk] at hg
        exact kept _ _ (ih k g hg)
  exact all i f hf

/-! ## Sums over the programs in progress -/

/-- The programs in progress of all parties. -/
def frames (P : Pool n σ α) : Multiset (Frame σ) :=
  ∑ i, ((P.parties i).frames : Multiset (Frame σ))

lemma mem_frames_iff {f : Frame σ} : f ∈ P.frames ↔ ∃ i, f ∈ (P.parties i).frames := by
  simp [frames, Multiset.mem_sum]

/-- A sum over the programs in progress is the sum of the sums over those of each party. -/
lemma sum_map_frames (P : Pool n σ α) (g : Frame σ → Int) :
    (P.frames.map g).sum = ∑ i, ((P.parties i).frames.map g).sum :=
  map_sum (Multiset.sumAddMonoidHom.comp (Multiset.mapAddMonoidHom g))
    (fun i => ((P.parties i).frames : Multiset (Frame σ))) Finset.univ

lemma frames_start (own : σ) (clients : Fin n → Reaction σ α) :
    (start own clients).frames = Multiset.replicate n ⟨none, World.initial own, [], none⟩ := by
  have one (i : Fin n) : (((start own clients).parties i).frames : Multiset (Frame σ)) =
      {⟨none, World.initial own, [], none⟩} := rfl
  simp only [frames, one, Finset.sum_const, Finset.card_univ, Fintype.card_fin,
    Multiset.nsmul_singleton]

/-- When some programs of one party are replaced by others, the programs of all parties change in
the same way. -/
lemma frames_of_turn {i : Fin n} {old new below : List (Frame σ)}
    (hold : (P.parties i).frames = old ++ below) (hnew : (Q.parties i).frames = new ++ below)
    (others : ∀ j ≠ i, Q.parties j = P.parties j) :
    ∃ rest : Multiset (Frame σ), P.frames = old + rest ∧ Q.frames = new + rest := by
  refine ⟨below + ∑ j ∈ Finset.univ.erase i, ((P.parties j).frames : Multiset (Frame σ)), ?_, ?_⟩
  · rw [frames, ← Finset.add_sum_erase _ _ (Finset.mem_univ i), hold, ← add_assoc,
      Multiset.coe_add]
  · have same : ∀ j ∈ Finset.univ.erase i, ((Q.parties j).frames : Multiset (Frame σ)) =
        (P.parties j).frames := by
      intro j hj
      rw [others j (Finset.ne_of_mem_erase hj)]
    rw [frames, ← Finset.add_sum_erase _ _ (Finset.mem_univ i), hnew, Finset.sum_congr rfl same,
      ← add_assoc, Multiset.coe_add]

lemma coe_nil_add (rest : Multiset (Frame σ)) :
    (([] : List (Frame σ)) : Multiset _) + rest = rest :=
  zero_add rest

lemma coe_cons_add (f : Frame σ) (fs : List (Frame σ)) (rest : Multiset (Frame σ)) :
    ((f :: fs : List (Frame σ)) : Multiset _) + rest = f ::ₘ (fs + rest) := by
  rw [← Multiset.cons_coe, Multiset.cons_add]

/-- A turn of one party is a turn of them all. -/
lemma Runs.turn_frames (run : Runs B (startIn base clients) l P) {i : Fin n} {e : Label σ}
    (step : Step B P (i, e) Q) :
    ∃ (old new : List (Frame σ)) (rest : Multiset (Frame σ)), P.frames = old + rest ∧
      Q.frames = new + rest ∧ B.Turn P.world e Q.world old new := by
  obtain ⟨old, new, below, hold, hnew, others, turn⟩ := run.turn step
  obtain ⟨rest, frames, frames'⟩ := frames_of_turn hold hnew others
  exact ⟨old, new, rest, frames, frames', turn⟩

end Pool

/-! ## Records of what was done -/

/-- The atom that a step performs, with its answer. -/
def Label.performed : Label σ → List (Deed σ)
  | .acted a x => [.acted a x]
  | .called _ | .returned _ _ _ _ => []

/-- The deeds of a call that ends in a step. -/
def Label.deeds : Label σ → List (Deed σ)
  | .returned _ _ _ d => d
  | .acted _ _ | .called _ => []

@[simp] lemma Label.deeds_acted (a : Atom σ) (x : a.Answer) : (Label.acted a x).deeds = [] := rfl

@[simp] lemma Label.deeds_called (c : Call) : (Label.called c : Label σ).deeds = [] := rfl

@[simp] lemma Label.deeds_returned (c : Call) (before : World σ) (x : c.Answer)
    (d : List (Deed σ)) : (Label.returned c before x d).deeds = d := rfl

namespace Pool

variable {B : Board σ} {P Q : Pool n σ α} {l : List (Fin n × Label σ)} {own : σ}
  {clients : Fin n → Reaction σ α}

/-- The atoms performed in a run, with their answers. -/
def performed (l : List (Fin n × Label σ)) : List (Deed σ) := l.flatMap fun e => e.2.performed

lemma performed_snoc (l : List (Fin n × Label σ)) (i : Fin n) (e : Label σ) :
    performed (l ++ [(i, e)]) = performed l ++ e.performed := by simp [performed]

/-- Every atom that was performed is recorded once, among the deeds of a call that ended or of a
program in progress. -/
theorem Runs.recorded (run : Runs B (start own clients) l P) (q : Deed σ → Bool)
    (hq : ∀ c x, q (.received c x) = false) :
    (performed l).countP q =
      (l.map fun e => e.2.deeds.countP q).sum + (P.frames.map fun f => f.past.countP q).sum := by
  induction run with
  | refl => simp [frames_start, performed]
  | @tail Q R l e run step ih =>
    obtain ⟨i, e⟩ := e
    obtain ⟨old, new, rest, hold, hnew, turn⟩ := run.turn_frames step
    rw [hold] at ih
    rw [hnew, performed_snoc]
    generalize hw : R.world = w at turn
    cases turn with
    | act _ _ =>
      simp [Label.performed, Label.deeds] at ih ⊢
      omega
    | call _ =>
      simp [Label.performed, Label.deeds] at ih ⊢
      omega
    | «return» _ _ =>
      simp [Label.performed, Label.deeds, hq] at ih ⊢
      omega

/-- Calls that end with such an atom among their deeds are at most as many as these atoms. -/
lemma Runs.countP_le_performed (run : Runs B (start own clients) l P) {q : Deed σ → Bool}
    (hq : ∀ c x, q (.received c x) = false) {p : Label σ → Bool}
    (each : ∀ e ∈ l, p e.2 → 1 ≤ e.2.deeds.countP q) :
    l.countP (fun e => p e.2) ≤ (performed l).countP q := by
  have sum : l.countP (fun e => p e.2) ≤ (l.map fun e => e.2.deeds.countP q).sum := by
    clear run
    induction l with
    | nil => exact Nat.zero_le _
    | cons e l ih =>
      have rest := ih fun e he => each e (List.mem_cons_of_mem _ he)
      have first := each e (List.mem_cons_self ..)
      rw [List.countP_cons, List.map_cons, List.sum_cons]
      split
      · next h =>
        have := first h
        omega
      · omega
  have recorded := run.recorded q hq
  omega

end Pool

end LedDriver
