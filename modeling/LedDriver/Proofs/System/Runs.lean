import Mathlib.Data.List.Induction
import LedDriver.System.Interleaving

/-!
# Runs of pools

How to reason about runs under all schedules.

`Follows p d q` says that a program `p`, having done the deeds `d`, has `q` left.  Every program in
progress follows the program of its call, and a call that ended followed its program to the end
(`Runs.lawful`, `Runs.follows_of_returned`), so that a question about the deeds of a call is one
about its program alone.

`Pool.play` finds runs (`runs_of_play`).
-/

namespace LedDriver

variable {σ α : Type} {n : Nat}

/-! ## Deeds of a program -/

/-- Having done the deeds of the list, the program has another program left. -/
inductive Follows : Action σ α → List (Deed σ) → Action σ α → Prop
  | nil (p : Action σ α) : Follows p [] p
  | acted {a : Atom σ} {x : a.Answer} {next : a.Answer → Action σ α} {d : List (Deed σ)}
      {q : Action σ α} (h : Follows (next x) d q) :
      Follows (.ask (.atom a) next) (.acted a x :: d) q
  | received {c : Call} {x : c.Answer} {next : c.Answer → Action σ α} {d : List (Deed σ)}
      {q : Action σ α} (h : Follows (next x) d q) :
      Follows (.ask (.call c) next) (.received c x :: d) q

/-- The question that a deed answers. -/
def Deed.request : Deed σ → Request σ
  | .acted a _ => .atom a
  | .received c _ => .call c

namespace Follows

/-- A program that performs an atom follows it with what comes next. -/
lemma snoc_acted {p : Action σ α} {d : List (Deed σ)} {a : Atom σ}
    {next : a.Answer → Action σ α} (h : Follows p d (.ask (.atom a) next)) (x : a.Answer) :
    Follows p (d ++ [.acted a x]) (next x) := by
  generalize hq : (Program.ask (.atom a) next : Action σ α) = q at h
  induction h with
  | nil p =>
    subst hq
    exact .acted (.nil _)
  | acted _ ih => exact .acted (ih hq)
  | received _ ih => exact .received (ih hq)

/-- A program that receives an answer follows it with what comes next. -/
lemma snoc_received {p : Action σ α} {d : List (Deed σ)} {c : Call}
    {next : c.Answer → Action σ α} (h : Follows p d (.ask (.call c) next)) (x : c.Answer) :
    Follows p (d ++ [.received c x]) (next x) := by
  generalize hq : (Program.ask (.call c) next : Action σ α) = q at h
  induction h with
  | nil p =>
    subst hq
    exact .received (.nil _)
  | acted _ ih => exact .acted (ih hq)
  | received _ ih => exact .received (ih hq)

/-- The deeds of a program answer its questions. -/
lemma asked {π : Request σ → Prop} {p q : Action σ α} {d : List (Deed σ)} (h : Follows p d q)
    (hp : p.Only π) : ∀ x ∈ d, π x.request := by
  induction h with
  | nil p => exact List.forall_mem_nil _
  | acted _ ih | received _ ih =>
    rw [List.forall_mem_cons]
    exact ⟨hp.1, ih (hp.2 _)⟩

/-- What is left of a program asks no other questions than the program. -/
lemma only {π : Request σ → Prop} {p q : Action σ α} {d : List (Deed σ)} (h : Follows p d q)
    (hp : p.Only π) : q.Only π := by
  induction h with
  | nil p => exact hp
  | acted _ ih => exact ih (hp.2 _)
  | received _ ih => exact ih (hp.2 _)

end Follows

@[simp] lemma follows_done_iff {a : α} {d : List (Deed σ)} {q : Action σ α} :
    Follows (.done a) d q ↔ d = [] ∧ q = .done a := by
  constructor
  · intro h
    cases h
    exact ⟨rfl, rfl⟩
  · rintro ⟨rfl, rfl⟩
    exact .nil _

lemma follows_atom_iff {a : Atom σ} {next : a.Answer → Action σ α} {d : List (Deed σ)}
    {q : Action σ α} : Follows (.ask (.atom a) next) d q ↔
      (d = [] ∧ q = .ask (.atom a) next) ∨
        ∃ x d', d = .acted a x :: d' ∧ Follows (next x) d' q := by
  constructor
  · intro h
    cases h with
    | nil => exact .inl ⟨rfl, rfl⟩
    | acted h => exact .inr ⟨_, _, rfl, h⟩
  · rintro (⟨rfl, rfl⟩ | ⟨x, d', rfl, h⟩)
    · exact .nil _
    · exact .acted h

lemma follows_call_iff {c : Call} {next : c.Answer → Action σ α} {d : List (Deed σ)}
    {q : Action σ α} : Follows (.ask (.call c) next) d q ↔
      (d = [] ∧ q = .ask (.call c) next) ∨
        ∃ x d', d = .received c x :: d' ∧ Follows (next x) d' q := by
  constructor
  · intro h
    cases h with
    | nil => exact .inl ⟨rfl, rfl⟩
    | received h => exact .inr ⟨_, _, rfl, h⟩
  · rintro (⟨rfl, rfl⟩ | ⟨x, d', rfl, h⟩)
    · exact .nil _
    · exact .received h

namespace Follows

/-- A program that is done and begins with an atom has performed it first. -/
lemma of_atom {a : Atom σ} {next : a.Answer → Action σ α} {d : List (Deed σ)} {r : α}
    (h : Follows (.ask (.atom a) next) d (.done r)) :
    ∃ x d', d = .acted a x :: d' ∧ Follows (next x) d' (.done r) := by
  obtain ⟨-, e⟩ | h := follows_atom_iff.mp h
  · cases e
  · exact h

/-- A program that is done and begins with a call has received its answer first. -/
lemma of_call {c : Call} {next : c.Answer → Action σ α} {d : List (Deed σ)} {r : α}
    (h : Follows (.ask (.call c) next) d (.done r)) :
    ∃ x d', d = .received c x :: d' ∧ Follows (next x) d' (.done r) := by
  obtain ⟨-, e⟩ | h := follows_call_iff.mp h
  · cases e
  · exact h

/-- A program that has done something and begins with an atom has performed it first. -/
lemma of_atom_any {φ : Deed σ → Bool} {a : Atom σ} {next : a.Answer → Action σ α}
    {d : List (Deed σ)} {q : Action σ α} (h : Follows (.ask (.atom a) next) d q)
    (hd : d.any φ = true) : ∃ x d', d = .acted a x :: d' ∧ Follows (next x) d' q := by
  obtain ⟨rfl, -⟩ | h := follows_atom_iff.mp h
  · cases hd
  · exact h

/-- A program that has done something and begins with a call has received its answer first. -/
lemma of_call_any {φ : Deed σ → Bool} {c : Call} {next : c.Answer → Action σ α}
    {d : List (Deed σ)} {q : Action σ α} (h : Follows (.ask (.call c) next) d q)
    (hd : d.any φ = true) : ∃ x d', d = .received c x :: d' ∧ Follows (next x) d' q := by
  obtain ⟨rfl, -⟩ | h := follows_call_iff.mp h
  · cases hd
  · exact h

/-- A program that was done from the beginning has done nothing. -/
lemma of_done {a r : α} {d : List (Deed σ)} (h : Follows (.done a) d (.done r)) :
    d = [] ∧ r = a := by
  obtain ⟨rfl, e⟩ := follows_done_iff.mp h
  cases e
  exact ⟨rfl, rfl⟩

/-- The deeds of a program determine what is left of it. -/
lemma unique {p q q' : Action σ α} {d : List (Deed σ)} (h : Follows p d q) (h' : Follows p d q') :
    q = q' := by
  induction h with
  | nil p =>
    cases h'
    rfl
  | acted _ ih =>
    cases h' with
    | acted h' => exact ih h'
  | received _ ih =>
    cases h' with
    | received h' => exact ih h'

end Follows

/-- The program of a call, or that of the party. -/
def Board.source (B : Board σ) (main : Action σ α) : (o : Option Call) → Action σ (Result α o)
  | none => main
  | some c => B.program c

/-- Every program set aside follows the program of its call. -/
def Callers.Lawful (B : Board σ) (main : Action σ α) : {o : Option Call} → Callers σ α o → Prop
  | _, none => True
  | _, @call _ _ c o _ past next outer =>
    Follows (B.source main o) past (.ask (.call c) next) ∧ outer.Lawful B main

/-- Every program of a party in progress follows the program of its call. -/
def Party.Lawful (B : Board σ) (main : Action σ α) (p : Party σ α) : Prop :=
  Follows (B.source main p.owner) p.past p.rest ∧ p.callers.Lawful B main

lemma Board.Step.lawful {B : Board σ} {main : Action σ α} {w w' : World σ} {p p' : Party σ α}
    {l : Label σ} (h : B.Step w p l w' p') (hp : p.Lawful B main) : p'.Lawful B main := by
  obtain ⟨hf, hc⟩ := hp
  cases h with
  | act _ => exact ⟨hf.snoc_acted _, hc⟩
  | call => exact ⟨.nil _, hf, hc⟩
  | «return» => exact ⟨hc.1.snoc_received _, hc.2⟩

lemma Callers.Lawful.exists_follows {B : Board σ} {main : Action σ α} {o : Option Call}
    {k : Callers σ α o} (h : k.Lawful B main) {f : Frame σ} (hf : f ∈ k.frames) :
    ∃ q, Follows (B.source main f.owner) f.past q := by
  induction k with
  | none => cases hf
  | call c before past next outer ih =>
    rcases List.mem_cons.mp hf with rfl | hf
    · exact ⟨_, h.1⟩
    · exact ih h.2 hf

/-- Each program in progress follows the program of its call. -/
lemma Party.Lawful.exists_follows {B : Board σ} {main : Action σ α} {p : Party σ α}
    (h : p.Lawful B main) {f : Frame σ} (hf : f ∈ p.frames) :
    ∃ q, Follows (B.source main f.owner) f.past q := by
  rcases List.mem_cons.mp hf with rfl | hf
  · exact ⟨_, h.1⟩
  · exact h.2.exists_follows hf

namespace Pool

variable {B : Board σ} {P Q R : Pool n σ α} {l l' : List (Fin n × Label σ)}

/-! ## Steps and runs -/

lemma Step.exists_party {i : Fin n} {e : Label σ} (h : Step B P (i, e) Q) :
    ∃ w p, B.Step P.world (P.parties i) e w p ∧ Q = ⟨w, update P.parties i p⟩ := by
  cases h with
  | party h => exact ⟨_, _, h, rfl⟩

lemma Runs.trans (h : Runs B P l Q) (h' : Runs B Q l' R) : Runs B P (l ++ l') R := by
  induction h' with
  | refl => simpa using h
  | tail _ step ih =>
    rw [← List.append_assoc]
    exact .tail ih step

lemma Runs.head {e : Fin n × Label σ} (step : Step B P e Q) (run : Runs B Q l R) :
    Runs B P (e :: l) R :=
  (Runs.tail (.refl P) step).trans run

/-- A run that ends with a step. -/
lemma Runs.of_snoc {e : Fin n × Label σ} (h : Runs B P (l ++ [e]) Q) :
    ∃ R, Runs B P l R ∧ Step B R e Q := by
  generalize hl : l ++ [e] = k at h
  cases h with
  | refl => simp at hl
  | tail run step =>
    obtain ⟨rfl, he⟩ := List.append_inj' hl rfl
    cases he
    exact ⟨_, run, step⟩

/-- A run can be divided at any of its states. -/
lemma Runs.of_append (h : Runs B P (l ++ l') Q) : ∃ R, Runs B P l R ∧ Runs B R l' Q := by
  induction l' using List.reverseRecOn generalizing Q with
  | nil => exact ⟨Q, by simpa using h, .refl Q⟩
  | append_singleton l' e ih =>
    rw [← List.append_assoc] at h
    obtain ⟨S, before, step⟩ := h.of_snoc
    obtain ⟨R, first, second⟩ := ih before
    exact ⟨R, first, second.tail step⟩

/-- A step of a run stands between a run before it and a run after it. -/
lemma Runs.of_append_cons {e : Fin n × Label σ} (h : Runs B P (l ++ e :: l') Q) :
    ∃ R S, Runs B P l R ∧ Step B R e S ∧ Runs B S l' Q := by
  rw [List.append_cons] at h
  obtain ⟨S, before, after⟩ := h.of_append
  obtain ⟨R, before, step⟩ := before.of_snoc
  exact ⟨R, S, before, step, after⟩

/-- Each label of a run belongs to a step of it. -/
lemma Runs.exists_step {e : Fin n × Label σ} (h : Runs B P l Q) (he : e ∈ l) :
    ∃ l₁ l₂ R S, l = l₁ ++ e :: l₂ ∧ Runs B P l₁ R ∧ Step B R e S ∧ Runs B S l₂ Q := by
  obtain ⟨l₁, l₂, rfl⟩ := List.append_of_mem he
  obtain ⟨R, S, before, step, after⟩ := h.of_append_cons
  exact ⟨l₁, l₂, R, S, rfl, before, step, after⟩

/-- What every step keeps, every run keeps. -/
lemma Runs.preserves {I : Pool n σ α → Prop} (h : Runs B P l Q)
    (keep : ∀ {Q e R}, Step B Q e R → I Q → I R) (hP : I P) : I Q := by
  induction h with
  | refl => exact hP
  | tail _ step ih => exact keep step ih

/-- A property of each party is kept by a step if the party that makes it keeps it. -/
lemma Step.parties {I : Fin n → Party σ α → Prop} {i : Fin n} {e : Label σ}
    (h : Step B P (i, e) Q) (hP : ∀ j, I j (P.parties j))
    (keep : ∀ {w p}, B.Step P.world (P.parties i) e w p → I i p) : ∀ j, I j (Q.parties j) := by
  obtain ⟨w, p, hs, rfl⟩ := h.exists_party
  intro j
  by_cases hj : j = i
  · subst hj
    simpa using keep hs
  · simpa [update_of_ne _ _ hj] using hP j

/-- Only an atom changes the world. -/
lemma Step.world_eq {i : Fin n} {e : Label σ} (h : Step B P (i, e) Q) :
    (∃ a x, e = .acted a x ∧ a.Performs P.world x Q.world) ∨
      ((∀ a x, e ≠ .acted a x) ∧ Q.world = P.world) := by
  obtain ⟨w, p, hs, rfl⟩ := h.exists_party
  generalize P.parties i = q at hs
  cases hs with
  | act ha => exact .inl ⟨_, _, rfl, ha⟩
  | call => exact .inr ⟨nofun, rfl⟩
  | «return» => exact .inr ⟨nofun, rfl⟩

/-- A step that performs an atom performs it on the world. -/
lemma Step.performs {i : Fin n} {a : Atom σ} {x : a.Answer} (h : Step B P (i, .acted a x) Q) :
    a.Performs P.world x Q.world := by
  rcases h.world_eq with ⟨b, y, he, hb⟩ | ⟨he, -⟩
  · cases he
    exact hb
  · exact absurd rfl (he a x)

/-! ## Runs of clients -/

/-- The pool of a number of clients in a world, before any of them did anything. -/
def startIn (w : World σ) (clients : Fin n → Reaction σ α) : Pool n σ α where
  world := w
  parties i := Party.start w (clients i).action

variable {base : World σ} {clients : Fin n → Reaction σ α}

/-- In a run of clients, every program in progress follows the program of its call. -/
lemma Runs.lawful (h : Runs B (startIn base clients) l P) (i : Fin n) :
    (P.parties i).Lawful B (clients i).action := by
  refine h.preserves (I := fun P => ∀ i, (P.parties i).Lawful B (clients i).action) ?_ ?_ i
  · rintro Q ⟨j, e⟩ R step hQ
    exact step.parties hQ fun hs => hs.lawful (hQ j)
  · intro j
    exact ⟨.nil _, trivial⟩

/-- A call that ends in a step was in progress with its deeds, and has followed its program to the
end. -/
lemma Runs.frame_of_return (run : Runs B (startIn base clients) l P) {i : Fin n} {c : Call}
    {before : World σ} {x : c.Answer} {d : List (Deed σ)}
    (step : Step B P (i, .returned c before x d) Q) :
    ⟨some c, before, d, none⟩ ∈ (P.parties i).frames ∧ Follows (B.program c) d (.done x) := by
  have law := run.lawful i
  obtain ⟨w, p, hs, rfl⟩ := step.exists_party
  generalize P.parties i = q at hs law
  cases hs with
  | «return» => exact ⟨by simp [Party.frames], law.1⟩

/-- A call that ended has followed its program to the end. -/
lemma Runs.follows_of_returned (run : Runs B (startIn base clients) l P) {i : Fin n} {c : Call}
    {before : World σ} {x : c.Answer} {d : List (Deed σ)}
    (he : (i, .returned c before x d) ∈ l) : Follows (B.program c) d (.done x) := by
  obtain ⟨_, _, _, _, -, run, step, -⟩ := run.exists_step he
  exact (run.frame_of_return step).2

/-! ## Finding runs -/

lemma step_of_step? {w w' : World σ} {p p' : Party σ α} {e : Label σ}
    (h : B.step? w p = some (e, w', p')) : B.Step w p e w' p' := by
  obtain ⟨o, w₀, past, rest, callers⟩ := p
  cases rest with
  | ask q next =>
    cases q with
    | atom a =>
      simp only [Board.step?] at h
      split at h
      · next ha =>
        cases h
        exact .act (.effect ha)
      · cases h
    | call c =>
      cases h
      exact .call ..
  | done x =>
    cases callers with
    | none => cases h
    | call c before past next outer =>
      cases h
      exact .return ..

/-- What a pool plays under a schedule is a run of it. -/
lemma runs_of_play {schedule : List (Fin n)} (h : P.play B schedule = some (l, Q)) :
    Runs B P l Q := by
  induction schedule generalizing P l with
  | nil =>
    cases h
    exact .refl _
  | cons i schedule ih =>
    simp only [play] at h
    split at h
    · cases h
    · next e w p hs =>
      split at h
      · cases h
      · next rest R hr =>
        cases h
        exact .head (.party (step_of_step? hs)) (ih hr)

/-- The run that a pool plays under a schedule. -/
lemma runs_of_isSome {schedule : List (Fin n)} (h : (P.play B schedule).isSome) :
    Runs B P ((P.play B schedule).get h).1 ((P.play B schedule).get h).2 :=
  runs_of_play (Option.some_get h).symm

end Pool

/-- The answer of an operation that succeeds and leaves the caller's buffer as it is. -/
def Operation.succeeded : (o : Operation) → o.Args → o.Answer
  | .faultGet, held | .stateGet, held => (.ok (), held)
  | .ioctl, (_, arg) => (.ok 0, arg)
  | .setup, _ | .shutdown, _ | .start, _ | .stop, _ | .modeSet, _ | .limitsSet, _ | .paramsSet, _
  | .faultSet, _ | .faultClean, _ => .ok ()

/-- A lower half that sets the hardware up in a given way and stores in the control block what it is
told to. -/
def LowerHalf.obedient (setup : Reaction σ (Except DeviceError Unit)) : LowerHalf σ where
  provided := pure Flags.all
  operate s
    | .setup, _ => setup
    | .modeSet, m => do
      (Service.control s (.setMode m)).use
      pure (.ok ())
    | .limitsSet, l => (Service.control s (.storeLimits l)).use
    | .paramsSet, p => (Service.control s (.storeParams p)).use
    | o, args => pure (o.succeeded args)
  discard := pure ()

/-- A board with such a lower half, on which nobody waits. -/
def Board.obedient (setup : Reaction σ (Except DeviceError Unit)) : Board σ where
  lower _ := LowerHalf.obedient setup
  platform _ := ⟨pure 0, fun _ => pure (), pure (.error .timedOut), pure ()⟩
  log _ := pure ()
  publish _ _ _ _ := pure (.ok ())

end LedDriver
