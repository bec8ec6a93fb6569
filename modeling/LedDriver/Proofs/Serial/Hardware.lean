import LedDriver.Proofs.Rejection.Erasure
import LedDriver.Proofs.Nesting.Interrupts
import LedDriver.Proofs.Serial.Phases

/-!
# The state of the hardware

A lower half may be any state machine: setting up the hardware and putting it to rest go by a part
of the state of the surroundings, which nothing else on the board touches (`Board.Mechanical`).
Where no client calls these operations past the policy, they never overlap
(`Runs.countP_isWork_le`), so that each of them finds that state as the last one left it.  At every
state of a run it is therefore where the calls that ended have driven it, one after the other, and
where the call in progress has got from there (`Runs.hardware`).
-/

namespace LedDriver

variable {σ τ α S κ : Type} {n : Nat}

/-! ## Paths -/

/-- A way from one state to another along steps with labels. -/
def Path (R : S → κ → S → Prop) : S → List κ → S → Prop
  | x, [], y => y = x
  | x, k :: ks, y => ∃ z, R x k z ∧ Path R z ks y

namespace Path

variable {R : S → κ → S → Prop} {x y z : S} {k : κ} {ks ks' : List κ}

@[simp] lemma nil_iff : Path R x [] y ↔ y = x := Iff.rfl

@[simp] lemma cons_iff : Path R x (k :: ks) y ↔ ∃ z, R x k z ∧ Path R z ks y := Iff.rfl

/-- A way along two lists of labels has a state between them. -/
lemma append_iff : Path R x (ks ++ ks') y ↔ ∃ z, Path R x ks z ∧ Path R z ks' y := by
  induction ks generalizing x with
  | nil => simp
  | cons k ks ih =>
    simp only [List.cons_append, cons_iff, ih]
    constructor
    · rintro ⟨u, first, v, rest, last⟩
      exact ⟨v, ⟨u, first, rest⟩, last⟩
    · rintro ⟨v, ⟨u, first, rest⟩, last⟩
      exact ⟨u, first, v, rest, last⟩

/-- A way can be continued by a step. -/
lemma snoc (h : Path R x ks y) (step : R y k z) : Path R x (ks ++ [k]) z :=
  append_iff.mpr ⟨y, h, z, step, rfl⟩

end Path

/-! ## State machines -/

/-- A deed of the surroundings changes a part of their state. -/
def Deed.Moves (view : σ → τ) (t : τ) (x : Deed σ) (t' : τ) : Prop :=
  ∃ f a, x = .acted (.own f) a ∧ view a = t ∧ t' = view (f a)

/-- A call that left the driver drives a part of the state of the surroundings from one value to
another. -/
def Board.Drives (B : Board σ) (view : σ → τ) (t : τ) (x : Deed σ) (t' : τ) : Prop :=
  ∃ c y d, x = .received (.peer c) y ∧ Follows (B.reaction c).action d (.done y) ∧
    Path (Deed.Moves view) t d t'

/-- The surroundings use no service. -/
def Use.IsOwn : Use σ → Prop
  | .own _ => True
  | .service _ => False

/-- A call that makes the hardware of a session work, whoever makes it. -/
def Peer.IsWork (s : SessionId) : Peer → Prop
  | .operate _ _ u .setup _ | .operate _ _ u .shutdown _ => u = s
  | _ => False

/-- The call makes the hardware of a session work past the policy. -/
def Call.Direct (s : SessionId) : Call → Prop
  | .service (.operate u .setup _) | .service (.operate u .shutdown _) => u = s
  | .peer (.operate .client _ u .setup _) | .peer (.operate .client _ u .shutdown _) => u = s
  | _ => False

/-- The surroundings keep away from a part of their own state and do not make the hardware of a
session work past the policy. -/
def Use.Apart (s : SessionId) (view : σ → τ) : Use σ → Prop
  | .own f => ∀ a, view (f a) = view a
  | .service c => ¬ (Call.service c).Direct s

/-- Setting up the hardware of a session and putting it to rest use no service and go by a part of
the state of the surroundings, which nothing else on the board touches.  The journal uses no
service, and neither does masking the interrupts. -/
structure Board.Mechanical (B : Board σ) (s : SessionId) (view : σ → τ) : Prop where
  works : ∀ c : Peer, c.IsWork s → (B.reaction c).Only Use.IsOwn ∧ (B.reaction c).GoesBy view
  others : ∀ c : Peer, ¬ c.IsWork s → (B.reaction c).Only (Use.Apart s view)
  journal : B.JournalKeeps view
  enter : ∀ p, (B.platform p).enter.Only (Use.Keeps view)
  leave : ∀ p x, ((B.platform p).leave x).Only (Use.Keeps view)

/-- What a program may ask for that keeps away from a part of the surroundings' state. -/
def Request.Apart (s : SessionId) (view : σ → τ) : Request σ → Prop
  | .atom (.own f) => ∀ a, view (f a) = view a
  | .atom _ => True
  | .call c => ¬ c.Direct s

section Programs

variable {s : SessionId} {view : σ → τ} {B : Board σ} {c : Call}

lemma Reaction.action_apart {r : Reaction σ α} (h : r.Only (Use.Apart s view)) :
    r.action.Only (Request.Apart s view) := by
  induction r with
  | done a => trivial
  | ask u next ih =>
    cases u with
    | own f => exact ⟨h.1, fun x => ih x (h.2 x)⟩
    | service c => exact ⟨h.1, fun x => ih x (h.2 x)⟩

/-- Only a client has the hardware work past the policy. -/
lemma Call.Asks.apart {q : Request σ} (h : c.Asks q) (hc : ∀ d, c ≠ .peer d)
    (policy : ¬ c.Direct s) : q.Apart s view := by
  cases h
  case operate_lower u o args h => cases o <;> exact policy
  case peer_own d f | peer_use d c => exact absurd rfl (hc d)
  all_goals trivial

/-- The programs of the driver, and of everything on the board that is not to make the hardware
work, keep away from its state. -/
lemma Board.Mechanical.program_apart (board : B.Mechanical s view) (policy : ¬ c.Direct s)
    (hc : c.isWork s = false) : (B.program c).Only (Request.Apart s view) := by
  cases c with
  | service c => exact (B.program_asks (.service c)).mono fun q hq => hq.apart nofun policy
  | routine c => exact (B.program_asks (.routine c)).mono fun q hq => hq.apart nofun policy
  | peer c =>
    have other : ¬ c.IsWork s := by
      intro work
      unfold Peer.IsWork at work
      split at work
      · next k h u x =>
        subst work
        cases k with
        | driver => simp [Call.isWork, Call.isSetup] at hc
        | client => exact policy rfl
      · next k h u x =>
        subst work
        cases k with
        | driver => simp [Call.isWork, Call.isShutdown] at hc
        | client => exact policy rfl
      · exact work
    exact Reaction.action_apart (board.others c other)

/-- What is to make the hardware work does nothing but change the state of the surroundings. -/
lemma Board.Mechanical.program_own (board : B.Mechanical s view) (hc : c.isWork s = true) :
    (B.program c).Only fun q => ∃ f, q = Request.atom (.own f) := by
  have own {β : Type} {r : Reaction σ β} (h : r.Only Use.IsOwn) :
      r.action.Only fun q => ∃ f, q = Request.atom (.own f) := by
    induction r with
    | done a => trivial
    | ask u next ih =>
      cases u with
      | own f => exact ⟨⟨f, rfl⟩, fun x => ih x (h.2 x)⟩
      | service c => exact h.1.elim
  obtain ⟨h, rfl | rfl⟩ := Call.isWork_iff.mp hc
  · exact own (board.works (.operate .driver h s .setup ()) rfl).1
  · exact own (board.works (.operate .driver h s .shutdown ()) rfl).1

end Programs

/-! ## Calls that make the hardware work -/

/-- The program makes the hardware of a session work. -/
def Frame.isWork (s : SessionId) (f : Frame σ) : Bool := f.owner.any (Call.isWork s)

/-- The program waits for the hardware of a session to work. -/
def Frame.awaitsWork (s : SessionId) (f : Frame σ) : Bool := f.pending.any (Call.isWork s)

/-- The hardware of a session has worked, with a result. -/
def Label.work? (s : SessionId) : Label σ → Option (Deed σ)
  | .returned c _ x _ => if c.isWork s then some (.received c x) else none
  | .acted _ _ | .called _ => none

@[simp] lemma Label.work?_acted (s : SessionId) (a : Atom σ) (x : a.Answer) :
    (Label.acted a x).work? s = none := rfl

@[simp] lemma Label.work?_called (s : SessionId) (c : Call) :
    (Label.called c : Label σ).work? s = none := rfl

lemma Label.work?_returned (s : SessionId) (c : Call) (w : World σ) (x : c.Answer)
    (d : List (Deed σ)) :
    (Label.returned c w x d).work? s = if c.isWork s then some (.received c x) else none := rfl

/-- The deeds of the program in progress that has a property, or none if no program has it. -/
def InProgress (p : Frame σ → Prop) (F : Multiset (Frame σ)) (d : List (Deed σ)) : Prop :=
  (d = [] ∧ ∀ f ∈ F, ¬ p f) ∨ ∃ f ∈ F, p f ∧ f.past = d

namespace InProgress

variable {p : Frame σ → Prop} {f : Frame σ} {rest : Multiset (Frame σ)} {d : List (Deed σ)}

/-- A program that does not have the property does not matter. -/
lemma cons_iff (hf : ¬ p f) : InProgress p (f ::ₘ rest) d ↔ InProgress p rest d := by
  simp [InProgress, hf]

/-- If no program has the property, there are no such deeds. -/
lemma iff_of_none (none : ∀ g ∈ rest, ¬ p g) : InProgress p rest d ↔ d = [] := by
  constructor
  · rintro (⟨rfl, -⟩ | ⟨g, hg, has, -⟩)
    · rfl
    · exact absurd has (none g hg)
  · rintro rfl
    exact .inl ⟨rfl, none⟩

/-- If one program has the property, the deeds are its own. -/
lemma cons_iff_of_only (hf : p f) (none : ∀ g ∈ rest, ¬ p g) :
    InProgress p (f ::ₘ rest) d ↔ d = f.past := by
  constructor
  · rintro (⟨-, all⟩ | ⟨g, hg, has, rfl⟩)
    · exact absurd hf (all f (Multiset.mem_cons_self _ _))
    · rcases Multiset.mem_cons.mp hg with rfl | hg
      · rfl
      · exact absurd has (none g hg)
  · rintro rfl
    exact .inr ⟨f, Multiset.mem_cons_self _ _, hf, rfl⟩

end InProgress

/-- What makes the hardware work calls nothing. -/
lemma Board.Mechanical.not_isWork {B : Board σ} {s : SessionId} {view : σ → τ}
    (board : B.Mechanical s view) {f : Frame σ} {c : Call}
    (ask : B.Continues f.owner f.past (.call c)) :
    f.isWork s = false := by
  obtain ⟨o, w, d, p⟩ := f
  by_contra work
  obtain ⟨c', rfl, made⟩ := (Option.any_eq_true _ _).mp ((Bool.not_eq_false _).mp work)
  obtain ⟨next, follows⟩ := ask
  obtain ⟨g, hg⟩ := (follows.only (board.program_own made)).1
  cases hg

/-- Programs that are set aside wait for what they asked for. -/
lemma Callers.Lawful.continues {B : Board σ} {main : Reaction σ α} {o : Option Call}
    {k : Callers σ α o} (h : k.Lawful B main.action) {f : Frame σ} (hf : f ∈ k.frames) :
    ∃ c, f.pending = some c ∧ B.Continues f.owner f.past (.call c) := by
  induction k with
  | none => cases hf
  | call c before past next outer ih =>
    rcases List.mem_cons.mp hf with rfl | hf
    · exact ⟨c, rfl, Board.continues_of_follows h.1⟩
    · exact ih h.2 hf

namespace Pool

variable {B : Board σ} {P Q : Pool n σ α} {l : List (Fin n × Label σ)} {own : σ}
  {clients : Fin n → Reaction σ α} {s : SessionId} {view : σ → τ}

/-- What the hardware of a session was made to do in a run, with the results. -/
def works (s : SessionId) (l : List (Fin n × Label σ)) : List (Deed σ) :=
  l.filterMap fun e => e.2.work? s

lemma works_snoc (s : SessionId) (l : List (Fin n × Label σ)) (i : Fin n) (e : Label σ) :
    works s (l ++ [(i, e)]) = works s l ++ (e.work? s).toList := by
  unfold works
  rw [List.filterMap_append]
  cases h : e.work? s <;> simp [h]

/-- A program that waits for a call has asked for it. -/
lemma Runs.continues_of_pending (run : Runs B (start own clients) l P) {i : Fin n} {f : Frame σ}
    (hf : f ∈ (P.parties i).frames) {c : Call} (pending : f.pending = some c) :
    B.Continues f.owner f.past (.call c) := by
  rcases List.mem_cons.mp hf with rfl | hf
  · cases pending
  · obtain ⟨c', pending', ask⟩ := (run.lawful i).2.continues hf
    rw [pending] at pending'
    cases pending'
    exact ask

/-- Each call that makes the hardware work has a program that waits for it. -/
lemma Runs.countP_isWork (run : Runs B (start own clients) l P) (s : SessionId) :
    P.frames.countP (fun f => f.isWork s) = P.frames.countP fun f => f.awaitsWork s := by
  induction run with
  | refl =>
    have idle : ∀ f ∈ (start own clients).frames, f.isWork s = false ∧ f.awaitsWork s = false := by
      intro f hf
      rw [frames_start] at hf
      obtain rfl := Multiset.eq_of_mem_replicate hf
      exact ⟨rfl, rfl⟩
    rw [Multiset.countP_eq_zero.mpr fun f hf => by simp [(idle f hf).1],
      Multiset.countP_eq_zero.mpr fun f hf => by simp [(idle f hf).2]]
  | @tail Q R l e run step ih =>
    obtain ⟨i, e⟩ := e
    obtain ⟨old, new, rest, hold, hnew, turn⟩ := run.turn_frames step
    have balance : (new.countP fun f => decide (f.isWork s = true)) +
        (old.countP fun f => decide (f.awaitsWork s = true)) =
        (old.countP fun f => decide (f.isWork s = true)) +
        new.countP fun f => decide (f.awaitsWork s = true) := by
      generalize R.world = w at turn
      cases turn with
      | @act o _ _ _ _ _ _ _ =>
        cases own : o.any (Call.isWork s) <;>
          simp [Frame.isWork, Frame.awaitsWork, own]
      | @call o _ _ c _ | @«return» o _ _ _ _ c _ _ _ =>
        cases own : o.any (Call.isWork s) <;> cases made : c.isWork s <;>
          simp [Frame.isWork, Frame.awaitsWork, own, made]
    rw [hold, Multiset.countP_add, Multiset.countP_add, Multiset.coe_countP,
      Multiset.coe_countP] at ih
    rw [hnew, Multiset.countP_add, Multiset.countP_add, Multiset.coe_countP, Multiset.coe_countP]
    omega

/-- A program that waits for the hardware to work serves. -/
lemma Runs.serves_of_awaitsWork (run : Runs B (start own clients) l P) {f : Frame σ}
    (hf : f ∈ P.frames) (awaits : f.awaitsWork s = true) : f.Serves s := by
  obtain ⟨i, hf⟩ := mem_frames_iff.mp hf
  obtain ⟨c, pending, work⟩ := (Option.any_eq_true _ _).mp awaits
  exact (run.continues_of_pending hf pending).serves work

/-- Setting up the hardware of a session and putting it to rest never overlap. -/
theorem Runs.countP_isWork_le (run : Runs B (start own clients) l P) (s : SessionId) :
    P.frames.countP (fun f => f.isWork s) ≤ 1 := by
  rw [run.countP_isWork s]
  refine le_trans ?_ (run.countP_holds_le s)
  have both : (P.frames.filter fun f => f.awaitsWork s) =
      P.frames.filter fun f => f.awaitsWork s ∧ (f.view s).Holds := by
    refine Multiset.filter_congr fun f hf => ?_
    exact ⟨fun h => ⟨h, (run.serves_of_awaitsWork hf h).holds⟩, And.left⟩
  rw [Multiset.countP_eq_card_filter, Multiset.countP_eq_card_filter, both]
  exact Multiset.card_le_card (Multiset.monotone_filter_right _ fun f hf => hf.2)

/-- Where one program makes the hardware work, no other program does. -/
lemma Runs.isWork_eq_false (run : Runs B (start own clients) l P) {f : Frame σ}
    {rest : Multiset (Frame σ)} (frames : P.frames = f ::ₘ rest) (hf : f.isWork s = true) :
    ∀ g ∈ rest, g.isWork s = false := by
  have one := run.countP_isWork_le s
  rw [frames, Multiset.countP_cons, if_pos hf] at one
  intro g hg
  have none : rest.countP (fun f => f.isWork s) = 0 := by omega
  simpa using Multiset.countP_eq_zero.mp none g hg

/-! ## The state of the hardware over runs -/

/-- A program that performs an atom or begins a call either makes the hardware work, and then
changes the state of the surroundings, or keeps away from the hardware. -/
lemma Runs.request_apart (run : Runs B (start own clients) l P) (board : B.Mechanical s view)
    {i : Fin n} (apart : (clients i).Only (Use.Apart s view))
    (policy : ∀ f ∈ (P.parties i).frames, ∀ c, f.owner = some c → ¬ c.Direct s) {e : Label σ}
    (step : Step B P (i, e) Q) (begins : ∀ c w x d, e ≠ .returned c w x d) :
    ∃ f rest, (P.parties i).frames = f :: rest ∧
      ((f.isWork s = true ∧ ∃ g, e.request = .atom (.own g)) ∨
        (f.isWork s = false ∧ e.request.Apart s view)) := by
  obtain ⟨o, w₀, d, rest, top, source⟩ := run.exists_source step begins
  refine ⟨_, rest, top, ?_⟩
  cases o with
  | none => exact .inr ⟨rfl, source _ (Reaction.action_apart apart)⟩
  | some c =>
    cases work : c.isWork s with
    | true => exact .inl ⟨work, source _ (board.program_own work)⟩
    | false =>
      have allowed : ¬ c.Direct s := policy _ (by rw [top]; exact List.mem_cons_self ..) c rfl
      exact .inr ⟨work, source _ (board.program_apart allowed work)⟩

/-- Where no client has the hardware work past the policy, nobody does. -/
lemma Runs.not_direct (run : Runs B (start own clients) l P) (board : B.Mechanical s view)
    (apart : ∀ i, (clients i).Only (Use.Apart s view)) (i : Fin n) :
    ∀ f ∈ (P.parties i).frames, ∀ c, f.owner = some c → ¬ c.Direct s := by
  induction run generalizing i with
  | refl =>
    intro f hf c hc
    obtain rfl := List.mem_singleton.mp hf
    cases hc
  | @tail Q R l e run step ih =>
    obtain ⟨j, e⟩ := e
    obtain ⟨old, new, below, hold, hnew, others, turn⟩ := run.turn step
    intro f hf c hc
    by_cases hi : i = j
    · subst hi
      have before := ih i
      rw [hold] at before
      rw [hnew] at hf
      rcases List.mem_append.mp hf with hf | hf
      · generalize R.world = w at turn
        cases turn with
        | act _ _ =>
          obtain rfl := List.mem_singleton.mp hf
          exact before _ (List.mem_append_left _ (List.mem_singleton_self _)) c hc
        | call _ =>
          rcases List.mem_cons.mp hf with rfl | hf
          · cases hc
            obtain ⟨g, rest, -, ⟨-, k, atom⟩ | ⟨-, call⟩⟩ :=
              run.request_apart board (apart i) (ih i) step fun _ _ _ _ => nofun
            · cases atom
            · exact call
          · obtain rfl := List.mem_singleton.mp hf
            exact before _ (List.mem_append_left _ (List.mem_singleton_self _)) c hc
        | «return» _ _ =>
          obtain rfl := List.mem_singleton.mp hf
          exact before _ (List.mem_append_left _ (.tail _ (List.mem_singleton_self _))) c hc
      · exact before f (List.mem_append_right _ hf) c hc
    · rw [others i hi] at hf
      exact ih i f hf c hc

/-- The state of the hardware is where the calls that ended have driven it, one after the other, and
where the call in progress has got from there. -/
def Driven (B : Board σ) (s : SessionId) (view : σ → τ) (t₀ : τ) (F : Multiset (Frame σ))
    (works : List (Deed σ)) (now : τ) : Prop :=
  ∃ t d, Path (B.Drives view) t₀ works t ∧ InProgress (fun f => f.isWork s = true) F d ∧
    Path (Deed.Moves view) t d now

namespace Driven

variable {t₀ now : τ} {f f' : Frame σ} {rest : Multiset (Frame σ)} {hs : List (Deed σ)}
  {w : World σ} {d : List (Deed σ)} {c : Call}

/-- A program that does not make the hardware work does not matter. -/
lemma cons_iff (hf : f.isWork s = false) :
    Driven B s view t₀ (f ::ₘ rest) hs now ↔ Driven B s view t₀ rest hs now := by
  have idle : ¬ f.isWork s = true := by simp [hf]
  unfold Driven
  simp only [InProgress.cons_iff (p := fun f => f.isWork s = true) idle]

/-- The program that makes the hardware work moves it. -/
lemma move {g : σ → σ} {a : σ} (h : Driven B s view t₀ (f ::ₘ rest) hs (view a))
    (work : f.isWork s = true) (alone : ∀ g ∈ rest, g.isWork s = false) (owner : f'.owner = f.owner)
    (past : f'.past = f.past ++ [.acted (.own g) a]) :
    Driven B s view t₀ (f' ::ₘ rest) hs (view (g a)) := by
  have none g (hg : g ∈ rest) : ¬ g.isWork s = true := by simp [alone g hg]
  have work' : f'.isWork s = true := by rwa [Frame.isWork, owner]
  obtain ⟨t, m, driven, progress, moved⟩ := h
  obtain rfl := (InProgress.cons_iff_of_only work none).mp progress
  refine ⟨t, _, driven, (InProgress.cons_iff_of_only work' none).mpr rfl, ?_⟩
  rw [past]
  exact moved.snoc ⟨g, a, rfl, rfl, rfl⟩

/-- A call begins to make the hardware work. -/
lemma enter (h : Driven B s view t₀ rest hs now) (work : c.isWork s = true)
    (alone : ∀ g ∈ rest, g.isWork s = false) :
    Driven B s view t₀ (⟨some c, w, [], none⟩ ::ₘ rest) hs now := by
  have none g (hg : g ∈ rest) : ¬ g.isWork s = true := by simp [alone g hg]
  obtain ⟨t, m, driven, progress, moved⟩ := h
  obtain rfl := (InProgress.iff_of_none none).mp progress
  exact ⟨t, [], driven, (InProgress.cons_iff_of_only work none).mpr rfl, moved⟩

/-- The call that made the hardware work ends. -/
lemma leave {x : c.Answer} (h : Driven B s view t₀ (⟨some c, w, d, none⟩ ::ₘ rest) hs now)
    (work : c.isWork s = true) (alone : ∀ g ∈ rest, g.isWork s = false)
    (complete : Follows (B.program c) d (.done x)) :
    Driven B s view t₀ rest (hs ++ [.received c x]) now := by
  have none g (hg : g ∈ rest) : ¬ g.isWork s = true := by simp [alone g hg]
  obtain ⟨t, m, driven, progress, moved⟩ := h
  obtain rfl := (InProgress.cons_iff_of_only work none).mp progress
  obtain ⟨c', rfl⟩ : ∃ c', c = .peer c' := by
    obtain ⟨h, rfl | rfl⟩ := Call.isWork_iff.mp work <;> exact ⟨_, rfl⟩
  exact ⟨now, [], driven.snoc ⟨c', x, _, rfl, complete, moved⟩,
    (InProgress.iff_of_none none).mpr rfl, rfl⟩

end Driven

/-- The state of the hardware is where the calls that ended have driven it, and where the call in
progress has got from there. -/
theorem Runs.hardware (run : Runs B (start own clients) l P) (board : B.Mechanical s view)
    (apart : ∀ i, (clients i).Only (Use.Apart s view)) :
    Driven B s view (view own) P.frames (works s l) (view P.world.own) := by
  induction run with
  | refl =>
    refine ⟨view own, [], rfl, .inl ⟨rfl, fun f hf => ?_⟩, rfl⟩
    rw [frames_start] at hf
    obtain rfl := Multiset.eq_of_mem_replicate hf
    exact nofun
  | @tail Q R l e run step ih =>
    obtain ⟨i, e⟩ := e
    obtain ⟨old, new, below, hold, hnew, others, turn⟩ := run.turn step
    obtain ⟨rest, frames, frames'⟩ := frames_of_turn hold hnew others
    have source := run.request_apart board (apart i) (run.not_direct board apart i) step
    have next := run.tail step
    rw [works_snoc]
    generalize R.world = w at turn ⊢
    cases turn with
    | @act o w₀ w' d a x ask ha =>
      simp only [coe_cons_add, coe_nil_add] at frames frames'
      obtain ⟨g, _, top, source⟩ := source fun _ _ _ _ => nofun
      obtain ⟨rfl, -⟩ := List.cons.inj (hold.symm.trans top)
      rw [frames] at ih
      rw [frames', Label.work?_acted, Option.toList_none, List.append_nil]
      rcases source with ⟨work, g, hg⟩ | ⟨idle, keeps⟩
      · cases hg
        obtain ⟨rfl, after⟩ := ha.of_own
        rw [after]
        exact ih.move work (run.isWork_eq_false frames work) rfl rfl
      · have same : view w.own = view Q.world.own := by
          by_cases own : ∃ f, a = .own f
          · obtain ⟨f, rfl⟩ := own
            rw [ha.of_own.2]
            exact keeps _
          · rw [ha.own_eq fun f hf => own ⟨f, hf⟩]
        have idle' : Frame.isWork s ⟨o, w₀, d ++ [.acted a x], none⟩ = false := idle
        rw [Driven.cons_iff idle] at ih
        rw [same, Driven.cons_iff idle']
        exact ih
    | @call o w₀ d c ask =>
      simp only [coe_cons_add, coe_nil_add] at frames frames'
      have asks : Frame.isWork s ⟨o, w₀, d, none⟩ = false := board.not_isWork ask
      have waits : Frame.isWork s ⟨o, w₀, d, some c⟩ = false := asks
      rw [frames, Driven.cons_iff asks, ← Driven.cons_iff waits] at ih
      rw [frames', Label.work?_called, Option.toList_none, List.append_nil]
      cases work : c.isWork s with
      | true => exact ih.enter work (next.isWork_eq_false frames' work)
      | false =>
        have other : Frame.isWork s ⟨some c, Q.world, [], none⟩ = false := work
        exact (Driven.cons_iff other).mpr ih
    | @«return» o w₀ w₁ d deeds c x ask complete =>
      simp only [coe_cons_add, coe_nil_add] at frames frames'
      have waits : Frame.isWork s ⟨o, w₀, d, some c⟩ = false := board.not_isWork ask
      have asks : Frame.isWork s ⟨o, w₀, d ++ [.received c x], none⟩ = false := waits
      rw [frames] at ih
      rw [frames', Label.work?_returned, Driven.cons_iff asks, ← Driven.cons_iff waits]
      cases work : c.isWork s with
      | true =>
        rw [if_pos rfl, Option.toList_some]
        exact ih.leave work (run.isWork_eq_false frames work) complete
      | false =>
        have other : Frame.isWork s ⟨some c, w₁, deeds, none⟩ = false := work
        rw [if_neg Bool.false_ne_true, Option.toList_none, List.append_nil]
        exact (Driven.cons_iff other).mp ih

end Pool

end LedDriver
