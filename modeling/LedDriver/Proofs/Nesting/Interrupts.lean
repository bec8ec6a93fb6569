import LedDriver.Proofs.System.Trees
import LedDriver.Proofs.Nesting.Exclusion

/-!
# The state of the interrupts

A platform may keep the state of its interrupts as a number, which masking advances by one and
restoring sets to what it is told (`Board.Advances`).  Where one party is alone and nobody else
touches that number, it is always what the sections that are open call for (`Runs.level`): each was
told the number below it and has advanced it by one.  Hence the number is as it was in the beginning
whenever no call is in progress (`Runs.restored`).
-/

namespace LedDriver

variable {σ τ α : Type} {n : Nat}

/-- The surroundings leave a part of their own state alone. -/
def Use.Spares (view : σ → τ) : Use σ → Prop
  | .own f => ∀ a, view (f a) = view a
  | .service _ => True

/-- What spares a part of the surroundings' state is one of its atoms. -/
def Request.Spares (view : σ → τ) : Request σ → Prop
  | .atom (.own f) => ∀ a, view (f a) = view a
  | _ => True

lemma Reaction.action_spares {view : σ → τ} {r : Reaction σ α} (h : r.Only (Use.Spares view)) :
    r.action.Only (Request.Spares view) := by
  induction r with
  | done a => trivial
  | ask u next ih =>
    cases u with
    | own f => exact ⟨h.1, fun x => ih x (h.2 x)⟩
    | service c => exact ⟨trivial, fun x => ih x (h.2 x)⟩

/-- A platform whose masking of interrupts answers a number and advances it by one, and whose
restoring sets it, while nothing else on the board changes it. -/
structure Board.Advances (B : Board σ) (p : PlatformId) (irq : σ → UInt64) : Prop where
  enter : ∃ f, (∀ a, irq (f a) = irq a + 1) ∧
    (B.platform p).enter = .ask (.own f) fun a => .done (irq a)
  leave : ∀ saved, ∃ f, (∀ a, irq (f a) = saved) ∧
    (B.platform p).leave saved = .ask (.own f) fun _ => .done ()
  others : ∀ c : Peer, c ≠ .enter p → (∀ saved, c ≠ .leave p saved) →
    (B.reaction c).Only (Use.Spares irq)

/-- The number that open sections call for, the innermost first: each was told the number that those
below it call for, and has advanced it by one. -/
def Level (base : UInt64) : List UInt64 → UInt64 → Prop
  | [], v => v = base
  | saved :: below, v => v = saved + 1 ∧ Level base below saved

/-- What was told to the sections of a platform. -/
def savedOn (p : PlatformId) (open' : List Section) : List UInt64 :=
  (open'.filter fun x => x.platform = p).map Section.saved

/-- What is told to the sections of a platform changes with their brackets. -/
lemma Bracket.Leads.savedOn {b : Option Bracket} {old new : List Section} (h : Leads b old new)
    (p : PlatformId) :
    (b = none → savedOn p new = savedOn p old) ∧
      (∀ x, b = some (.opened x) →
        savedOn p new = (if x.platform = p then [x.saved] else []) ++ savedOn p old) ∧
      ∀ x, b = some (.closed x) →
        savedOn p old = (if x.platform = p then [x.saved] else []) ++ savedOn p new := by
  refine ⟨?_, ?_, ?_⟩
  · rintro rfl
    exact congrArg (LedDriver.savedOn p) h
  · rintro x rfl
    obtain rfl : new = x :: old := h
    by_cases hx : x.platform = p <;> simp [LedDriver.savedOn, hx]
  · rintro x rfl
    obtain rfl : old = x :: new := h
    by_cases hx : x.platform = p <;> simp [LedDriver.savedOn, hx]

/-- A program that belongs to no call, or to one that neither masks the interrupts of a platform nor
restores them. -/
def Idles (p : PlatformId) (o : Option Call) : Prop :=
  o ≠ some (.peer (.enter p)) ∧ ∀ saved, o ≠ some (.peer (.leave p saved))

/-- A program masks the interrupts of a platform, restores them, or does neither. -/
lemma Idles.cases (p : PlatformId) (o : Option Call) :
    o = some (.peer (.enter p)) ∨ (∃ saved, o = some (.peer (.leave p saved))) ∨ Idles p o := by
  by_cases enters : o = some (.peer (.enter p))
  · exact .inl enters
  by_cases leaves : ∃ saved, o = some (.peer (.leave p saved))
  · exact .inr (.inl leaves)
  · exact .inr (.inr ⟨enters, fun saved h => leaves ⟨saved, h⟩⟩)

/-- The number is on its way to what the open sections call for, or is there. -/
inductive Reaches (irq : σ → UInt64) (p : PlatformId) (v : UInt64) :
    Option Call → List (Deed σ) → UInt64 → Prop
  /-- Masking has advanced the number, and has not answered yet. -/
  | entering (f : σ → σ) (a : σ) (h : v = irq a + 1) :
    Reaches irq p v (some (.peer (.enter p))) [.acted (.own f) a] (irq a)
  /-- Restoring has begun, and has not set the number yet. -/
  | leaving (saved : UInt64) (h : v = saved + 1) :
    Reaches irq p v (some (.peer (.leave p saved))) [] saved
  /-- Restoring has set the number, and has not answered yet. -/
  | left (saved : UInt64) (d : List (Deed σ)) (hd : d ≠ []) (h : v = saved) :
    Reaches irq p v (some (.peer (.leave p saved))) d saved
  /-- The number is what the sections call for. -/
  | there (o : Option Call) (d : List (Deed σ)) (he : o = some (.peer (.enter p)) → d = [])
    (hl : ∀ saved, o ≠ some (.peer (.leave p saved))) : Reaches irq p v o d v

/-- Only restoring interrupts closes a section. -/
lemma Label.bracket?_called {c : Call} {b : Bracket}
    (h : (Label.called c : Label σ).bracket? = some b) :
    ∃ p k, c = .peer (.leave p k) ∧ b = .closed ⟨p, k⟩ := by
  unfold bracket? at h
  split at h
  · next same => cases same
  · next same =>
    cases same
    cases h
    exact ⟨_, _, rfl, rfl⟩
  · cases h

/-- Only masking interrupts opens a section. -/
lemma Label.bracket?_returned {c : Call} {w : World σ} {x : c.Answer} {d : List (Deed σ)}
    {b : Bracket} (h : (Label.returned c w x d).bracket? = some b) :
    ∃ p k, c = .peer (.enter p) ∧ b = .opened ⟨p, k⟩ := by
  unfold bracket? at h
  split at h
  · next same =>
    cases same
    cases h
    exact ⟨_, _, rfl, rfl⟩
  · next same => cases same
  · cases h

/-- The beginning of a call that does not restore the interrupts of a platform leaves what was told
there. -/
lemma Bracket.Leads.savedOn_called {p : PlatformId} {c : Call} {old new : List Section}
    (h : Leads (Label.called c : Label σ).bracket? old new)
    (hc : ∀ saved, c ≠ .peer (.leave p saved)) :
    LedDriver.savedOn p new = LedDriver.savedOn p old := by
  obtain ⟨kept, -, closed⟩ := h.savedOn p
  cases hb : (Label.called c : Label σ).bracket? with
  | none => exact kept hb
  | some b =>
    obtain ⟨q, k, rfl, rfl⟩ := Label.bracket?_called hb
    have other : q ≠ p := fun h => hc k (by rw [h])
    simpa [other] using (closed _ hb).symm

/-- The end of a call that does not mask the interrupts of a platform leaves what was told there. -/
lemma Bracket.Leads.savedOn_returned {p : PlatformId} {c : Call} {w : World σ} {x : c.Answer}
    {d : List (Deed σ)} {old new : List Section}
    (h : Leads (Label.returned c w x d).bracket? old new)
    (hc : c ≠ .peer (.enter p)) : LedDriver.savedOn p new = LedDriver.savedOn p old := by
  obtain ⟨kept, opened, -⟩ := h.savedOn p
  cases hb : (Label.returned c w x d).bracket? with
  | none => exact kept hb
  | some b =>
    obtain ⟨q, k, rfl, rfl⟩ := Label.bracket?_returned hb
    have other : q ≠ p := fun h => hc (by rw [h])
    simpa [other] using opened _ hb

namespace Board.Advances

variable {B : Board σ} {p : PlatformId} {irq : σ → UInt64} {d : List (Deed σ)} {q : Request σ}

/-- Masking is one atom. -/
lemma program_enter (h : B.Advances p irq) : ∃ f : σ → σ, (∀ a, irq (f a) = irq a + 1) ∧
    B.program (.peer (.enter p)) = .ask (.atom (.own f)) fun a => .done (irq a) := by
  obtain ⟨f, advances, program⟩ := h.enter
  refine ⟨f, advances, ?_⟩
  calc B.program (.peer (.enter p)) = Reaction.action (B.platform p).enter := rfl
    _ = .ask (.atom (.own f)) fun a => .done (irq a) := by rw [program]; rfl

/-- Restoring is one atom. -/
lemma program_leave (h : B.Advances p irq) (saved : UInt64) :
    ∃ f : σ → σ, (∀ a, irq (f a) = saved) ∧
      B.program (.peer (.leave p saved)) = .ask (.atom (.own f)) fun _ => .done () := by
  obtain ⟨f, sets, program⟩ := h.leave saved
  refine ⟨f, sets, ?_⟩
  calc B.program (.peer (.leave p saved)) = Reaction.action ((B.platform p).leave saved) := rfl
    _ = .ask (.atom (.own f)) fun _ => .done () := by rw [program]; rfl

/-- Masking asks for its atom alone. -/
lemma continues_enter (h : B.Advances p irq) (ask : B.Continues (some (.peer (.enter p))) d q) :
    d = [] ∧ ∃ f, q = .atom (.own f) ∧ ∀ a, irq (f a) = irq a + 1 := by
  obtain ⟨f, advances, program⟩ := h.program_enter
  obtain ⟨next, follows⟩ := ask
  rw [program] at follows
  rcases follows_atom_iff.mp follows with ⟨rfl, same⟩ | ⟨a, d', -, rest⟩
  · cases same
    exact ⟨rfl, f, rfl, advances⟩
  · obtain ⟨-, same⟩ := follows_done_iff.mp rest
    cases same

/-- Restoring asks for its atom alone. -/
lemma continues_leave (h : B.Advances p irq) {saved : UInt64}
    (ask : B.Continues (some (.peer (.leave p saved))) d q) :
    d = [] ∧ ∃ f, q = .atom (.own f) ∧ ∀ a, irq (f a) = saved := by
  obtain ⟨f, sets, program⟩ := h.program_leave saved
  obtain ⟨next, follows⟩ := ask
  rw [program] at follows
  rcases follows_atom_iff.mp follows with ⟨rfl, same⟩ | ⟨a, d', -, rest⟩
  · cases same
    exact ⟨rfl, f, rfl, sets⟩
  · obtain ⟨-, same⟩ := follows_done_iff.mp rest
    cases same

/-- Masking that has ended has answered what the number was. -/
lemma complete_enter (h : B.Advances p irq) {k : UInt64}
    (complete : Follows (B.program (.peer (.enter p))) d (.done k)) :
    ∃ f a, d = [.acted (.own f) a] ∧ k = irq a := by
  obtain ⟨f, -, program⟩ := h.program_enter
  rw [program] at complete
  obtain ⟨a, d', rfl, rest⟩ := complete.of_atom
  obtain ⟨rfl, rfl⟩ := rest.of_done
  exact ⟨f, a, rfl, rfl⟩

/-- Restoring that has ended has set the number. -/
lemma complete_leave (h : B.Advances p irq) {saved : UInt64} {x : Unit}
    (complete : Follows (B.program (.peer (.leave p saved))) d (.done x)) : d ≠ [] := by
  obtain ⟨f, -, program⟩ := h.program_leave saved
  rw [program] at complete
  obtain ⟨a, d', rfl, -⟩ := complete.of_atom
  exact nofun

/-- A program that makes a call neither masks nor restores. -/
lemma idles_of_continues_call (h : B.Advances p irq) {o : Option Call} {c : Call}
    (ask : B.Continues o d (.call c)) : Idles p o := by
  constructor
  · rintro rfl
    obtain ⟨-, f, same, -⟩ := h.continues_enter ask
    cases same
  · rintro saved rfl
    obtain ⟨-, f, same, -⟩ := h.continues_leave ask
    cases same

end Board.Advances

/-- A number that is there for a program that neither masks nor restores is what the sections call
for. -/
lemma Reaches.eq {irq : σ → UInt64} {p : PlatformId} {v level : UInt64} {o : Option Call}
    {d : List (Deed σ)} (h : Reaches irq p v o d level) (ho : Idles p o) : level = v := by
  cases h with
  | entering => exact absurd rfl ho.1
  | leaving | left => exact absurd rfl (ho.2 _)
  | there => rfl

/-- The number is there for a program that neither masks nor restores. -/
lemma Idles.reaches {p : PlatformId} {o : Option Call} (ho : Idles p o) (irq : σ → UInt64)
    (v : UInt64) (d : List (Deed σ)) : Reaches irq p v o d v :=
  .there o d (fun h => absurd h ho.1) ho.2

namespace Board.Advances

variable {B : Board σ} {p : PlatformId} {irq : σ → UInt64} {d : List (Deed σ)} {o : Option Call}
  {level base v : UInt64} {old new : List Section}

/-- An atom keeps the number on its way. -/
lemma reaches_acted {w w' : World σ} {a : Atom σ} {x : a.Answer} (board : B.Advances p irq)
    (h : Reaches irq p (irq w.own) o d level) (ask : B.Continues o d (.atom a))
    (ha : a.Performs w x w') (still : Idles p o → irq w'.own = irq w.own) :
    Reaches irq p (irq w'.own) o (d ++ [.acted a x]) level := by
  rcases Idles.cases p o with rfl | ⟨k, rfl⟩ | idles
  · obtain ⟨rfl, f, hf, advances⟩ := board.continues_enter ask
    cases hf
    obtain ⟨rfl, after⟩ := ha.of_own
    cases h
    refine .entering f w.own ?_
    rw [after]
    exact advances _
  · obtain ⟨rfl, f, hf, sets⟩ := board.continues_leave ask
    cases hf
    have set : irq w'.own = k := by
      rw [ha.of_own.2]
      exact sets _
    cases h with
    | leaving => exact .left _ [.acted (.own f) x] nofun set
    | left _ _ hd => exact absurd rfl hd
    | there _ _ _ hl => exact absurd rfl (hl k)
  · obtain rfl := h.eq idles
    rw [still idles]
    exact idles.reaches ..

/-- The number is on its way for a call that begins: one that restores interrupts closes the
innermost section, whose number it will set. -/
lemma reaches_called {c : Call} (board : B.Advances p irq) (h : Reaches irq p v o d level)
    (ask : B.Continues o d (.call c))
    (leads : Bracket.Leads (Label.called c : Label σ).bracket? old new)
    (called : Level base (savedOn p old) level) :
    ∃ level', Level base (savedOn p new) level' ∧ Reaches irq p v (some c) [] level' := by
  obtain rfl := h.eq (board.idles_of_continues_call ask)
  by_cases leaves : ∃ k, c = .peer (.leave p k)
  · obtain ⟨k, rfl⟩ := leaves
    obtain ⟨-, -, closed⟩ := leads.savedOn p
    rw [closed _ rfl, if_pos rfl] at called
    obtain ⟨ahead, called⟩ := called
    exact ⟨k, called, .leaving k ahead⟩
  · have away : ∀ k, c ≠ .peer (.leave p k) := fun k hk => leaves ⟨k, hk⟩
    rw [← leads.savedOn_called away] at called
    exact ⟨_, called, .there _ _ (fun _ => rfl) fun k hk => away k (Option.some.inj hk)⟩

/-- The number is what the sections call for when a call has ended: one that masks interrupts opens
a section with the number that it advanced. -/
lemma level_of_returned {c : Call} {w₁ : World σ} {x : c.Answer} (board : B.Advances p irq)
    (h : Reaches irq p v (some c) d level) (complete : Follows (B.program c) d (.done x))
    (leads : Bracket.Leads (Label.returned c w₁ x d).bracket? old new)
    (called : Level base (savedOn p old) level) : Level base (savedOn p new) v := by
  by_cases enters : c = .peer (.enter p)
  · subst enters
    obtain ⟨f, a, rfl, rfl⟩ := board.complete_enter complete
    obtain ⟨-, opened, -⟩ := leads.savedOn p
    rw [opened _ rfl, if_pos rfl]
    cases h with
    | entering _ _ ahead => exact ⟨ahead, called⟩
    | there _ _ he => exact absurd (he rfl) nofun
  rw [leads.savedOn_returned enters]
  cases h with
  | entering => exact absurd rfl enters
  | leaving => exact absurd rfl (board.complete_leave complete)
  | left _ _ _ set =>
    rw [set]
    exact called
  | there => exact called

end Board.Advances

namespace Pool

variable {B : Board σ} {P Q : Pool n σ α} {l : List (Fin n × Label σ)} {own : σ}
  {clients : Fin n → Reaction σ α} {p : PlatformId} {irq : σ → UInt64}

/-- A program that neither masks nor restores leaves the number alone. -/
lemma Runs.own_spares {i : Fin n} (run : Runs B (start own clients) l P)
    (spares : (clients i).Only (Use.Spares irq)) (board : B.Advances p irq) {a : Atom σ}
    {x : a.Answer} (step : Step B P (i, .acted a x) Q) (ha : a.Performs P.world x Q.world)
    {o : Option Call} {w₀ : World σ} {d : List (Deed σ)} {rest : List (Frame σ)}
    (top : (P.parties i).frames = ⟨o, w₀, d, none⟩ :: rest) (ho : Idles p o) :
    irq Q.world.own = irq P.world.own := by
  by_cases own : ∃ f, a = .own f
  · obtain ⟨f, rfl⟩ := own
    obtain ⟨o', w₁, d', rest', top', source⟩ := run.exists_source step fun _ _ _ _ => nofun
    rw [top] at top'
    obtain ⟨⟨rfl, -⟩, -⟩ : (o = o' ∧ w₀ = w₁ ∧ d = d') ∧ rest = rest' := by simpa using top'
    have asked := source (Request.Spares irq)
    rw [ha.of_own.2]
    cases o with
    | none => exact asked (Reaction.action_spares spares) _
    | some c =>
      cases c with
      | peer c =>
        have others := board.others c (fun h => ho.1 (by rw [h])) fun k h => ho.2 k (by rw [h])
        exact asked (Reaction.action_spares others) _
      | service c => cases source _ (B.program_asks (.service c))
      | routine c => cases source _ (B.program_asks (.routine c))
  · rw [ha.own_eq fun f hf => own ⟨f, hf⟩]

/-- Where a party is alone, the number is on its way to what the sections that are open call for. -/
theorem Runs.level (run : Runs B (start own clients) l P) {i : Fin n} (alone : ∀ j, j = i)
    (spares : (clients i).Only (Use.Spares irq)) (board : B.Advances p irq) :
    ∃ o w₀ d rest level, (P.parties i).frames = ⟨o, w₀, d, none⟩ :: rest ∧
      Level (irq own) (savedOn p ((P.parties i).frames.flatMap Frame.sections)) level ∧
      Reaches irq p (irq P.world.own) o d level := by
  induction run with
  | refl => exact ⟨_, _, _, _, _, rfl, rfl, .there none [] nofun nofun⟩
  | @tail Q R l e run step ih =>
    obtain ⟨j, e⟩ := e
    obtain rfl := alone j
    obtain ⟨o, w₀, d, rest, level, top, called, reaches⟩ := ih
    obtain ⟨old, new, below, hold, hnew, -, turn⟩ := run.turn step
    have leads := turn.sections.append (below.flatMap Frame.sections)
    rw [← List.flatMap_append, ← List.flatMap_append, ← hold, ← hnew] at leads
    have still {a : Atom σ} {x : a.Answer} (he : e = .acted a x)
        (ha : a.Performs Q.world x R.world) : Idles p o → irq R.world.own = irq Q.world.own := by
      subst he
      exact run.own_spares spares board step ha top
    rw [top] at hold
    generalize (Q.parties j).frames.flatMap Frame.sections = before at leads called
    generalize (R.parties j).frames.flatMap Frame.sections = after at leads ⊢
    rw [hnew]
    generalize R.world = w at turn still ⊢
    cases turn with
    | @act o' w₁ w' d' a x ask ha =>
      obtain ⟨⟨rfl, rfl, rfl, -⟩, rfl⟩ : (o = o' ∧ w₀ = w₁ ∧ d = d' ∧ True) ∧ rest = below := by
        simpa using hold
      rw [(leads.savedOn p).1 rfl]
      exact ⟨_, _, _, _, _, rfl, called, board.reaches_acted reaches ask ha (still rfl ha)⟩
    | @call o' w₁ d' c ask =>
      obtain ⟨⟨rfl, rfl, rfl, -⟩, rfl⟩ : (o = o' ∧ w₀ = w₁ ∧ d = d' ∧ True) ∧ rest = below := by
        simpa using hold
      obtain ⟨level', called', reaches'⟩ := board.reaches_called reaches ask leads called
      exact ⟨_, _, _, _, _, rfl, called', reaches'⟩
    | @«return» o' w₁ w₂ d' deeds c x ask complete =>
      obtain ⟨⟨rfl, rfl, rfl⟩, rfl⟩ : (o = some c ∧ w₀ = w₂ ∧ d = deeds) ∧
          rest = ⟨o', w₁, d', some c⟩ :: below := by
        simpa using hold
      have called' := board.level_of_returned reaches complete leads called
      exact ⟨_, _, _, _, _, rfl, called', (board.idles_of_continues_call ask).reaches ..⟩

end Pool

/-- A party with no call in progress carries out its own program. -/
lemma Party.frames_of_idle {q : Party σ α} (idle : q.owner = none) :
    q.frames = [⟨none, q.before, q.past, none⟩] := by
  obtain ⟨o, before, past, rest, callers⟩ := q
  obtain rfl : o = none := idle
  cases callers
  rfl

/-- A party with no call in progress has no section open. -/
lemma Party.sections_of_idle {q : Party σ α} (idle : q.owner = none) :
    q.frames.flatMap Frame.sections = [] := by
  rw [Party.frames_of_idle idle]
  simp [Frame.sections, Mask.of_eq_away, Mask.sections]

namespace Pool

variable {B : Board σ} {P Q : Pool n σ α} {l : List (Fin n × Label σ)} {own : σ}
  {clients : Fin n → Reaction σ α} {p : PlatformId} {irq : σ → UInt64}

/-- Where a party is alone, the state of the interrupts is as it was in the beginning whenever no
call of that party is in progress. -/
theorem Runs.restored (run : Runs B (start own clients) l P) {i : Fin n} (alone : ∀ j, j = i)
    (spares : (clients i).Only (Use.Spares irq)) (board : B.Advances p irq)
    (idle : (P.parties i).owner = none) : irq P.world.own = irq own := by
  obtain ⟨o, w₀, d, rest, level, top, called, reaches⟩ := run.level alone spares board
  rw [Party.sections_of_idle idle] at called
  rw [Party.frames_of_idle idle] at top
  cases top
  obtain rfl := reaches.eq ⟨nofun, nofun⟩
  exact called

/-! ## The nesting of the two exclusions -/

/-- The two exclusions are nested.  The driver sets up hardware, and puts it to rest, while the
guard of the session has no permit left and one program of the session masks interrupts.  A program
asks only for what its mask allows, and from masking to restoring interrupts an open or a close that
ended has made that one call; it gave the permit back if and only if it had received it.  The
brackets that a party opens and closes on a platform are nested, each closed with the state that it
was opened with, and all of them are closed when no call of the party is in progress.  Where a party
is alone, each service leaves the guards as it found them, and when no call is in progress the state
of the interrupts is as in the beginning. -/
theorem Runs.nested (run : Runs B (start own clients) l P) :
    (∀ i c Q s, Step B P (i, .called c) Q → c.isSetup s = true ∨ c.isShutdown s = true →
      (P.world.semaphore (.guard s)).permits = 0 ∧ P.frames.countP (Frame.Masks s) = 1 ∧
        ∃ f ∈ (P.parties i).frames, f.Masks s ∧ B.Continues f.owner f.past (.call c)) ∧
    (∀ i e Q, Step B P (i, e) Q → ∃ f ∈ (P.parties i).frames,
      B.Continues f.owner f.past e.request ∧ (Mask.of f.owner f.past).Allows e.request) ∧
    (∀ i c w x d s, (i, .returned c w x d) ∈ l → c.session? = some s →
      (∀ p saved d₁ d₂, d = d₁ ++ .received (.peer (.enter p)) saved :: d₂ →
        ∃ y d₃, d₂ = y :: .received (.peer (.leave p saved)) () :: d₃ ∧
          (y.isSetup s = true ∨ y.isShutdown s = true)) ∧
      d.countP (Deed.isPost s) = d.countP (Deed.isEntry s) ∧ d.countP (Deed.isEntry s) ≤ 1) ∧
    (∀ i p, Unclosed ((word i l).filter fun b => b.section.platform = p)
        (((P.parties i).frames.flatMap Frame.sections).filter fun x => x.platform = p) ∧
      ((P.parties i).owner = none → Unclosed (word i l) [])) ∧
    ∀ i, (∀ j, j = i) →
      (∀ (c : Service) w x d Q s, Step B P (i, .returned (.service c) w x d) Q →
        Q.world.semaphore (.guard s) = w.semaphore (.guard s)) ∧
      ∀ p irq, B.Advances p irq → (clients i).Only (Use.Spares irq) →
        (P.parties i).owner = none → irq P.world.own = irq own := by
  refine ⟨?_, ?_, ?_, ?_, ?_⟩
  · intro i c Q s step hc
    exact run.masked_of_called step hc
  · intro i e Q step
    obtain ⟨f, hf, ask⟩ := run.exists_asking step
    exact ⟨f, hf, ask, ask.mask_allows⟩
  · intro i c w x d s he hc
    refine ⟨?_, run.permit_of_returned he hc⟩
    intro p saved d₁ d₂ split
    exact run.section_of_returned he hc split
  · intro i p
    refine ⟨(run.unclosed i).filter p, fun idle => ?_⟩
    rw [← Party.sections_of_idle idle]
    exact run.unclosed i
  · intro i alone
    refine ⟨?_, ?_⟩
    · intro c w x d Q s step
      exact run.guard_of_returned alone step s
    · intro p irq board spares idle
      exact run.restored alone spares board idle

end Pool

/-- A board whose platforms each advance a number to mask interrupts and set it to restore them. -/
def Board.advancing : Board (PlatformId → UInt64) :=
  { Board.obedient (pure (.ok ())) with
    platform := fun p =>
      ⟨.ask (.own fun a => update a p (a p + 1)) fun a => .done (a p),
        fun saved => .ask (.own fun a => update a p saved) fun _ => .done (),
        pure (.error .timedOut), pure ()⟩ }

lemma Board.advances_advancing (p : PlatformId) : Board.advancing.Advances p fun a => a p where
  enter := ⟨fun a => update a p (a p + 1), fun a => update_self .., rfl⟩
  leave saved := ⟨fun a => update a p saved, fun a => update_self .., rfl⟩
  others c enter leave := by
    cases c with
    | enter q =>
      have hq : p ≠ q := fun h => enter (by rw [h])
      exact ⟨fun a => update_of_ne _ _ hq, fun _ => trivial⟩
    | leave q saved =>
      have hq : p ≠ q := fun h => leave saved (by rw [h])
      exact ⟨fun a => update_of_ne _ _ hq, fun _ => trivial⟩
    | operate k h s o args =>
      cases o with
      | modeSet | limitsSet | paramsSet => exact ⟨trivial, fun _ => trivial⟩
      | setup | shutdown | start | stop | stateGet | faultSet | faultGet | faultClean | ioctl =>
        trivial
    | provided | discard | checkWait | relax | log | publish => trivial

namespace Pool

/-- A client that registers a device, opens it twice and closes it twice masks the interrupts twice,
and leaves them as they were. -/
theorem nested_openingTwice :
    ∃ (l : List (Fin 1 × Label (PlatformId → UInt64))) (P : Pool 1 (PlatformId → UInt64) Unit),
      Runs .advancing (start (fun _ => 5) fun _ => Service.inTurn
        [.register ⟨"/dev/led", 0, 0, Config.default, none⟩, .openDevice 0, .openDevice 0,
          .closeDevice 0, .closeDevice 0]) l P ∧
        (P.parties 0).owner = none ∧ (word 0 l).length = 4 ∧ Unclosed (word 0 l) [] ∧
        P.world.own 0 = 5 := by
  have h : ((start (fun _ => 5) fun _ => Service.inTurn
      [.register ⟨"/dev/led", 0, 0, Config.default, none⟩, .openDevice 0, .openDevice 0,
        .closeDevice 0, .closeDevice 0] : Pool 1 (PlatformId → UInt64) Unit).play
      .advancing (.replicate 83 0)).isSome := rfl
  obtain ⟨l, P, run, idle, brackets⟩ :
      ∃ (l : List (Fin 1 × Label (PlatformId → UInt64))) (P : Pool 1 (PlatformId → UInt64) Unit),
        Runs .advancing (start (fun _ => 5) fun _ => Service.inTurn
          [.register ⟨"/dev/led", 0, 0, Config.default, none⟩, .openDevice 0, .openDevice 0,
            .closeDevice 0, .closeDevice 0]) l P ∧
          (P.parties 0).owner = none ∧ (word 0 l).length = 4 :=
    ⟨_, _, runs_of_isSome h, rfl, rfl⟩
  obtain ⟨-, -, -, nested, alone⟩ := run.nested
  have spares : (Service.inTurn [.register ⟨"/dev/led", 0, 0, Config.default, none⟩, .openDevice 0,
      .openDevice 0, .closeDevice 0, .closeDevice 0] : Reaction (PlatformId → UInt64) Unit).Only
        (Use.Spares fun a => a 0) :=
    ⟨trivial, fun _ => ⟨trivial, fun _ => ⟨trivial, fun _ => ⟨trivial, fun _ => ⟨trivial, fun _ =>
      trivial⟩⟩⟩⟩⟩
  exact ⟨l, P, run, idle, brackets, (nested 0 0).2 idle,
    (alone 0 fun j => Subsingleton.elim j 0).2 0 _ (Board.advances_advancing 0) spares idle⟩

end Pool

end LedDriver
