import LedDriver.Proofs.Rejection.Rejected

/-!
# Erasure of rejected calls

Calls that the driver rejects can be left out of a run, and nobody notices but the readers of the
journal.

A program goes by a part of the surroundings' state if neither what it does to that part nor how it
goes on depends on the rest.  Two runs of such a program, from worlds that differ in the rest only,
do the same but for the rest (`Board.run_alike`).  A rejected call leaves such a world
(`Board.map_eq_of_rejected`), so that the calls after it are the same without it
(`Board.rejected_erased`).
-/

namespace LedDriver

variable {σ τ ρ α : Type}

/-- A reaction goes by a part of the state of the surroundings. -/
def Reaction.GoesBy (view : σ → τ) : Reaction σ α → Prop
  | .done _ => True
  | .ask (.own f) next =>
    (∀ a b, view a = view b → view (f a) = view (f b) ∧ next a = next b) ∧
      ∀ a, Reaction.GoesBy view (next a)
  | .ask (.service _) next => ∀ x, Reaction.GoesBy view (next x)

/-- A program goes by a part of the state of the surroundings. -/
def Program.GoesBy (view : σ → τ) : Action σ α → Prop
  | .done _ => True
  | .ask (.atom (.own f)) next =>
    (∀ a b, view a = view b → view (f a) = view (f b) ∧ next a = next b) ∧
      ∀ a, Program.GoesBy view (next a)
  | .ask _ next => ∀ x, Program.GoesBy view (next x)

/-- The program of a reaction goes by what the reaction goes by. -/
lemma Reaction.GoesBy.action {view : σ → τ} {r : Reaction σ α} (h : r.GoesBy view) :
    Program.GoesBy view r.action := by
  induction r with
  | done a => trivial
  | ask u next ih =>
    cases u with
    | own f =>
      obtain ⟨same, each⟩ := h
      refine ⟨fun a b hab => ⟨(same a b hab).1, ?_⟩, fun a => ih a (each a)⟩
      exact congrArg Reaction.action (same a b hab).2
    | service c => exact fun x => ih x (h x)

/-- A program that does not use the state of the surroundings goes by any part of it. -/
lemma Program.GoesBy.of_only {view : σ → τ} {p : Action σ α}
    (h : p.Only fun q => ∀ f, q ≠ Request.atom (.own f)) : Program.GoesBy view p := by
  induction p with
  | done a => trivial
  | ask q next ih =>
    have rest x : Program.GoesBy view (next x) := ih x (h.2 x)
    cases q with
    | call c => exact rest
    | atom a =>
      cases a with
      | own f => exact absurd rfl (h.1 f)
      | acquire | release | control | table | permits | exchange | post | count | setCount
      | profile | create => exact rest

/-- Only the surroundings use their state. -/
lemma Call.Asks.ne_own {c : Call} {q : Request σ} (h : c.Asks q) (hc : ∀ d, c ≠ .peer d)
    (f : σ → σ) : q ≠ .atom (.own f) := by
  cases h
  case peer_own d f => exact absurd rfl (hc d)
  all_goals nofun

/-- The calls with parts of the surroundings' states instead of all of them. -/
def CallTree.map (view : σ → τ) : CallTree σ → CallTree τ
  | node c w x w' ts => node c (w.map view) x (w'.map view) (ts.map fun t => t.map view)

/-- The outcome with a part of the state of the surroundings instead of all of it. -/
def Outcome.map (view : σ → τ) (x : Outcome σ α) : Outcome τ α :=
  ⟨x.result, x.world.map view, x.calls.map (CallTree.map view)⟩

@[simp] lemma Outcome.map_mk (view : σ → τ) (a : α) (w : World σ) (ts : List (CallTree σ)) :
    (⟨a, w, ts⟩ : Outcome σ α).map view = ⟨a, w.map view, ts.map (CallTree.map view)⟩ := rfl

/-- An atom that does not use the state of the surroundings has the same effect whatever that is. -/
lemma Atom.apply_alike {view : σ → τ} {a : Atom σ} (ha : ∀ f, a ≠ .own f) {w w' : World σ}
    (same : w'.map view = w.map view) {r : a.Answer × World σ} (h : a.apply w = .ok r) :
    ∃ v, a.apply w' = .ok (r.1, v) ∧ v.map view = r.2.map view := by
  obtain ⟨created, h⟩ := apply_eq_ok_iff.mp h
  obtain ⟨b, rfl, hv⟩ := World.map_eq_map_iff.mp same
  suffices key : a.effect { w with own := b } = .ok (r.1, { r.2 with own := b }) ∧
      r.2.own = w.own by
    refine ⟨_, apply_eq_ok_iff.mpr ⟨created, key.1⟩, ?_⟩
    exact World.map_eq_map_iff.mpr ⟨b, rfl, hv.trans (congrArg view key.2.symm)⟩
  cases a with
  | own f => exact absurd rfl (ha f)
  | acquire l =>
    cases l with
    | control s =>
      simp only [Atom.effect] at h ⊢
      cases free : (w.control s).acquire? with
      | none => simp [free] at h
      | some lock =>
        rw [free] at h
        cases h
        exact ⟨rfl, rfl⟩
    | table =>
      simp only [Atom.effect] at h ⊢
      cases free : w.table.acquire? with
      | none => simp [free] at h
      | some lock =>
        rw [free] at h
        cases h
        exact ⟨rfl, rfl⟩
  | release l => cases l <;> cases h <;> exact ⟨rfl, rfl⟩
  | exchange g seen =>
    simp only [Atom.effect] at h ⊢
    cases taken : (w.semaphore g).exchange? seen with
    | none =>
      rw [taken] at h
      cases h
      exact ⟨rfl, rfl⟩
    | some left =>
      rw [taken] at h
      cases h
      exact ⟨rfl, rfl⟩
  | control | table | permits | post | count | setCount | profile | create =>
    cases h
    exact ⟨rfl, rfl⟩

namespace Board

variable {B : Board σ} {depth : Nat} {w w' : World σ} {view : σ → τ} {lower : τ → ρ}

/-- Everything but the journal goes by a part of the state of the surroundings. -/
def GoesBy (B : Board σ) (view : σ → τ) : Prop :=
  ∀ c : Peer, (∀ n, c ≠ .log n) → (B.reaction c).GoesBy view

/-- Every program but that of the journal goes by that part. -/
lemma GoesBy.program (apart : B.GoesBy view) {c : Call} (hc : ∀ n, c ≠ .peer (.log n)) :
    Program.GoesBy view (B.program c) := by
  cases c with
  | service c =>
    exact .of_only ((B.program_asks (.service c)).mono fun q hq f => hq.ne_own nofun f)
  | routine c =>
    exact .of_only ((B.program_asks (.routine c)).mono fun q hq f => hq.ne_own nofun f)
  | peer c => exact (apart c fun n hn => hc n (congrArg Call.peer hn)).action

/-- A program does the same in worlds that differ only in what it does not go by, if the calls that
it makes do. -/
lemma run_alike_of_perform
    (calls : ∀ {c : Call} {w w' : World σ} {x}, w'.map view = w.map view →
      B.perform depth c w = .ok x → ∃ y, B.perform depth c w' = .ok y ∧ y.map view = x.map view)
    {p : Action σ α} (hp : Program.GoesBy view p) (same : w'.map view = w.map view)
    {x : Outcome σ α} (hx : B.run depth p w = .ok x) :
    ∃ y, B.run depth p w' = .ok y ∧ y.map view = x.map view := by
  induction p generalizing w w' x with
  | done a =>
    cases run_done_iff.mp hx
    exact ⟨_, rfl, by simp [same]⟩
  | ask q next ih =>
    cases q with
    | atom a =>
      obtain ⟨r, effect, rest⟩ := run_atom_iff.mp hx
      by_cases ha : ∃ f, a = .own f
      · obtain ⟨f, rfl⟩ := ha
        obtain ⟨-, effect⟩ := Atom.apply_eq_ok_iff.mp effect
        cases effect
        obtain ⟨alike, each⟩ := hp
        obtain ⟨b, rfl, hv⟩ := World.map_eq_map_iff.mp same
        obtain ⟨after, continued⟩ := alike b w.own hv
        have later : World.map view { w with own := f b } =
            World.map view { w with own := f w.own } :=
          World.map_eq_map_iff.mpr ⟨f b, rfl, after⟩
        obtain ⟨y, run, equal⟩ := ih w.own (each w.own) later rest
        refine ⟨y, (run_atom (r := (b, { w with own := f b })) rfl).trans ?_, equal⟩
        rw [continued]
        exact run
      · have ha : ∀ f, a ≠ .own f := fun f hf => ha ⟨f, hf⟩
        obtain ⟨v, effect', later⟩ := a.apply_alike ha same effect
        have each : ∀ x, Program.GoesBy view (next x) := by
          cases a <;> first | exact hp | exact absurd rfl (ha _)
        obtain ⟨y, run, equal⟩ := ih r.1 (each r.1) later rest
        exact ⟨y, (run_atom effect').trans run, equal⟩
    | call c =>
      obtain ⟨y, z, called, rest, rfl⟩ := run_call_iff.mp hx
      obtain ⟨y', called', equal⟩ := calls same called
      obtain ⟨result, world, trees⟩ := y
      obtain ⟨result', world', trees'⟩ := y'
      simp only [Outcome.map_mk, Outcome.mk.injEq] at equal
      obtain ⟨rfl, later, inner⟩ := equal
      obtain ⟨z', rest', equal⟩ := ih result' (hp result') later rest
      refine ⟨_, run_call_iff.mpr ⟨_, z', called', rest', rfl⟩, ?_⟩
      obtain ⟨a, v, us⟩ := z
      obtain ⟨a', v', us'⟩ := z'
      simp only [Outcome.map_mk, Outcome.mk.injEq] at equal ⊢
      obtain ⟨rfl, later, inner'⟩ := equal
      exact ⟨rfl, later, by rw [List.map_append, List.map_append, inner, inner']⟩

/-- A call does the same in worlds that differ only in what nobody but the journal goes by. -/
theorem perform_alike (journal : B.JournalKeeps view) (apart : B.GoesBy view) {c : Call}
    (same : w'.map view = w.map view) {x : Outcome σ c.Answer} (hx : B.perform depth c w = .ok x) :
    ∃ y, B.perform depth c w' = .ok y ∧ y.map view = x.map view := by
  induction depth generalizing c w w' with
  | zero => exact absurd hx perform_zero_ne
  | succ depth ih =>
    by_cases log : ∃ n, c = .peer (.log n)
    · obtain ⟨n, rfl⟩ := log
      obtain ⟨calls, after⟩ := discreet_spec (c := .log n) (journal n) hx
      obtain ⟨a, v, performed, after'⟩ :=
        perform_discreet depth w' (c := .log n) (journal n)
      refine ⟨_, performed, ?_⟩
      obtain ⟨b, u, trees⟩ := x
      dsimp only at calls after
      subst calls
      simp [CallTree.map, after, after', same]
    · obtain ⟨y, run, rfl⟩ := perform_succ_iff.mp hx
      have goes := apart.program fun n hn => log ⟨n, hn⟩
      obtain ⟨z, run', equal⟩ := run_alike_of_perform (fun same hx => ih same hx) goes same run
      refine ⟨_, perform_succ_iff.mpr ⟨z, run', rfl⟩, ?_⟩
      obtain ⟨a, v, us⟩ := y
      obtain ⟨a', v', us'⟩ := z
      simp only [Outcome.map_mk, Outcome.mk.injEq] at equal ⊢
      obtain ⟨rfl, later, inner⟩ := equal
      refine ⟨rfl, later, ?_⟩
      simp [CallTree.map, same, later, inner]

/-- A program that goes by a part of the state of the surroundings does the same in worlds that
differ only in the rest. -/
theorem run_alike (journal : B.JournalKeeps view) (apart : B.GoesBy view) {p : Action σ α}
    (hp : Program.GoesBy view p) (same : w'.map view = w.map view) {x : Outcome σ α}
    (hx : B.run depth p w = .ok x) :
    ∃ y, B.run depth p w' = .ok y ∧ y.map view = x.map view :=
  run_alike_of_perform (fun same hx => perform_alike journal apart same hx) hp same hx

/-! ## Leaving calls out -/

end Board

open CallTree

/-- A client of services asks for nothing else. -/
lemma Service.goesBy_inTurn (view : σ → τ) (cs : List Service) :
    (Service.inTurn cs : Reaction σ Unit).GoesBy view := by
  induction cs with
  | nil => trivial
  | cons c cs ih => exact fun _ => ih

namespace Board

variable {B : Board σ} {depth : Nat} {w : World σ} {view : σ → τ} {lower : τ → ρ}

/-- Rejected calls can be left out.  Calls among which some are marked, all of them rejected for
another reason than an interrupted wait, do the same without the marked ones. -/
theorem exists_run_unmarked (journal : B.JournalKeeps view)
    (waiting : B.WaitingKeeps (lower ∘ view)) (apart : B.GoesBy view)
    {calls : List (Service × Bool)}
    {x : Outcome σ Unit} (hx : B.run depth (Service.inTurn (calls.map Prod.fst)).action w = .ok x)
    (marked : List.Forall₂ (fun c t => c.2 = true → t.Rejected ∧ ¬ t.Interrupted) calls x.calls) :
    ∃ y, B.run depth (Service.inTurn ((calls.filter fun c => !c.2).map Prod.fst)).action w = .ok y ∧
      y.world.map view = x.world.map view ∧
      y.calls.map (CallTree.map view) =
        ((calls.zip x.calls).filter fun c => !c.1.2).map fun c => c.2.map view := by
  induction calls generalizing w x with
  | nil =>
    cases run_done_iff.mp hx
    exact ⟨_, rfl, rfl, rfl⟩
  | cons c calls ih =>
    obtain ⟨c, mark⟩ := c
    obtain ⟨y, z, called, rest, rfl⟩ := run_inTurn_cons_iff.mp hx
    obtain ⟨d, inner, rfl, run, calls'⟩ := exists_of_perform called
    rw [calls'] at marked
    rw [List.singleton_append, List.forall₂_cons] at marked
    obtain ⟨rejected, marked⟩ := marked
    obtain ⟨u, run', later, trees⟩ := ih rest marked
    cases mark with
    | true =>
      -- The others start in the world before the call, which differs in the journal at most.
      obtain ⟨rejected, patient⟩ := rejected rfl
      have same : y.world.map view = w.map view :=
        map_eq_of_rejected waiting journal (t := .node _ w y.result y.world inner)
          (by rw [← calls']; exact called) rejected patient
      obtain ⟨v, run'', equal⟩ :=
        run_alike journal apart (Service.goesBy_inTurn view _).action same.symm run'
      have world : v.world.map view = u.world.map view := congrArg Outcome.world equal
      have inner : v.calls.map (CallTree.map view) = u.calls.map (CallTree.map view) :=
        congrArg Outcome.calls equal
      refine ⟨v, run'', world.trans later, ?_⟩
      rw [inner, trees, calls']
      rfl
    | false =>
      refine ⟨_, run_inTurn_cons_iff.mpr ⟨y, u, called, run', rfl⟩, later, ?_⟩
      rw [List.map_append, trees, calls']
      rfl

/-- Calls that the driver rejects leave no trace.  In the run of any client, each of them, at any
depth, lets no lower half work, masks no interrupts, leaves the memory of every session and the
state of the lower halves as they were, and gives back what it was lent.  Calls made in turn that
are rejected for another reason than an interrupted wait can be left out: the others then have the
same answers and do the same inside, and the world ends up the same but for the journal. -/
theorem rejected_erased (B : Board σ) {view : σ → τ} {lower : τ → ρ} (journal : B.JournalKeeps view)
    (waiting : B.WaitingKeeps (lower ∘ view)) (apart : B.GoesBy view) (depth : Nat) (w : World σ) :
    (∀ {α : Type} (client : Reaction σ α) (x : Outcome σ α),
      B.run depth client.action w = .ok x → ∀ t : CallTree σ, t.Within x.calls → t.Rejected →
        Idle t.inner ∧ t.after.map (lower ∘ view) = t.before.map (lower ∘ view) ∧ t.GivesBack) ∧
    ∀ (calls : List (Service × Bool)) (x : Outcome σ Unit),
      B.run depth (Service.inTurn (calls.map Prod.fst)).action w = .ok x →
      List.Forall₂ (fun c t => c.2 = true → t.Rejected ∧ ¬ t.Interrupted) calls x.calls →
      ∃ y,
        B.run depth (Service.inTurn ((calls.filter fun c => !c.2).map Prod.fst)).action w = .ok y ∧
        y.world.map view = x.world.map view ∧
        y.calls.map (CallTree.map view) =
          ((calls.zip x.calls).filter fun c => !c.1.2).map fun c => c.2.map view := by
  constructor
  · intro α client x hx t within rejected
    obtain ⟨d, performed⟩ := perform_of_within hx within
    have journal' : B.JournalKeeps (lower ∘ view) :=
      fun n => (journal n).mono fun _ hu => hu.comp lower
    exact rejected_spec waiting journal' performed rejected
  · intro calls x hx marked
    exact exists_run_unmarked journal waiting apart hx marked

/-- A board that counts how often the hardware was set up and keeps its journal. -/
def counting : Board (Nat × List Notice) :=
  { Board.obedient (do
      let _ ← Reaction.own fun s => (s.1 + 1, s.2)
      pure (.ok ())) with
    log := fun n => do
      let _ ← Reaction.own fun s => (s.1, s.2 ++ [n])
      pure () }

/-- On a new device, a command to start that comes before an open can be left out: only its line of
the journal is missing. -/
theorem rejected_erased_start :
    ∃ w : World (Nat × List Notice), ∃ x y,
      counting.run 8 (Service.inTurn [.command 0 .start, .openDevice 0]).action w = .ok x ∧
        counting.run 8 (Service.inTurn [.openDevice 0]).action w = .ok y ∧
        y.world.map Prod.fst = x.world.map Prod.fst ∧
        x.world.own = (1, [.refused .limitsNotReady]) := by
  have journal : counting.JournalKeeps Prod.fst := fun n => ⟨fun _ => rfl, fun _ => trivial⟩
  have waiting : counting.WaitingKeeps (id ∘ Prod.fst) := ⟨fun _ => trivial, fun _ => trivial⟩
  have apart : counting.GoesBy Prod.fst := by
    intro c hc
    cases c with
    | operate k h s o args =>
      cases o with
      | setup => exact ⟨fun a b hab => ⟨congrArg (· + 1) hab, rfl⟩, fun _ => trivial⟩
      | modeSet | limitsSet | paramsSet => exact fun _ => trivial
      | shutdown | start | stop | stateGet | faultSet | faultGet | faultClean | ioctl => trivial
    | log n => exact absurd rfl (hc n)
    | provided | discard | enter | leave | checkWait | relax | publish => trivial
  refine ⟨(World.initial (0, [])).create ⟨0, 0, Config.default⟩, ?_⟩
  have ran : (counting.run 8 (Service.inTurn [.command 0 .start, .openDevice 0]).action
      ((World.initial (0, [])).create ⟨0, 0, Config.default⟩)).map (fun x => x.world.own) =
        .ok (1, [.refused .limitsNotReady]) := by decide +kernel
  cases hx : counting.run 8 (Service.inTurn [.command 0 .start, .openDevice 0]).action
      ((World.initial (0, [])).create ⟨0, 0, Config.default⟩) with
  | error e =>
    rw [hx] at ran
    cases ran
  | ok x =>
    rw [hx] at ran
    have marked : List.Forall₂ (fun c t => c.2 = true → t.Rejected ∧ ¬ t.Interrupted)
        [(Service.command 0 .start, true), (.openDevice 0, false)] x.calls := by
      obtain ⟨y, z, called, rest, rfl⟩ := run_inTurn_cons_iff.mp hx
      obtain ⟨u, v, opened, done, rfl⟩ := run_inTurn_cons_iff.mp rest
      cases run_done_iff.mp done
      obtain ⟨answer, v, ts⟩ := y
      obtain ⟨-, inner, -, -, own⟩ := exists_of_perform called
      dsimp only at own
      subst own
      obtain ⟨-, inner', -, -, calls⟩ := exists_of_perform opened
      rw [calls]
      have refused : ¬ Command.start.Admitted ControlBlock.initial :=
        fun admitted => by cases admitted.1
      exact .cons (fun _ => ⟨.refused refused, command_not_interrupted called rfl⟩)
        (.cons (fun mark => absurd mark Bool.false_ne_true) .nil)
    obtain ⟨-, erased⟩ := rejected_erased counting journal waiting apart 8
      ((World.initial (0, [])).create ⟨0, 0, Config.default⟩)
    obtain ⟨y, hy, same, -⟩ :=
      erased [(Service.command 0 .start, true), (.openDevice 0, false)] x hx marked
    exact ⟨x, y, rfl, hy, same, Except.ok.inj ran⟩

end Board

end LedDriver
