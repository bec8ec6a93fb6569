import LedDriver.Proofs.Command.Forwarding
import LedDriver.Proofs.System.Discretion
import LedDriver.Proofs.System.Sights

/-!
# Commands on two devices

What a command does depends on the control block of its session and on the state of its lower half,
and on nothing else.  Two devices are twins if their lower halves do the same in the same state
(`Device.Twins`), and two worlds agree on them if their control blocks and the states of their lower
halves are the same (`Device.Agree`); the worlds can differ in everything else.  Commands sent to
twins in worlds that agree on them have the same answers and the same sights, and leave worlds that
agree on them (`Device.Twins.run_commands`).  On the way they use no platform and change nothing but
the control block and what belongs to the lower half and to the journal (`Outcome.Twin`).
-/

namespace LedDriver

variable {σ σ' τ ρ ρ' α β : Type}

/-- A device on a board: its session, its lower half, the part of the state of the surroundings that
is the state of the lower half, and a part that is neither this nor that of the journal. -/
structure Device (σ τ ρ : Type) where
  board : Board σ
  session : SessionId
  lower : LowerId
  state : σ → τ
  outside : σ → ρ

/-- Two reactions do the same for two devices: what they do to the states of the lower halves and
how they go on depends on these states alone, in the same way, they leave what is outside alone, and
they use no service but those of the control blocks. -/
inductive Reaction.Twins (D : Device σ τ ρ) (D' : Device σ' τ ρ') :
    Reaction σ α → Reaction σ' α → Prop
  | done (a : α) : Twins D D' (.done a) (.done a)
  | own {f : σ → σ} {f' : σ' → σ'} {next : σ → Reaction σ α} {next' : σ' → Reaction σ' α}
    (after : ∀ a a', D.state a = D'.state a' → D.state (f a) = D'.state (f' a'))
    (keeps : ∀ a, D.outside (f a) = D.outside a) (keeps' : ∀ a, D'.outside (f' a) = D'.outside a)
    (rest : ∀ a a', D.state a = D'.state a' → Twins D D' (next a) (next' a')) :
    Twins D D' (.ask (.own f) next) (.ask (.own f') next')
  | control {m : ControlMethod} {next : m.Answer → Reaction σ α}
    {next' : m.Answer → Reaction σ' α} (rest : ∀ x, Twins D D' (next x) (next' x)) :
    Twins D D' (.ask (.service (.control D.session m)) next)
      (.ask (.service (.control D'.session m)) next')

/-- The call uses a platform. -/
def Call.OnPlatform : Call → Prop
  | .peer (.enter _) | .peer (.leave _ _) | .peer (.checkWait _) | .peer (.relax _) => True
  | _ => False

namespace Device

/-- The parts of the state of the surroundings that the device knows of. -/
def view (D : Device σ τ ρ) (a : σ) : τ × ρ := (D.state a, D.outside a)

/-- A world differs from another at most in the control block of the device and in the state of the
surroundings, and there not in what is outside. -/
def Revised (D : Device σ τ ρ) (w v : World σ) : Prop :=
  ∃ l a, v = { w with control := update w.control D.session l, own := a } ∧
    D.outside a = D.outside w.own

namespace Revised

variable {D : Device σ τ ρ} {u v w : World σ}

/-- Only the state of the surroundings changes. -/
lemma of_own {a : σ} (h : D.outside a = D.outside w.own) : D.Revised w { w with own := a } :=
  ⟨w.control D.session, a, by rw [update_eq_self], h⟩

lemma refl (w : World σ) : D.Revised w w := of_own rfl

lemma trans (h : D.Revised u v) (h' : D.Revised v w) : D.Revised u w := by
  obtain ⟨l, a, rfl, same⟩ := h
  obtain ⟨l', a', rfl, same'⟩ := h'
  exact ⟨l', a', by simp, same'.trans same⟩

end Revised

/-- The device is ready for commands: its session was created for its lower half, and the lock of
its control block is free. -/
structure Ready (D : Device σ τ ρ) (w : World σ) : Prop where
  created : D.session < w.issued
  profile : (w.profile D.session).lower = D.lower
  free : (w.control D.session).held = false

/-- A device stays ready if nobody holds the lock. -/
lemma Ready.of_revised {D : Device σ τ ρ} {w v : World σ} (h : D.Ready w) (rest : D.Revised w v)
    (free : (v.control D.session).held = false) : D.Ready v := by
  obtain ⟨l, a, rfl, -⟩ := rest
  exact ⟨h.created, h.profile, free⟩

/-- The lower halves of two devices do the same in the same state, whatever operation they are
called for, and the journals leave these states and what is outside alone. -/
structure Twins (D : Device σ τ ρ) (D' : Device σ' τ ρ') : Prop where
  operate : ∀ o args, Reaction.Twins D D' ((D.board.lower D.lower).operate D.session o args)
    ((D'.board.lower D'.lower).operate D'.session o args)
  journal : D.board.JournalKeeps D.view
  journal' : D'.board.JournalKeeps D'.view

/-- Two worlds agree on two devices that are ready: the control blocks are the same and the lower
halves are in the same state. -/
structure Agree (D : Device σ τ ρ) (D' : Device σ' τ ρ') (w : World σ) (w' : World σ') : Prop where
  ready : D.Ready w
  ready' : D'.Ready w'
  block : w.block D.session = w'.block D'.session
  state : D.state w.own = D'.state w'.own

/-- Worlds still agree when the states of the surroundings have changed, if what is outside has not
and the lower halves are in the same state. -/
lemma Agree.of_own {D : Device σ τ ρ} {D' : Device σ' τ ρ'} {w : World σ} {w' : World σ'}
    (agree : D.Agree D' w w') {a : σ} {a' : σ'} (outside : D.outside a = D.outside w.own)
    (outside' : D'.outside a' = D'.outside w'.own) (state : D.state a = D'.state a') :
    D.Agree D' { w with own := a } { w' with own := a' } where
  ready := agree.ready.of_revised (.of_own outside) agree.ready.free
  ready' := agree.ready'.of_revised (.of_own outside') agree.ready'.free
  block := agree.block
  state := state

end Device

/-- Two outcomes are twins: the results are the same, the worlds agree on the two devices, and the
calls look the same.  In either run no platform was used, and nothing was changed but the control
block and what belongs to the lower half and to the journal. -/
structure Outcome.Twin (D : Device σ τ ρ) (D' : Device σ' τ ρ') (w : World σ) (w' : World σ')
    (x : Outcome σ α) (x' : Outcome σ' α) : Prop where
  result : x.result = x'.result
  agree : D.Agree D' x.world x'.world
  sights : x.calls.flatMap CallTree.sights = x'.calls.flatMap CallTree.sights
  rest : D.Revised w x.world
  rest' : D'.Revised w' x'.world
  aside : CallTree.Avoid Call.OnPlatform x.calls
  aside' : CallTree.Avoid Call.OnPlatform x'.calls

/-- Two runs from worlds that agree on two devices have outcomes, and these are twins. -/
def Run.Twin (D : Device σ τ ρ) (D' : Device σ' τ ρ') (m : Run σ α) (m' : Run σ' α) : Prop :=
  ∀ w w', D.Agree D' w w' → ∃ x x', m w = .ok x ∧ m' w' = .ok x' ∧ Outcome.Twin D D' w w' x x'

variable {D : Device σ τ ρ} {D' : Device σ' τ ρ'} {depth : Nat}

namespace Run.Twin

lemma pure (a : α) : Run.Twin D D' (Run.pure a) (Run.pure a) := by
  intro w w' agree
  exact ⟨_, _, rfl, rfl, rfl, agree, rfl, .refl w, .refl w', CallTree.avoid_nil,
    CallTree.avoid_nil⟩

/-- Twins are followed by twins. -/
lemma bind {m : Run σ α} {m' : Run σ' α} {f : α → Run σ β} {f' : α → Run σ' β}
    (hm : Run.Twin D D' m m') (hf : ∀ a, Run.Twin D D' (f a) (f' a)) :
    Run.Twin D D' (m.bind f) (m'.bind f') := by
  intro w w' agree
  obtain ⟨x, x', run, run', first⟩ := hm w w' agree
  obtain ⟨y, y', next, next', second⟩ := hf x.result _ _ first.agree
  have then' : f' x'.result x'.world = .ok y' := first.result ▸ next'
  refine ⟨_, _, Run.bind_ok run next, Run.bind_ok run' then', ?_⟩
  exact
    { result := second.result
      agree := second.agree
      sights := by rw [List.flatMap_append, List.flatMap_append, first.sights, second.sights]
      rest := first.rest.trans second.rest
      rest' := first.rest'.trans second.rest'
      aside := first.aside.append second.aside
      aside' := first.aside'.append second.aside' }

end Run.Twin

/-- Two calls that look the same, carried out by twins, are twins. -/
lemma Outcome.Twin.call {w : World σ} {w' : World σ'} {x : Outcome σ α} {x' : Outcome σ' α}
    (twin : Outcome.Twin D D' w w' x x') (c c' : Call) (answer : α → c.Answer)
    (answer' : α → c'.Answer) (begun : c.begun = c'.begun)
    (ended : ∀ a, c.ended (answer a) = c'.ended (answer' a)) (aside : ¬ c.OnPlatform)
    (aside' : ¬ c'.OnPlatform) :
    Outcome.Twin D D' w w'
      ⟨x.result, x.world, [.node c w (answer x.result) x.world x.calls]⟩
      ⟨x'.result, x'.world, [.node c' w' (answer' x'.result) x'.world x'.calls]⟩ where
  result := twin.result
  agree := twin.agree
  sights := by
    have inner := twin.sights
    simp only [List.flatMap_singleton, CallTree.sights]
    rw [inner, begun, ended, twin.result]
  rest := twin.rest
  rest' := twin.rest'
  aside := .node aside twin.aside
  aside' := .node aside' twin.aside'

namespace Device.Twins

/-- A line of the journal. -/
lemma perform_log (twins : D.Twins D') (n : Notice) :
    Run.Twin D D' (D.board.perform (depth + 1) (.peer (.log n)))
      (D'.board.perform (depth + 1) (.peer (.log n))) := by
  intro w w' agree
  obtain ⟨_, v, run, same⟩ := Board.perform_discreet depth w (c := .log n) (twins.journal n)
  obtain ⟨_, v', run', same'⟩ := Board.perform_discreet depth w' (c := .log n) (twins.journal' n)
  obtain ⟨a, rfl, ha⟩ := World.map_eq_map_iff.mp same
  obtain ⟨a', rfl, ha'⟩ := World.map_eq_map_iff.mp same'
  obtain ⟨state, outside⟩ := Prod.mk.inj ha
  obtain ⟨state', outside'⟩ := Prod.mk.inj ha'
  have twin : Outcome.Twin D D' w w' ⟨(), { w with own := a }, []⟩
      ⟨(), { w' with own := a' }, []⟩ :=
    { result := rfl
      agree := agree.of_own outside outside' (state.trans (agree.state.trans state'.symm))
      sights := rfl
      rest := .of_own outside
      rest' := .of_own outside'
      aside := CallTree.avoid_nil
      aside' := CallTree.avoid_nil }
  exact ⟨_, _, run, run', twin.call (.peer (.log n)) (.peer (.log n)) id id rfl
    (fun _ => rfl) id id⟩

/-- A line of the journal, or none. -/
lemma tell (twins : D.Twins D') (n : Option Notice) :
    Run.Twin D D' (D.board.tell (depth + 1) n) (D'.board.tell (depth + 1) n) := by
  cases n with
  | none => exact .pure ()
  | some n => exact twins.perform_log n

end Device.Twins

/-- A method that is used on a control block leaves its lock as it is. -/
lemma World.held_revise (w : World σ) (s : SessionId) (m : ControlMethod) :
    ((w.revise s m).control s).held = (w.control s).held := by simp [revise]

/-- The use of a control block. -/
lemma Run.Twin.control (m : ControlMethod) :
    Run.Twin (α := m.Answer) D D' (D.board.perform (depth + 1) (.service (.control D.session m)))
      (D'.board.perform (depth + 1) (.service (.control D'.session m))) := by
  intro w w' agree
  have used : D.board.run depth (Session.control D.session m) w =
      .ok ⟨(m.apply (w.block D.session)).1, w.revise D.session m, []⟩ :=
    Board.run_control agree.ready.created agree.ready.free m
  have used' : D'.board.run depth (Session.control D'.session m) w' =
      .ok ⟨(m.apply (w'.block D'.session)).1, w'.revise D'.session m, []⟩ :=
    Board.run_control agree.ready'.created agree.ready'.free m
  have rest : D.Revised w (w.revise D.session m) := ⟨_, w.own, rfl, rfl⟩
  have rest' : D'.Revised w' (w'.revise D'.session m) := ⟨_, w'.own, rfl, rfl⟩
  have twin : Outcome.Twin D D' w w' ⟨(m.apply (w.block D.session)).1, w.revise D.session m, []⟩
      ⟨(m.apply (w'.block D'.session)).1, w'.revise D'.session m, []⟩ :=
    { result := by rw [agree.block]
      agree :=
        { ready := agree.ready.of_revised rest ((w.held_revise _ m).trans agree.ready.free)
          ready' := agree.ready'.of_revised rest' ((w'.held_revise _ m).trans agree.ready'.free)
          block := by rw [World.block_revise, World.block_revise, agree.block]
          state := agree.state }
      sights := rfl
      rest := rest
      rest' := rest'
      aside := CallTree.avoid_nil
      aside' := CallTree.avoid_nil }
  refine ⟨_, _, Board.perform_succ_iff.mpr ⟨_, used, rfl⟩,
    Board.perform_succ_iff.mpr ⟨_, used', rfl⟩, ?_⟩
  exact twin.call (.service (.control D.session m)) (.service (.control D'.session m))
    id id rfl (fun _ => rfl) id id

/-- Twin reactions are carried out by twins. -/
lemma Reaction.Twins.run {r : Reaction σ α} {r' : Reaction σ' α} (h : r.Twins D D' r')
    (depth : Nat) :
    Run.Twin D D' (D.board.run (depth + 1) r.action) (D'.board.run (depth + 1) r'.action) := by
  induction h with
  | done a => exact .pure a
  | @own f f' next next' after keeps keeps' rest ih =>
    intro w w' agree
    have first : D.Revised w { w with own := f w.own } := .of_own (keeps w.own)
    have first' : D'.Revised w' { w' with own := f' w'.own } := .of_own (keeps' w'.own)
    have agree' : D.Agree D' { w with own := f w.own } { w' with own := f' w'.own } :=
      agree.of_own (keeps w.own) (keeps' w'.own) (after w.own w'.own agree.state)
    obtain ⟨x, x', run, run', twin⟩ := ih w.own w'.own agree.state _ _ agree'
    refine ⟨x, x', Board.run_own_iff.mpr run, Board.run_own_iff.mpr run', ?_⟩
    exact { twin with rest := first.trans twin.rest, rest' := first'.trans twin.rest' }
  | control rest ih => exact Run.Twin.bind (Run.Twin.control _) ih

namespace Device.Twins

/-- An operation of the lower halves. -/
lemma perform_operate (twins : D.Twins D') (o : Operation) (args : o.Args) :
    Run.Twin (α := o.Answer) D D'
      (D.board.perform (depth + 2) (.peer (.operate .driver D.lower D.session o args)))
      (D'.board.perform (depth + 2) (.peer (.operate .driver D'.lower D'.session o args))) := by
  intro w w' agree
  obtain ⟨x, x', run, run', twin⟩ := (twins.operate o args).run depth w w' agree
  refine ⟨_, _, Board.perform_succ_iff.mpr ⟨x, run, rfl⟩,
    Board.perform_succ_iff.mpr ⟨x', run', rfl⟩, ?_⟩
  exact twin.call (.peer (.operate .driver D.lower D.session o args))
    (.peer (.operate .driver D'.lower D'.session o args)) id id rfl (fun _ => rfl) id id

/-- A command that is passed on. -/
lemma forwarding (twins : D.Twins D') (c : Command) :
    Run.Twin D D' (D.board.forwarding (depth + 2) D.lower D.session c)
      (D'.board.forwarding (depth + 2) D'.lower D'.session c) :=
  (twins.tell c.announcement?).bind fun _ =>
    (twins.perform_operate c.operation c.args).bind fun _ =>
      (twins.tell _).bind fun _ => .pure _

/-- A command. -/
lemma perform_command (twins : D.Twins D') (depth : Nat) (c : Command) :
    Run.Twin (α := CommandAnswer) D D'
      (D.board.perform (depth + 3) (.service (.command D.session c)))
      (D'.board.perform (depth + 3) (.service (.command D'.session c))) := by
  intro w w' agree
  obtain ⟨x, x', run, run', twin⟩ : ∃ x x',
      D.board.run (depth + 2) (Session.command D.session c) w = .ok x ∧
        D'.board.run (depth + 2) (Session.command D'.session c) w' = .ok x' ∧
        Outcome.Twin D D' w w' x x' := by
    rw [Board.run_command agree.ready.created agree.ready.free,
      Board.run_command agree.ready'.created agree.ready'.free, ← agree.block]
    cases c.refusal? (w.block D.session) with
    | some r => exact ((twins.tell _).bind fun _ => .pure _) w w' agree
    | none =>
      rw [agree.ready.profile, agree.ready'.profile]
      exact twins.forwarding c w w' agree
  refine ⟨_, _, Board.perform_succ_iff.mpr ⟨x, run, rfl⟩,
    Board.perform_succ_iff.mpr ⟨x', run', rfl⟩, ?_⟩
  exact twin.call (.service (.command D.session c)) (.service (.command D'.session c))
    id id rfl (fun _ => rfl) id id

end Device.Twins

/-- What a client and a lower half see of each of some calls: what can be seen of the call, the
control block after it, and the state of the lower half. -/
def Device.views (D : Device σ τ ρ) (ts : List (CallTree σ)) :
    List (List Sight × ControlBlock × τ) :=
  ts.map fun t => (t.sights, t.after.block D.session, D.state t.after.own)

/-- Commands that a client sends one after the other. -/
theorem Device.Twins.run_commands (twins : D.Twins D') (depth : Nat) (cs : List Command)
    {w : World σ} {w' : World σ'} (agree : D.Agree D' w w') :
    ∃ x x',
      D.board.run (depth + 3) (Service.inTurn (cs.map (.command D.session))).action w = .ok x ∧
      D'.board.run (depth + 3) (Service.inTurn (cs.map (.command D'.session))).action w' = .ok x' ∧
      Outcome.Twin D D' w w' x x' ∧ D.views x.calls = D'.views x'.calls := by
  induction cs generalizing w w' with
  | nil =>
    have done : Run.Twin D D' (Run.pure ()) (Run.pure ()) := .pure ()
    obtain ⟨x, x', run, run', twin⟩ := done w w' agree
    cases run
    cases run'
    exact ⟨_, _, rfl, rfl, twin, rfl⟩
  | cons c cs ih =>
    obtain ⟨y, y', called, called', first⟩ := twins.perform_command depth c w w' agree
    obtain ⟨z, z', rest, rest', later, same⟩ := ih first.agree
    obtain ⟨_, inner, -, -, calls⟩ := Board.exists_of_perform called
    obtain ⟨_, inner', -, -, calls'⟩ := Board.exists_of_perform called'
    have here : D.views y.calls = D'.views y'.calls := by
      have seen := first.sights
      rw [calls, calls', List.flatMap_singleton, List.flatMap_singleton] at seen
      rw [calls, calls']
      simp only [Device.views, List.map_singleton, seen, CallTree.after, first.agree.block,
        first.agree.state]
    refine ⟨_, _, Board.run_inTurn_cons_iff.mpr ⟨y, z, called, rest, rfl⟩,
      Board.run_inTurn_cons_iff.mpr ⟨y', z', called', rest', rfl⟩, ?_, ?_⟩
    · exact
        { result := rfl
          agree := later.agree
          sights := by rw [List.flatMap_append, List.flatMap_append, first.sights, later.sights]
          rest := first.rest.trans later.rest
          rest' := first.rest'.trans later.rest'
          aside := first.aside.append later.aside
          aside' := first.aside'.append later.aside' }
    · unfold Device.views at here same ⊢
      rw [List.map_append, List.map_append, here, same]

end LedDriver
