import LedDriver.Proofs.Independence.Commands
import LedDriver.Proofs.Independence.Sparing
import LedDriver.Proofs.Rejection.Erasure

/-!
# Commands beside opens and closes

An open or a close that neither sets up the hardware nor puts it to rest has nothing to do with the
control block or with the lower half (`Device.Beside`), and a command has nothing to do with the
open count, the permits or the platforms (`Device.Revised`).  On a board that keeps lower half and
platforms apart (`Device.Apart`) such calls can therefore be made in either order, and nobody but
the readers of the journal can tell which came first (`Device.commands_independent`).
-/

namespace LedDriver

variable {σ σ' τ ρ ρ' α β : Type}

/-! ## Boards that keep things apart -/

namespace Device

/-- The lower half of the device leaves what is outside alone and uses nothing but its control
block. -/
def Works (D : Device σ τ ρ) : Use σ → Prop
  | .own f => ∀ a, D.outside (f a) = D.outside a
  | .service c => ∃ m, c = .control D.session m

/-- The board keeps the lower half of the device and the platforms apart: the lower half goes by its
own state, what the platforms do for waiting parties goes by what is outside, neither changes what
belongs to the other, the journal leaves both alone, and the rest of the board goes by these two. -/
structure Apart (D : Device σ τ ρ) : Prop where
  works : ∀ o args, ((D.board.lower D.lower).operate D.session o args).Only D.Works
  goes : ∀ o args, ((D.board.lower D.lower).operate D.session o args).GoesBy D.state
  checkWait : ∀ p, (D.board.platform p).checkWait.Only (Use.Keeps D.state) ∧
    (D.board.platform p).checkWait.GoesBy D.outside
  relax : ∀ p, (D.board.platform p).relax.Only (Use.Keeps D.state) ∧
    (D.board.platform p).relax.GoesBy D.outside
  journal : D.board.JournalKeeps D.view
  others : D.board.GoesBy D.view

variable {D : Device σ τ ρ}

/-- A reaction that goes by the state of the lower half does the same in the same state. -/
lemma twins_of_goesBy {r : Reaction σ α} (works : r.Only D.Works) (goes : r.GoesBy D.state) :
    Reaction.Twins D D r r := by
  induction r with
  | done a => exact .done a
  | ask u next ih =>
    cases u with
    | own f =>
      obtain ⟨keeps, each⟩ := works
      obtain ⟨same, rest⟩ := goes
      refine .own (fun a a' h => (same a a' h).1) keeps keeps fun a a' h => ?_
      rw [← (same a a' h).2]
      exact ih a (each a) (rest a)
    | service c =>
      obtain ⟨⟨m, rfl⟩, each⟩ := works
      exact .control fun x => ih x (each x) (goes x)

/-- On such a board the device is its own twin. -/
lemma Apart.twins (apart : D.Apart) : D.Twins D where
  operate o args := twins_of_goesBy (apart.works o args) (apart.goes o args)
  journal := apart.journal
  journal' := apart.journal

lemma Apart.waitingKeeps (apart : D.Apart) : D.board.WaitingKeeps D.state where
  checkWait p := (apart.checkWait p).1
  relax p := (apart.relax p).1

/-! ## Runs beside each other -/

/-- Begun in two worlds, runs have come to two worlds: these differ at most in their control blocks
and in the state of the surroundings, and there not in what is outside; no session was created, and
either has kept the control blocks and the state of the lower half. -/
structure Beside (D : Device σ τ ρ) (u u' v v' : World σ) : Prop where
  same : ∃ k b, v' = { v with control := k, own := b }
  outside : D.outside v'.own = D.outside v.own
  issued : v.issued = u.issued
  profile : v.profile = u.profile
  control : v.control = u.control
  control' : v'.control = u'.control
  state : D.state v.own = D.state u.own
  state' : D.state v'.own = D.state u'.own

/-- Worlds are still beside each other when the states of the surroundings have changed, if what is
outside has changed in the same way and neither lower half has changed its state. -/
lemma Beside.of_own {u u' v v' : World σ} (h : D.Beside u u' v v') {a a' : σ}
    (outside : D.outside a' = D.outside a) (state : D.state a = D.state v.own)
    (state' : D.state a' = D.state v'.own) :
    D.Beside u u' { v with own := a } { v' with own := a' } where
  same := by
    obtain ⟨k, b, hv⟩ := h.same
    exact ⟨k, a', by rw [hv]⟩
  outside := outside
  issued := h.issued
  profile := h.profile
  control := h.control
  control' := h.control'
  state := state.trans h.state
  state' := state'.trans h.state'

end Device

variable {D : Device σ τ ρ} {u u' v v' : World σ} {depth : Nat}

/-- An atom of an open or a close does the same in worlds beside each other. -/
lemma Atom.apply_beside {a : Atom σ} (ha : a.Counts) (h : D.Beside u u' v v')
    {r : a.Answer × World σ} (hr : a.apply v = .ok r) :
    ∃ w, a.apply v' = .ok (r.1, w) ∧ D.Beside u u' r.2 w := by
  obtain ⟨⟨k, b, rfl⟩, outside, issued, profile, control, control', state, state'⟩ := h
  obtain ⟨created, effect⟩ := apply_eq_ok_iff.mp hr
  suffices key : a.effect { v with control := k, own := b } =
      .ok (r.1, { r.2 with control := k, own := b }) ∧
        ∃ c g, r.2 = { v with count := c, semaphore := g } by
    obtain ⟨effect', c, g, after⟩ := key
    refine ⟨_, apply_eq_ok_iff.mpr ⟨created, effect'⟩, ?_⟩
    rw [after]
    exact ⟨⟨k, b, rfl⟩, outside, issued, profile, control, control', state, state'⟩
  cases a with
  | exchange g seen =>
    simp only [Atom.effect] at effect ⊢
    cases taken : (v.semaphore g).exchange? seen with
    | none =>
      rw [taken] at effect
      cases effect
      exact ⟨rfl, _, _, rfl⟩
    | some left =>
      rw [taken] at effect
      cases effect
      exact ⟨rfl, _, _, rfl⟩
  | permits | post | count | setCount | profile =>
    cases effect
    exact ⟨rfl, _, _, rfl⟩
  | acquire | release | control | table | create | own => exact ha.elim

/-- What the platforms do for waiting parties is the same in worlds beside each other. -/
lemma Reaction.run_beside {B : Board σ} {r : Reaction σ α} (keeps : r.Only (Use.Keeps D.state))
    (goes : r.GoesBy D.outside) (h : D.Beside u u' v v') {x : Outcome σ α}
    (hx : B.run depth r.action v = .ok x) :
    ∃ x', B.run depth r.action v' = .ok x' ∧ x'.result = x.result ∧
      D.Beside u u' x.world x'.world := by
  induction r generalizing v v' with
  | done a =>
    cases Board.run_done_iff.mp hx
    exact ⟨_, rfl, rfl, h⟩
  | ask q next ih =>
    cases q with
    | service c => exact keeps.1.elim
    | own f =>
      obtain ⟨keep, each⟩ := keeps
      obtain ⟨alike, rest⟩ := goes
      obtain ⟨after, continued⟩ := alike v'.own v.own h.outside
      have later : D.Beside u u' { v with own := f v.own } { v' with own := f v'.own } :=
        h.of_own after (keep v.own) (keep v'.own)
      obtain ⟨x', run', result, world⟩ :=
        ih v.own (each v.own) (rest v.own) later (Board.run_own_iff.mp hx)
      rw [← continued] at run'
      exact ⟨x', Board.run_own_iff.mpr run', result, world⟩

/-- What waiting for a permit asks for. -/
def Request.Waits : Request σ → Prop
  | .atom (.permits _) | .atom (.exchange _ _) | .call (.routine _)
  | .call (.peer (.checkWait _)) | .call (.peer (.relax _)) => True
  | _ => False

lemma Call.Asks.waits {c : Routine} {q : Request σ} (h : (Call.routine c).Asks q) : q.Waits := by
  cases h <;> trivial

/-- A client that uses two services one after the other and goes on with the answers. -/
def Service.inOrder (c e : Service) (k : c.Answer → e.Answer → Reaction σ α) : Reaction σ α := do
  let a ← c.use
  let b ← e.use
  k a b

namespace Board

variable {B : Board σ}

/-- A program does the same in related worlds, and leaves related worlds, if all that it asks for
does. -/
theorem run_simulated {R : World σ → World σ → Prop} {π : Request σ → Prop}
    (atoms : ∀ a, π (.atom a) → ∀ {w w' r}, R w w' → a.apply w = .ok r →
      ∃ v, a.apply w' = .ok (r.1, v) ∧ R r.2 v)
    (calls : ∀ c, π (.call c) → ∀ {w w' x}, R w w' → B.perform depth c w = .ok x →
      ∃ x', B.perform depth c w' = .ok x' ∧ x'.result = x.result ∧ R x.world x'.world)
    {p : Action σ α} (hp : p.Only π) {w w' : World σ} (related : R w w') {x : Outcome σ α}
    (hx : B.run depth p w = .ok x) :
    ∃ x', B.run depth p w' = .ok x' ∧ x'.result = x.result ∧ R x.world x'.world := by
  induction p generalizing w w' x with
  | done a =>
    cases run_done_iff.mp hx
    exact ⟨_, rfl, rfl, related⟩
  | ask q next ih =>
    cases q with
    | atom a =>
      obtain ⟨r, effect, rest⟩ := run_atom_iff.mp hx
      obtain ⟨v, effect', after⟩ := atoms a hp.1 related effect
      obtain ⟨x', run, result, world⟩ := ih r.1 (hp.2 r.1) after rest
      exact ⟨x', (run_atom effect').trans run, result, world⟩
    | call c =>
      obtain ⟨y, z, called, rest, rfl⟩ := run_call_iff.mp hx
      obtain ⟨y', called', answer, after⟩ := calls c hp.1 related called
      obtain ⟨z', run, result, world⟩ := ih y.result (hp.2 y.result) after rest
      rw [← answer] at run
      exact ⟨_, run_call_iff.mpr ⟨y', z', called', run, rfl⟩, result, world⟩

end Board

namespace Device.Apart

/-- Waiting for a permit is the same in worlds beside each other. -/
lemma perform_waits (apart : D.Apart) {c : Call} (hc : (Request.call c : Request σ).Waits)
    (h : D.Beside u u' v v') {x : Outcome σ c.Answer} (hx : D.board.perform depth c v = .ok x) :
    ∃ x', D.board.perform depth c v' = .ok x' ∧ x'.result = x.result ∧
      D.Beside u u' x.world x'.world := by
  induction depth generalizing c v v' with
  | zero => exact absurd hx Board.perform_zero_ne
  | succ depth ih =>
    obtain ⟨y, run, rfl⟩ := Board.perform_succ_iff.mp hx
    suffices simulated : ∃ y', D.board.run depth (D.board.program c) v' = .ok y' ∧
        y'.result = y.result ∧ D.Beside u u' y.world y'.world by
      obtain ⟨y', run', result, world⟩ := simulated
      exact ⟨_, Board.perform_succ_iff.mpr ⟨y', run', rfl⟩, result, world⟩
    cases c with
    | routine c =>
      refine Board.run_simulated ?_ (fun c hc _ _ _ related called => ih hc related called)
        ((D.board.program_asks (.routine c)).mono fun q => Call.Asks.waits) h run
      intro a ha w w' r related effect
      refine Atom.apply_beside ?_ related effect
      cases a <;> first | exact trivial | exact ha
    | peer c =>
      cases c with
      | checkWait p => exact Reaction.run_beside (apart.checkWait p).1 (apart.checkWait p).2 h run
      | relax p => exact Reaction.run_beside (apart.relax p).1 (apart.relax p).2 h run
      | operate | provided | discard | enter | leave | log | publish => exact hc.elim
    | service c => exact hc.elim

/-- A line of the journal can be written in worlds beside each other. -/
lemma perform_log (apart : D.Apart) {n : Notice} (h : D.Beside u u' v v') {x : Outcome σ Unit}
    (hx : D.board.perform depth (.peer (.log n)) v = .ok x) :
    ∃ x', D.board.perform depth (.peer (.log n)) v' = .ok x' ∧ x'.result = x.result ∧
      D.Beside u u' x.world x'.world := by
  cases depth with
  | zero => exact absurd hx Board.perform_zero_ne
  | succ depth =>
    obtain ⟨_, w, run, same⟩ := Board.perform_discreet depth v (c := .log n) (apart.journal n)
    obtain ⟨_, w', run', same'⟩ := Board.perform_discreet depth v' (c := .log n) (apart.journal n)
    cases run.symm.trans hx
    obtain ⟨a, rfl, kept⟩ := World.map_eq_map_iff.mp same
    obtain ⟨a', rfl, kept'⟩ := World.map_eq_map_iff.mp same'
    obtain ⟨state, outside⟩ := Prod.mk.inj kept
    obtain ⟨state', outside'⟩ := Prod.mk.inj kept'
    exact ⟨_, run', rfl, h.of_own (outside'.trans (h.outside.trans outside.symm)) state state'⟩

/-- An open or a close is the same in worlds beside each other if its work is, where there is a
permit. -/
lemma run_withPermit (apart : D.Apart) {s : SessionId}
    {body : Profile → Action σ (Except DeviceError Unit)} (h : D.Beside u u' v v')
    (work : (v.semaphore (.guard s)).permits ≠ 0 → ∀ {w w'}, D.Beside u u' w w' →
      w.count = v.count → ∀ {x}, D.board.run depth (body (v.profile s)) w = .ok x →
      ∃ x', D.board.run depth (body (v.profile s)) w' = .ok x' ∧ x'.result = x.result ∧
        D.Beside u u' x.world x'.world)
    {x : Outcome σ (Except DeviceError Unit)}
    (hx : D.board.run depth ((Atom.profile s).act >>= fun p =>
      Semaphore.withPermit (.guard s) p.platform (body p)) v = .ok x) :
    ∃ x', D.board.run depth ((Atom.profile s).act >>= fun p =>
        Semaphore.withPermit (.guard s) p.platform (body p)) v' = .ok x' ∧
      x'.result = x.result ∧ D.Beside u u' x.world x'.world := by
  obtain ⟨created, y, waited, outcome⟩ := Board.run_withPermit hx
  have profile : (Atom.profile s).apply v = .ok (v.profile s, v) := by
    simp [Atom.apply, Atom.session?, created, Atom.effect]
  obtain ⟨w, profile', h'⟩ := Atom.apply_beside (a := .profile s) trivial h profile
  obtain ⟨y', waited', answer', after⟩ := apart.perform_waits (c := .routine _) trivial h' waited
  rcases outcome with ⟨e, answer, rfl⟩ | ⟨answer, z, worked, rfl⟩
  · rw [answer] at answer'
    refine ⟨⟨.error e, y'.world, y'.calls ++ []⟩, (Board.run_atom profile').trans ?_, rfl, after⟩
    refine Board.run_call_iff.mpr ⟨y', ⟨.error e, y'.world, []⟩, waited', ?_, rfl⟩
    rw [answer']
    rfl
  · rw [answer] at answer'
    obtain ⟨-, ⟨-, free, taken⟩ | ⟨⟨e, failed⟩, -⟩⟩ := Board.wait_spec apart.waitingKeeps waited
    · have count : y.world.count = v.count := by
        rw [taken]
        rfl
      obtain ⟨z', worked', result, later⟩ := work free after count worked
      have present : s < z.world.issued := by
        rw [later.issued, ← h.issued]
        exact created
      have posted : (Atom.post (.guard s)).apply z.world = .ok ((), z.world.posted (.guard s)) := by
        simp [Atom.apply, Atom.session?, present, Atom.effect, World.posted]
      obtain ⟨w', posted', last⟩ := Atom.apply_beside (a := .post (.guard s)) trivial later posted
      have rest : D.board.run depth ((body (v.profile s)).bind fun r =>
          (Atom.post (.guard s)).act >>= fun _ => pure r) y'.world =
            .ok ⟨z'.result, w', z'.calls ++ []⟩ :=
        Board.run_bind_iff.mpr ⟨z', ⟨z'.result, w', []⟩, worked', Board.run_atom posted', rfl⟩
      refine ⟨⟨z'.result, w', y'.calls ++ (z'.calls ++ [])⟩, (Board.run_atom profile').trans ?_,
        result, last⟩
      refine Board.run_call_iff.mpr ⟨y', ⟨z'.result, w', z'.calls ++ []⟩, waited', ?_, rfl⟩
      rw [answer']
      exact rest
    · rw [answer] at failed
      cases failed

/-- A program that counts and writes lines of the journal is the same in worlds beside each
other. -/
lemma run_counting (apart : D.Apart) {p : Action σ α} (counting : p.Only Request.Counts)
    (h : D.Beside u u' v v') {x : Outcome σ α} (hx : D.board.run depth p v = .ok x) :
    ∃ x', D.board.run depth p v' = .ok x' ∧ x'.result = x.result ∧
      D.Beside u u' x.world x'.world := by
  refine Board.run_simulated (fun a ha _ _ _ h effect => Atom.apply_beside ha h effect) ?_
    counting h hx
  rintro c ⟨n, rfl⟩ w w' x related called
  exact apart.perform_log related called

/-- A program that looks at the count first, and then only counts and writes lines of the
journal. -/
lemma run_count (apart : D.Apart) {s : SessionId} {p : Action σ α} (h : D.Beside u u' v v')
    (counting : ∃ f : UInt8 → Action σ α, p = (Atom.count s).act >>= f ∧
      (f (v.count s)).Only Request.Counts) {x : Outcome σ α} (hx : D.board.run depth p v = .ok x) :
    ∃ x', D.board.run depth p v' = .ok x' ∧ x'.result = x.result ∧
      D.Beside u u' x.world x'.world := by
  obtain ⟨f, rfl, counting⟩ := counting
  obtain ⟨r, counted, run⟩ := Board.run_atom_iff.mp hx
  obtain ⟨w', counted', h'⟩ := Atom.apply_beside (a := .count s) trivial h counted
  obtain ⟨-, effect⟩ := Atom.apply_eq_ok_iff.mp counted
  cases effect
  obtain ⟨x', run', same⟩ := apart.run_counting counting h' run
  exact ⟨x', (Board.run_atom counted').trans run', same⟩

/-- An open or a close that has nothing to do with the hardware is the same in worlds beside each
other. -/
theorem perform_spares (apart : D.Apart) {e : Service} (spares : v.Spares e)
    (h : D.Beside u u' v v')
    {x : Outcome σ e.Answer} (hx : D.board.perform depth (.service e) v = .ok x) :
    ∃ x', D.board.perform depth (.service e) v' = .ok x' ∧ x'.result = x.result ∧
      D.Beside u u' x.world x'.world := by
  cases depth with
  | zero => exact absurd hx Board.perform_zero_ne
  | succ depth =>
    obtain ⟨y, run, rfl⟩ := Board.perform_succ_iff.mp hx
    suffices same : ∃ y', D.board.run depth (D.board.program (.service e)) v' = .ok y' ∧
        y'.result = y.result ∧ D.Beside u u' y.world y'.world by
      obtain ⟨y', run', result, world⟩ := same
      exact ⟨_, Board.perform_succ_iff.mpr ⟨y', run', rfl⟩, result, world⟩
    cases spares with
    | opened references =>
      refine apart.run_withPermit h (fun _ w w' h' count x hx => ?_) run
      exact apart.run_count h' (Session.openHolding_counts (.inl (count ▸ references))) hx
    | full full =>
      refine apart.run_withPermit h (fun _ w w' h' count x hx => ?_) run
      exact apart.run_count h' (Session.openHolding_counts (.inr (count ▸ full))) hx
    | closed shared =>
      refine apart.run_withPermit h (fun _ w w' h' count x hx => ?_) run
      exact apart.run_count h' (Session.closeHolding_counts (count ▸ shared)) hx
    | openBlocked none | closeBlocked none =>
      exact apart.run_withPermit h (fun free => absurd none free) run

end Device.Apart

/-! ## Either order -/

/-- The outcome without the first two calls. -/
def Outcome.afterTwo (x : Outcome σ α) : Outcome σ α := ⟨x.result, x.world, x.calls.drop 2⟩

namespace Board

variable {B : Board σ} {w : World σ} {view : σ → τ}

/-- Two services that are used one after the other can be used in the other order: both have the
answers that they had, and the world ends up the same but for what is not in view. -/
def Exchanges (B : Board σ) (depth : Nat) (view : σ → τ) (w : World σ) (c e : Service) : Prop :=
  ∀ y z, B.perform depth (.service c) w = .ok y → B.perform depth (.service e) y.world = .ok z →
    ∃ z' y', B.perform depth (.service e) w = .ok z' ∧
      B.perform depth (.service c) z'.world = .ok y' ∧ z'.result = z.result ∧
      y'.result = y.result ∧ y'.world.map view = z.world.map view

/-- A run that begins with two services. -/
lemma run_inOrder_iff {c e : Service} {k : c.Answer → e.Answer → Reaction σ α} {x : Outcome σ α} :
    B.run depth (Service.inOrder c e k).action w = .ok x ↔
      ∃ y z u, B.perform depth (.service c) w = .ok y ∧
        B.perform depth (.service e) y.world = .ok z ∧
        B.run depth (k y.result z.result).action z.world = .ok u ∧
        x = ⟨u.result, u.world, y.calls ++ (z.calls ++ u.calls)⟩ := by
  constructor
  · intro hx
    obtain ⟨y, v, first, rest, rfl⟩ := run_call_iff.mp hx
    obtain ⟨z, u, second, last, rfl⟩ := run_call_iff.mp rest
    exact ⟨y, z, u, first, second, last, rfl⟩
  · rintro ⟨y, z, u, first, second, last, rfl⟩
    exact run_call_iff.mpr ⟨y, _, first, run_call_iff.mpr ⟨z, u, second, last, rfl⟩, rfl⟩

/-- A client that goes by what is in view does not notice in which order it used the services. -/
lemma Exchanges.run {c e : Service} (exchanges : B.Exchanges depth view w c e)
    (journal : B.JournalKeeps view) (others : B.GoesBy view)
    {k : c.Answer → e.Answer → Reaction σ α} (goes : ∀ a b, (k a b).GoesBy view) {x : Outcome σ α}
    (hx : B.run depth (Service.inOrder c e k).action w = .ok x) :
    ∃ y, B.run depth (Service.inOrder e c fun b a => k a b).action w = .ok y ∧
      y.afterTwo.map view = x.afterTwo.map view := by
  obtain ⟨y, z, u, first, second, last, rfl⟩ := run_inOrder_iff.mp hx
  obtain ⟨z', y', second', first', answer, answer', same⟩ := exchanges y z first second
  obtain ⟨u', last', equal⟩ := run_alike journal others (goes _ _).action same last
  rw [← answer, ← answer'] at last'
  refine ⟨_, run_inOrder_iff.mpr ⟨z', y', u', second', first', last', rfl⟩, ?_⟩
  obtain ⟨_, _, -, -, calls⟩ := exists_of_perform first
  obtain ⟨_, _, -, -, calls'⟩ := exists_of_perform second
  obtain ⟨_, _, -, -, calls''⟩ := exists_of_perform first'
  obtain ⟨_, _, -, -, calls'''⟩ := exists_of_perform second'
  rw [calls, calls', calls'', calls''']
  exact equal

end Board

namespace Device

variable {w v : World σ}

lemma Revised.beside (h : D.Revised w v) : D.Beside w v w v := by
  obtain ⟨l, a, rfl, outside⟩ := h
  exact ⟨⟨_, _, rfl⟩, outside, rfl, rfl, rfl, rfl, rfl, rfl⟩

lemma Revised.beside_symm (h : D.Revised w v) : D.Beside v w v w := by
  obtain ⟨l, a, rfl, outside⟩ := h
  exact ⟨⟨_, _, rfl⟩, outside.symm, rfl, rfl, rfl, rfl, rfl, rfl⟩

/-- A command leaves an open or a close nothing to do with the hardware if it had nothing to do with
it. -/
lemma Revised.spares (h : D.Revised w v) {e : Service} (spares : w.Spares e) : v.Spares e := by
  obtain ⟨l, a, rfl, -⟩ := h
  cases spares with
  | opened h => exact .opened h
  | full h => exact .full h
  | openBlocked h => exact .openBlocked h
  | closed h => exact .closed h
  | closeBlocked h => exact .closeBlocked h

/-- After an open or a close that has nothing to do with the hardware, a command does what it would
have done before. -/
lemma Apart.perform_command_after (apart : D.Apart) (ready : D.Ready w) {c : Command}
    {y : Outcome σ CommandAnswer}
    (hy : D.board.perform (depth + 3) (.service (.command D.session c)) w = .ok y)
    {z z' : World σ} (h : D.Beside w y.world z z') :
    ∃ y', D.board.perform (depth + 3) (.service (.command D.session c)) z = .ok y' ∧
      y'.result = y.result ∧
      y'.world.map D.view = z'.map D.view := by
  have agree : D.Agree D w z :=
    { ready := ready
      ready' := ⟨h.issued ▸ ready.created, h.profile ▸ ready.profile, h.control ▸ ready.free⟩
      block := by rw [World.block, World.block, h.control]
      state := h.state.symm }
  obtain ⟨x, y', run, run', twin⟩ := apart.twins.perform_command depth c w z agree
  cases run.symm.trans hy
  refine ⟨y', run', twin.result.symm, ?_⟩
  obtain ⟨l, a, after, -⟩ := twin.rest
  obtain ⟨l', a', after', outside⟩ := twin.rest'
  obtain ⟨k, b, beside⟩ := h.same
  have lock : l' = l := by
    have block := twin.agree.block
    have free := twin.agree.ready.free
    have free' := twin.agree.ready'.free
    rw [after] at block free
    rw [after'] at block free'
    simp only [World.block, update_self] at block free free'
    cases l
    cases l'
    simp_all
  have control : z'.control = update z.control D.session l' := by
    rw [h.control', h.control, lock, after]
  have own : y'.world.own = a' := congrArg World.own after'
  refine World.map_eq_map_iff.mpr ⟨a', ?_, Prod.ext ?_ ?_⟩
  · rw [after', ← control, beside]
  · calc D.state a' = D.state y'.world.own := by rw [own]
      _ = D.state y.world.own := twin.agree.state.symm
      _ = D.state z'.own := h.state'.symm
  · exact outside.trans h.outside.symm

/-- A command and an open or a close that has nothing to do with the hardware can be made in either
order. -/
lemma Apart.exchanges (apart : D.Apart) (depth : Nat) (ready : D.Ready w) (c : Command)
    {e : Service} (spares : w.Spares e) :
    D.board.Exchanges (depth + 3) D.view w (.command D.session c) e ∧
      D.board.Exchanges (depth + 3) D.view w e (.command D.session c) := by
  obtain ⟨y, y', run, -, twin⟩ :=
    apart.twins.perform_command depth c w w ⟨ready, ready, rfl, rfl⟩
  have forth {z} (hz : D.board.perform (depth + 3) (.service e) w = .ok z) :
      ∃ z' x, D.board.perform (depth + 3) (.service e) y.world = .ok z' ∧
        D.board.perform (depth + 3) (.service (.command D.session c)) z.world = .ok x ∧
        z'.result = z.result ∧ x.result = y.result ∧
        x.world.map D.view = z'.world.map D.view := by
    obtain ⟨z', run', answer, beside⟩ := apart.perform_spares spares twin.rest.beside hz
    obtain ⟨x, again, answer', same⟩ := apart.perform_command_after ready run beside
    exact ⟨z', x, run', again, answer, answer', same⟩
  constructor
  · intro y₁ z' first second
    cases run.symm.trans first
    obtain ⟨z, began, -, -⟩ :=
      apart.perform_spares (twin.rest.spares spares) twin.rest.beside_symm second
    obtain ⟨z₁, x, run', again, answer, answer', same⟩ := forth began
    cases run'.symm.trans second
    exact ⟨z, x, began, again, answer.symm, answer', same⟩
  · intro z x₁ first second
    obtain ⟨z', x, run', again, answer, answer', same⟩ := forth first
    cases again.symm.trans second
    exact ⟨y, z', run, run', answer'.symm, answer, same.symm⟩

/-- Commands and the counting of references are independent of each other.

Commands that a client sends to devices whose lower halves do the same in the same state look the
same from outside, each with its answer, the calls of the lower half and the lines of the journal,
and leave the same control blocks and lower halves in the same state, if the control blocks and
these states were the same; nothing else about the two worlds matters.  No platform is used, and
neither a count nor a permit changes.

An open or a close spares the hardware exactly if it calls for neither its preparation nor its rest.
On a board that keeps things apart, a command and such an open or close next to each other can be
exchanged: their answers are the same, and so is everything after them but for the journal. -/
theorem commands_independent (D : Device σ τ ρ) (D' : Device σ' τ ρ') (depth : Nat) :
    (D.Twins D' → ∀ (cs : List Command) (w : World σ) (w' : World σ'), D.Agree D' w w' →
      ∃ x x',
        D.board.run (depth + 3) (Service.inTurn (cs.map (.command D.session))).action w = .ok x ∧
        D'.board.run (depth + 3) (Service.inTurn (cs.map (.command D'.session))).action w' =
          .ok x' ∧
        D.views x.calls = D'.views x'.calls ∧
        (CallTree.Avoid Call.OnPlatform x.calls ∧ x.world.count = w.count ∧
          x.world.semaphore = w.semaphore) ∧
        CallTree.Avoid Call.OnPlatform x'.calls ∧ x'.world.count = w'.count ∧
          x'.world.semaphore = w'.semaphore) ∧
    (D.Apart → ∀ (w : World σ) (e : Service), (∃ s, e = .openDevice s ∨ e = .closeDevice s) →
      (∀ x, D.board.perform (depth + 3) (.service e) w = .ok x →
        (w.Spares e ↔ CallTree.Avoid Call.OnHardware x.calls)) ∧
      (w.Spares e → D.Ready w →
        ∀ (c : Command) {α : Type} (k : CommandAnswer → e.Answer → Reaction σ α),
        (∀ a b, (k a b).GoesBy D.view) →
        (∀ x, D.board.run (depth + 3)
            (Service.inOrder (.command D.session c) e k).action w = .ok x →
          ∃ y, D.board.run (depth + 3)
              (Service.inOrder e (.command D.session c) fun b a => k a b).action w = .ok y ∧
            y.afterTwo.map D.view = x.afterTwo.map D.view) ∧
        ∀ y, D.board.run (depth + 3)
            (Service.inOrder e (.command D.session c) fun b a => k a b).action w = .ok y →
          ∃ x,
            D.board.run (depth + 3) (Service.inOrder (.command D.session c) e k).action w = .ok x ∧
            x.afterTwo.map D.view = y.afterTwo.map D.view)) := by
  constructor
  · intro twins cs w w' agree
    obtain ⟨x, x', run, run', twin, same⟩ := twins.run_commands depth cs agree
    obtain ⟨l, a, rest, -⟩ := twin.rest
    obtain ⟨l', a', rest', -⟩ := twin.rest'
    exact ⟨x, x', run, run', same, ⟨twin.aside, by rw [rest], by rw [rest]⟩, twin.aside',
      by rw [rest'], by rw [rest']⟩
  · rintro apart w e ⟨s, counts⟩
    have journal : D.board.JournalKeeps D.state := fun n =>
      (apart.journal n).mono fun _ hu => hu.comp Prod.fst
    refine ⟨fun x hx => Board.spares_iff apart.waitingKeeps journal counts hx, ?_⟩
    intro spares ready c α k goes
    obtain ⟨forth, back⟩ := apart.exchanges depth ready c spares
    exact ⟨fun x hx => forth.run apart.journal apart.others goes hx,
      fun y hy => back.run apart.journal apart.others (fun b a => goes a b) hy⟩

/-- The first device of the board that counts how often the hardware was set up. -/
def counting : Device (Nat × List Notice) Nat Unit := ⟨Board.counting, 0, 0, Prod.fst, fun _ => ()⟩

lemma counting_apart : counting.Apart where
  works o args := by
    cases o with
    | setup => exact ⟨fun _ => rfl, fun _ => trivial⟩
    | modeSet | limitsSet | paramsSet => exact ⟨⟨_, rfl⟩, fun _ => trivial⟩
    | shutdown | start | stop | stateGet | faultSet | faultGet | faultClean | ioctl => trivial
  goes o args := by
    cases o with
    | setup => exact ⟨fun a b hab => ⟨congrArg (· + 1) hab, rfl⟩, fun _ => trivial⟩
    | modeSet | limitsSet | paramsSet => exact fun _ => trivial
    | shutdown | start | stop | stateGet | faultSet | faultGet | faultClean | ioctl => trivial
  checkWait _ := ⟨trivial, trivial⟩
  relax _ := ⟨trivial, trivial⟩
  journal _ := ⟨fun _ => rfl, fun _ => trivial⟩
  others c hc := by
    cases c with
    | operate k h s o args =>
      cases o with
      | setup =>
        refine ⟨fun a b hab => ⟨?_, rfl⟩, fun _ => trivial⟩
        exact Prod.ext (congrArg (fun v => v.1 + 1) hab) rfl
      | modeSet | limitsSet | paramsSet => exact fun _ => trivial
      | shutdown | start | stop | stateGet | faultSet | faultGet | faultClean | ioctl => trivial
    | log n => exact absurd rfl (hc n)
    | provided | discard | enter | leave | checkWait | relax | publish => trivial

/-- The world in which that device is new. -/
def fresh : World (Nat × List Notice) := (World.initial (0, [])).create ⟨0, 0, Config.default⟩

/-- The world in which it has seven references and an open is in progress. -/
def busy : World (Nat × List Notice) :=
  { fresh with count := fun _ => 7, semaphore := fun _ => ⟨0⟩ }

/-- A new device and a busy one meet the same commands in the same way.  On the busy one another
open is rejected, and can be exchanged with a command to start. -/
theorem commands_independent_counting :
    (∃ x x',
      Board.counting.run 4 (Service.inTurn [.command 0 .start, .command 0 .stop]).action fresh =
        .ok x ∧
      Board.counting.run 4 (Service.inTurn [.command 0 .start, .command 0 .stop]).action busy =
        .ok x' ∧
      counting.views x.calls = counting.views x'.calls) ∧
    ∃ x y z, Board.counting.run 4 (Service.inOrder (.command 0 .start) (.openDevice 0)
        fun a b => pure (a.result, b)).action busy = .ok x ∧
      Board.counting.run 4 (Service.inOrder (.openDevice 0) (.command 0 .start)
        fun b a => pure (a.result, b)).action busy = .ok y ∧
      x.result = (.error .permissionDenied, .error .timedOut) ∧
      y.afterTwo.map counting.view = x.afterTwo.map counting.view ∧
      Board.counting.perform 4 (.service (.openDevice 0)) busy = .ok z ∧
      CallTree.Avoid Call.OnHardware z.calls := by
  obtain ⟨same, exchange⟩ := commands_independent counting counting 1
  have ready : counting.Ready fresh := ⟨Nat.zero_lt_one, rfl, rfl⟩
  have ready' : counting.Ready busy := ⟨Nat.zero_lt_one, rfl, rfl⟩
  obtain ⟨x, x', run, run', views, -⟩ :=
    same counting_apart.twins [.start, .stop] fresh busy ⟨ready, ready', rfl, rfl⟩
  refine ⟨⟨x, x', run, run', views⟩, ?_⟩
  obtain ⟨spares, swap⟩ := exchange counting_apart busy (.openDevice 0) ⟨0, .inl rfl⟩
  have blocked : busy.Spares (.openDevice 0) := .openBlocked rfl
  obtain ⟨forth, -⟩ := swap blocked ready' .start (fun a b => pure (a.result, b)) fun _ _ => trivial
  have ends : (Board.counting.run 4 (Service.inOrder (.command 0 .start) (.openDevice 0)
      fun a b => pure (a.result, b)).action busy).map Outcome.result =
        .ok (.error .permissionDenied, .error .timedOut) := by decide +kernel
  cases ran : Board.counting.run 4 (Service.inOrder (.command 0 .start) (.openDevice 0)
      fun a b => pure (a.result, b)).action busy with
  | error e =>
    rw [ran] at ends
    cases ends
  | ok u =>
    rw [ran] at ends
    obtain ⟨v, ran', alike⟩ := forth u ran
    obtain ⟨z, -, -, opened, -⟩ := Board.run_inOrder_iff.mp ran'
    exact ⟨u, v, z, rfl, ran', Except.ok.inj ends, alike, opened, (spares z opened).mp blocked⟩

end Device

end LedDriver
