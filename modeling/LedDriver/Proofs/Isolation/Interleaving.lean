import LedDriver.Proofs.Isolation.Runs

/-!
# Devices side by side

Many devices are registered in one table and used in turn, in any order.  A `DeviceStep` is what is
done with one of them: it is registered, or one of its services is used, through the handle that
registration answered or through a lookup of its path.  `Fleet.play` carries out steps of many
devices and reports after each what could be seen of it and how the device is.

On a board that keeps the devices apart, every device does in any interleaving what it does alone in
a table of its own (`Fleet.devices_independent`).
-/

namespace LedDriver

variable {ι σ τ α : Type}

/-- A service of the session of a device. -/
inductive DeviceCall where
  | openDevice
  | closeDevice
  | command (c : Command)
  | control (m : ControlMethod)
  | operate (o : Operation) (args : o.Args)
  | provided
  | openCount
  | config

/-- The service for a session. -/
def DeviceCall.service (s : SessionId) : DeviceCall → Service
  | openDevice => .openDevice s
  | closeDevice => .closeDevice s
  | command c => .command s c
  | control m => .control s m
  | operate o args => .operate s o args
  | provided => .provided s
  | openCount => .openCount s
  | config => .config s

/-- What is done with a device. -/
inductive DeviceStep where
  /-- It is registered, with one of its lower halves and one of its platforms. -/
  | register (lower platform : Nat) (config : Config)
  /-- A service is used through the handle that registration answered. -/
  | byHandle (c : DeviceCall)
  /-- A service is used through the device table. -/
  | byPath (c : DeviceCall)

/-- The steps, or the reports, of one device. -/
def ofDevice [DecidableEq ι] (d : ι) (l : List (ι × α)) : List (ι × α) := l.filter fun x => x.1 = d

section OfDevice

variable [DecidableEq ι] {d e : ι} {a : α} {l : List (ι × α)}

lemma ofDevice_cons_self : ofDevice d ((d, a) :: l) = (d, a) :: ofDevice d l := by simp [ofDevice]

lemma ofDevice_cons_of_ne (h : e ≠ d) : ofDevice e ((d, a) :: l) = ofDevice e l := by
  simp [ofDevice, h.symm]

end OfDevice

namespace Fleet

/-- A step of a device as a program.  It answers the handle of the device. -/
def reaction (F : Fleet ι σ τ) (d : ι) (handle : Option SessionId) :
    DeviceStep → Reaction σ (Option SessionId)
  | .register lower platform config => do
    match ← (Service.register
        ⟨F.path d, F.lower d lower, F.platform d platform, config, none⟩).use with
    | .registered s => pure (some s)
    | _ => pure handle
  | .byHandle c =>
    match handle with
    | none => pure none
    | some s => do
      let _ ← (c.service s).use
      pure handle
  | .byPath c => do
    match ← (Service.table (.lookup (F.path d))).use with
    | none => pure handle
    | some s => do
      let _ ← (c.service s).use
      pure handle

/-- How far devices have come: the world, and the handle of each device that was registered. -/
structure Stage (ι σ : Type) where
  world : World σ
  handle : ι → Option SessionId

/-- How a device is: its control block, its open count and its permits, if it was registered, and
its part of the state of the surroundings. -/
structure Status (τ : Type) where
  session : Option (ControlBlock × UInt8 × UInt32)
  surroundings : τ
deriving DecidableEq

/-- What could be seen of a step of a device, and how the device is after it. -/
structure Report (τ : Type) where
  sights : List Sight
  status : Status τ

/-- Before anything happened. -/
def start (own : σ) : Stage ι σ := ⟨World.initial own, fun _ => none⟩

/-- How a device is at a stage. -/
def status (F : Fleet ι σ τ) (S : Stage ι σ) (d : ι) : Status τ where
  session := (S.handle d).map fun s =>
    (S.world.block s, S.world.count s, (S.world.semaphore (.guard s)).permits)
  surroundings := F.view d S.world.own

/-- Carries out steps of devices one after the other, with a report on each. -/
def play [DecidableEq ι] (F : Fleet ι σ τ) (B : Board σ) (depth : Nat) :
    List (ι × DeviceStep) → Stage ι σ → Except Halt (List (ι × Report τ) × Stage ι σ)
  | [], S => .ok ([], S)
  | (d, step) :: steps, S =>
    match B.run depth (F.reaction d (S.handle d) step).action S.world with
    | .error e => .error e
    | .ok x =>
      let S' : Stage ι σ := ⟨x.world, update S.handle d x.result⟩
      match F.play B depth steps S' with
      | .error e => .error e
      | .ok (reports, T) =>
        .ok ((d, ⟨x.calls.flatMap CallTree.sights, F.status S' d⟩) :: reports, T)

variable {F : Fleet ι σ τ} {B : Board σ} {depth : Nat} {d : ι} {ρ : Links} {w w' v : World σ}

/-! ## One step -/

/-- The use of a service of the session of a device. -/
lemma ProgramAlike.use {s s' : SessionId} (h : ρ s s') (c : DeviceCall)
    {handle handle' : Option SessionId} (same : Option.Rel ρ handle handle') :
    F.ProgramAlike d Option.Rel ρ ((c.service s).use >>= fun _ => pure handle : Reaction σ _).action
      ((c.service s').use >>= fun _ => pure handle' : Reaction σ _).action := by
  have ends {ρ'} (grows : ρ ≤ ρ') : F.ProgramAlike d Option.Rel ρ' (.done handle) (.done handle') :=
    .done (optionRel_mono same fun {_ _} => grows _ _)
  cases c with
  | openDevice => exact .call (.openDevice h) fun grows _ => ends grows
  | closeDevice => exact .call (.closeDevice h) fun grows _ => ends grows
  | command c => exact .call (.command h c) fun grows _ => ends grows
  | control m => exact .call (.control h m) fun grows _ => ends grows
  | operate o args => exact .call (.operate h o args) fun grows _ => ends grows
  | provided => exact .call (.provided h) fun grows _ => ends grows
  | openCount => exact .call (.openCount h) fun grows _ => ends grows
  | config => exact .call (.config h) fun grows _ => ends grows

/-- A step does the same for its device under any numbers. -/
lemma reaction_alike {handle handle' : Option SessionId} (same : Option.Rel ρ handle handle')
    (step : DeviceStep) :
    F.ProgramAlike d Option.Rel ρ (F.reaction d handle step).action
      (F.reaction d handle' step).action := by
  cases step with
  | register lower platform config =>
    refine .call (.register ⟨rfl, ⟨lower, rfl⟩, ⟨platform, rfl⟩, rfl⟩)
      fun {ρ' x x'} grows related => ?_
    have still : Option.Rel ρ' handle handle' := optionRel_mono same fun {_ _} => grows _ _
    cases x with
    | registered s =>
      cases x' with
      | registered s' => exact .done (.some related)
      | refused | fault => cases related
    | refused | fault =>
      cases x' with
      | registered s' => cases related
      | refused | fault => exact .done still
  | byHandle c =>
    cases same with
    | none => exact .done .none
    | some h => exact .use h c (.some h)
  | byPath c =>
    refine .call .lookup fun {ρ' x x'} grows related => ?_
    have still : Option.Rel ρ' handle handle' := optionRel_mono same fun {_ _} => grows _ _
    cases related with
    | none => exact .done still
    | some h => exact .use h c still

/-! ## Many devices -/

/-- What a device does for itself leaves the worlds alike for every other device. -/
lemma Mirror.of_kept {e : ι} (apart : e ≠ d) {ρ' : Links} (m : F.Mirror e ρ' w w')
    (separate : ∀ {s s'}, ρ' s s' → ∀ t, ¬ ρ s t) (kept : F.Kept d ρ w v) : F.Mirror e ρ' v w' where
  created h := ⟨Nat.lt_of_lt_of_le (m.created h).1 kept.issued, (m.created h).2⟩
  unique := m.unique
  profile h := by
    rw [(kept.session _ (m.created h).1 (separate h)).1]
    exact m.profile h
  memory h := by
    rw [(kept.session _ (m.created h).1 (separate h)).2]
    exact m.memory h
  node := by
    rw [kept.node _ (mt (F.distinct ·) apart)]
    exact m.node
  lock := kept.lock.trans m.lock
  view := (kept.view e apart).trans m.view

/-- A stage at which many devices have done something, and for each device one at which it alone
has. -/
structure Together (F : Fleet ι σ τ) (links : ι → Links) (S : Stage ι σ) (solo : ι → Stage ι σ) :
    Prop where
  mirror : ∀ d, F.Mirror d (links d) S.world (solo d).world
  handle : ∀ d, Option.Rel (links d) (S.handle d) ((solo d).handle d)
  separate : ∀ {d e s s' t}, links d s s' → links e s t → d = e

variable {links : ι → Links} {S : Stage ι σ} {solo : ι → Stage ι σ}

lemma together_start (F : Fleet ι σ τ) (own : σ) :
    F.Together (fun _ _ _ => False) (start own) fun _ => start own where
  mirror _ :=
    { created := False.elim
      unique := False.elim
      profile := False.elim
      memory := False.elim
      node := .none
      lock := rfl
      view := rfl }
  handle _ := .none
  separate := False.elim

/-- Each device is as it is alone. -/
lemma Together.status_eq (h : F.Together links S solo) (d : ι) :
    F.status S d = F.status (solo d) d := by
  have session : (F.status S d).session = (F.status (solo d) d).session := by
    have same := h.handle d
    unfold status
    generalize S.handle d = a at same
    generalize (solo d).handle d = b at same
    cases same with
    | none => rfl
    | some linked =>
      obtain ⟨control, count, guard⟩ := Memory.mk.inj ((h.mirror d).memory linked)
      simp [World.block, control, count, guard]
  have surroundings : (F.status S d).surroundings = (F.status (solo d) d).surroundings :=
    (h.mirror d).view
  calc F.status S d = ⟨(F.status S d).session, (F.status S d).surroundings⟩ := rfl
    _ = F.status (solo d) d := by rw [session, surroundings]

variable [DecidableEq ι]

/-- A step of one device, in the company of the others and alone. -/
lemma Together.step (h : F.Together links S solo) {x x' : Outcome σ (Option SessionId)}
    (result : Option.Rel ρ x.result x'.result)
    (passes : F.Passes d (links d) ρ S.world (solo d).world x.world x'.world) :
    F.Together (update links d ρ) ⟨x.world, update S.handle d x.result⟩
      (update solo d ⟨x'.world, update (solo d).handle d x'.result⟩) where
  mirror e := by
    by_cases he : e = d
    · subst he
      simpa using passes.mirror
    · rw [update_of_ne _ _ he, update_of_ne _ _ he]
      refine (h.mirror e).of_kept he ?_ passes.kept
      exact fun linked t own => he (h.separate linked own)
  handle e := by
    by_cases he : e = d
    · subst he
      simpa using result
    · simp only [update_of_ne _ _ he]
      exact h.handle e
  separate := by
    have new {b : ι} {s s' t : SessionId} (linked : ρ s s') (other : links b s t) : d = b := by
      rcases passes.fresh linked with linked | fresh
      · exact h.separate linked other
      · exact absurd ((h.mirror b).created other).1 (Nat.not_lt_of_le fresh)
    intro a b s s' t linked linked'
    by_cases ha : a = d
    · subst ha
      by_cases hb : b = a
      · exact hb.symm
      · rw [update_self] at linked
        rw [update_of_ne _ _ hb] at linked'
        exact new linked linked'
    · rw [update_of_ne _ _ ha] at linked
      by_cases hb : b = d
      · subst hb
        rw [update_self] at linked'
        exact (new linked' linked).symm
      · rw [update_of_ne _ _ hb] at linked'
        exact h.separate linked linked'

lemma play_cons {step : DeviceStep} {steps : List (ι × DeviceStep)}
    {x : Outcome σ (Option SessionId)}
    (first : B.run depth (F.reaction d (S.handle d) step).action S.world = .ok x)
    {y : List (ι × Report τ) × Stage ι σ}
    (rest : F.play B depth steps ⟨x.world, update S.handle d x.result⟩ = .ok y) :
    F.play B depth ((d, step) :: steps) S =
      .ok ((d, ⟨x.calls.flatMap CallTree.sights,
        F.status ⟨x.world, update S.handle d x.result⟩ d⟩) :: y.1, y.2) := by
  simp only [play, first, rest]

lemma play_cons_error {step : DeviceStep} {steps : List (ι × DeviceStep)}
    {x : Outcome σ (Option SessionId)}
    (first : B.run depth (F.reaction d (S.handle d) step).action S.world = .ok x) {e : Halt}
    (rest : F.play B depth steps ⟨x.world, update S.handle d x.result⟩ = .error e) :
    F.play B depth ((d, step) :: steps) S = .error e := by
  simp only [play, first, rest]

/-- Steps of many devices in the company of each other and of each device alone. -/
lemma Together.play (apart : F.Apart B) (h : F.Together links S solo) (depth : Nat)
    (steps : List (ι × DeviceStep)) :
    (∃ x, F.play B depth steps S = .ok x ∧ ∀ d, ∃ y,
      F.play B depth (ofDevice d steps) (solo d) = .ok y ∧ ofDevice d x.1 = y.1 ∧
        F.status x.2 d = F.status y.2 d) ∨
    ∃ e d e', F.play B depth steps S = .error e ∧
      F.play B depth (ofDevice d steps) (solo d) = .error e' := by
  induction steps generalizing links S solo with
  | nil => exact .inl ⟨_, rfl, fun d => ⟨_, rfl, rfl, h.status_eq d⟩⟩
  | cons step steps ih =>
    obtain ⟨d, step⟩ := step
    have meets : F.Meets d (links d) S.world (solo d).world Option.Rel
        (B.run depth (F.reaction d (S.handle d) step).action S.world)
        (B.run depth (F.reaction d ((solo d).handle d) step).action (solo d).world) :=
      (reaction_alike (h.handle d) step).run_meets (fun h m => apart.perform_meets h m) (h.mirror d)
    have own : ofDevice d ((d, step) :: steps) = (d, step) :: ofDevice d steps := ofDevice_cons_self
    cases here : B.run depth (F.reaction d (S.handle d) step).action S.world with
    | error e =>
      cases alone : B.run depth (F.reaction d ((solo d).handle d) step).action (solo d).world with
      | error e' =>
        exact .inr ⟨e, d, e', by simp [Fleet.play, here], by simp [own, Fleet.play, alone]⟩
      | ok x' =>
        rw [here, alone] at meets
        cases meets
    | ok x =>
      cases alone : B.run depth (F.reaction d ((solo d).handle d) step).action (solo d).world with
      | error e' =>
        rw [here, alone] at meets
        cases meets
      | ok x' =>
        rw [here, alone] at meets
        cases meets with
        | ok result sights passes =>
          have later := h.step result passes
          rcases ih later with ⟨y, rest, each⟩ | ⟨e, c, e', rest, halts⟩
          · refine .inl ⟨_, Fleet.play_cons here rest, fun c => ?_⟩
            obtain ⟨z, run, same, final⟩ := each c
            have status := later.status_eq c
            by_cases hc : c = d
            · subst hc
              rw [update_self] at run status
              rw [ofDevice_cons_self, ofDevice_cons_self]
              exact ⟨_, Fleet.play_cons alone run, by rw [same, sights, status], final⟩
            · rw [update_of_ne _ _ hc] at run
              rw [ofDevice_cons_of_ne hc, ofDevice_cons_of_ne hc]
              exact ⟨z, run, same, final⟩
          · refine .inr ⟨e, c, e', Fleet.play_cons_error here rest, ?_⟩
            by_cases hc : c = d
            · subst hc
              rw [update_self] at halts
              rw [ofDevice_cons_self]
              exact Fleet.play_cons_error alone halts
            · rw [update_of_ne _ _ hc] at halts
              rw [ofDevice_cons_of_ne hc]
              exact halts

/-- Devices do not interfere.  On a board that keeps them apart, any number of devices are used in
any interleaving: each is registered, at its own path of the one table, opened, closed, sent
commands, and its control block and its lower half are used directly, through its handle or through
its path.

If the whole run ends, every device alone, in a table of its own, reports the same after each of its
steps and is the same in the end: what could be seen of the step with all answers, the control
block, the open count, the permits, and the state of its lower half and of its platform.  The whole
run ends if each device alone does.  Hence the order in which the devices take turns makes no
difference to any of them. -/
theorem devices_independent (F : Fleet ι σ τ) (apart : F.Apart B) (depth : Nat) (own : σ)
    (steps : List (ι × DeviceStep)) :
    (∀ x, F.play B depth steps (start own) = .ok x → ∀ d, ∃ y,
      F.play B depth (ofDevice d steps) (start own) = .ok y ∧ ofDevice d x.1 = y.1 ∧
        F.status x.2 d = F.status y.2 d) ∧
    ((∀ d, ∃ y, F.play B depth (ofDevice d steps) (start own) = .ok y) →
      ∃ x, F.play B depth steps (start own) = .ok x) ∧
    ∀ steps' : List (ι × DeviceStep), (∀ d, ofDevice d steps' = ofDevice d steps) →
      ∀ x, F.play B depth steps (start own) = .ok x →
        ∃ x', F.play B depth steps' (start own) = .ok x' ∧
          ∀ d, ofDevice d x'.1 = ofDevice d x.1 ∧ F.status x'.2 d = F.status x.2 d := by
  have alone (steps : List (ι × DeviceStep)) (x) (hx : F.play B depth steps (start own) = .ok x)
      (d : ι) :
      ∃ y, F.play B depth (ofDevice d steps) (start own) = .ok y ∧ ofDevice d x.1 = y.1 ∧
        F.status x.2 d = F.status y.2 d := by
    rcases (together_start F own).play apart depth steps with
      ⟨y, run, each⟩ | ⟨e, c, e', run, -⟩
    · cases run.symm.trans hx
      exact each d
    · cases run.symm.trans hx
  have ends (steps : List (ι × DeviceStep))
      (each : ∀ d, ∃ y, F.play B depth (ofDevice d steps) (start own) = .ok y) :
      ∃ x, F.play B depth steps (start own) = .ok x := by
    rcases (together_start F own).play apart depth steps with
      ⟨y, run, -⟩ | ⟨e, c, e', -, halts⟩
    · exact ⟨y, run⟩
    · obtain ⟨y, run⟩ := each c
      cases halts.symm.trans run
  refine ⟨alone steps, ends steps, ?_⟩
  intro steps' same x hx
  obtain ⟨x', hx'⟩ := ends steps' fun d => by
    obtain ⟨y, run, -⟩ := alone steps x hx d
    exact ⟨y, by rw [same d, run]⟩
  refine ⟨x', hx', fun d => ?_⟩
  obtain ⟨y, run, reports, status⟩ := alone steps x hx d
  obtain ⟨y', run', reports', status'⟩ := alone steps' x' hx' d
  rw [same d] at run'
  cases run.symm.trans run'
  exact ⟨reports'.trans reports.symm, status'.trans status.symm⟩

/-- Two devices, each of which counts how often its hardware was set up. -/
def pair : Fleet Bool (Bool → Nat) Nat where
  path d := if d then "/dev/led1" else "/dev/led0"
  lower d _ := d.toNat
  platform d _ := d.toNat
  view d a := a d
  distinct := by
    intro d e
    cases d <;> cases e <;> simp

/-- A board for these two devices. -/
def pairBoard : Board (Bool → Nat) :=
  { Board.obedient (pure (.ok ())) with
    lower := fun h => LowerHalf.obedient do
      let _ ← Reaction.own fun a => update a (h == 1) (a (h == 1) + 1)
      pure (.ok ()) }

lemma pairBoard_apart : pair.Apart pairBoard where
  operate d k {ρ s s'} h o args := by
    cases o with
    | setup =>
      refine .atom (.own ?_ ?_) fun _ _ => .done rfl
      · intro a a' same
        have same : a d = a' d := same
        cases d <;> simp [pair, update, same]
      · intro e he a
        cases d <;> cases e <;> simp_all [pair, update]
    | modeSet => exact .call (.control h (.setMode args)) fun _ _ => .done rfl
    | limitsSet => exact .call (.control h (.storeLimits args)) fun _ same => .done same
    | paramsSet => exact .call (.control h (.storeParams args)) fun _ same => .done same
    | shutdown | start | stop | stateGet | faultSet | faultGet | faultClean | ioctl =>
      exact .done rfl
  others d {ρ c} own := by
    cases c with
    | provided | discard | enter | leave | checkWait | relax | log => exact .done rfl
    | operate | publish => exact own.elim

/-- One device is registered and opened twice, once at its path, while the other, which admits one
reference, is registered and opened twice.  In the other order the latter comes first. -/
theorem devices_independent_pair :
    let steps : List (Bool × DeviceStep) :=
      [(false, .register 0 0 Config.default), (true, .register 0 0 ⟨1, .report⟩),
        (true, .byHandle .openDevice), (false, .byPath .openDevice), (true, .byPath .openDevice),
        (false, .byHandle .openDevice)]
    let steps' : List (Bool × DeviceStep) :=
      [(true, .register 0 0 ⟨1, .report⟩), (true, .byHandle .openDevice),
        (true, .byPath .openDevice), (false, .register 0 0 Config.default),
        (false, .byPath .openDevice), (false, .byHandle .openDevice)]
    ∃ x x' y, pair.play pairBoard 6 steps (start fun _ => 0) = .ok x ∧
      pair.play pairBoard 6 steps' (start fun _ => 0) = .ok x' ∧
      (∀ d, ofDevice d x'.1 = ofDevice d x.1 ∧ pair.status x'.2 d = pair.status x.2 d) ∧
      pair.play pairBoard 6 (ofDevice false steps) (start fun _ => 0) = .ok y ∧
      pair.status y.2 false = ⟨some (ControlBlock.initial, 2, 1), 1⟩ := by
  intro steps steps'
  obtain ⟨alone, -, orders⟩ := devices_independent pair pairBoard_apart 6 (fun _ => 0) steps
  have ran : (pair.play pairBoard 6 steps (start fun _ => 0)).map (fun x => pair.status x.2 false) =
      .ok ⟨some (ControlBlock.initial, 2, 1), 1⟩ := by decide +kernel
  have same : ∀ d, ofDevice d steps' = ofDevice d steps := by
    intro d
    cases d <;> rfl
  cases hx : pair.play pairBoard 6 steps (start fun _ => 0) with
  | error e =>
    rw [hx] at ran
    cases ran
  | ok x =>
    rw [hx] at ran
    obtain ⟨x', hx', each⟩ := orders steps' same x hx
    obtain ⟨y, hy, -, final⟩ := alone x hx false
    exact ⟨x, x', y, rfl, hx', each, hy, final.symm.trans (Except.ok.inj ran)⟩

end Fleet

end LedDriver
