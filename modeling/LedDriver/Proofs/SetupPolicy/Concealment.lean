import LedDriver.Proofs.SetupPolicy.Retry

/-!
# Concealing and reporting

The same services used one after the other, on a session that conceals a failed setup and on one
that reports it.  The two runs halt together or make the same calls, with the same answers and in
the same worlds but for the policy itself; only an open that could not set up the hardware answers
success in the one and the error in the other (`CallTree.Alike`, `Board.conceal_or_report`).  After
such an open there is no reference under either policy, and the next open sets up the hardware
again.
-/

namespace LedDriver

variable {σ : Type} {s : SessionId} {q : SetupPolicy}

namespace CallTree

/-- The call as it is made under another policy of a session: what is inside it and around it
differs in the policy alone, and an open that could not set up the hardware answers what this policy
reports. -/
def under (s : SessionId) (q : SetupPolicy) : CallTree σ → CallTree σ
  | node (.service (.openDevice t)) w x w' ts =>
    node (.service (.openDevice t)) (w.under s q)
      ((if t = s then setupError? s ts else none).elim x q.report?) (w'.under s q)
      (ts.map (onWorlds (World.under s q)))
  | t => t.onWorlds (World.under s q)

/-- A call that is not an open that failed to set up the hardware is the same under another
policy. -/
lemma under_eq_onWorlds {t : CallTree σ} (h : t.setupFailure? s = none) :
    t.under s q = t.onWorlds (World.under s q) := by
  unfold under
  split
  · next t w x w' ts =>
    have none : (if t = s then setupError? s ts else none) = none := h
    simp [none, onWorlds]
  · rfl

/-- Only an open of a session fails to set up its hardware. -/
lemma exists_of_setupFailure? {t : CallTree σ} {e : DeviceError} (h : t.setupFailure? s = some e) :
    ∃ w x w' ts, t = node (.service (.openDevice s)) w x w' ts ∧ setupError? s ts = some e := by
  unfold setupFailure? at h
  split at h
  · next u w x w' ts =>
    by_cases same : u = s
    · subst same
      exact ⟨w, x, w', ts, rfl, by simpa using h⟩
    · rw [if_neg same] at h
      cases h
  · cases h

/-- A call on a session that conceals a failed setup, and the same call where it is reported: they
differ in the policy alone, or in the answer of an open that could not set up the hardware. -/
inductive Alike (s : SessionId) : CallTree σ → CallTree σ → Prop
  | same {t : CallTree σ} (sound : t.setupFailure? s = none) :
    Alike s t (t.onWorlds (World.under s .report))
  | failed {w w' : World σ} {ts : List (CallTree σ)} {e : DeviceError}
    (failure : setupError? s ts = some e) :
    Alike s (node (.service (.openDevice s)) w (.ok ()) w' ts)
      (node (.service (.openDevice s)) (w.under s .report) (.error e) (w'.under s .report)
        (ts.map (onWorlds (World.under s .report))))

end CallTree

open CallTree

/-- A world and the calls made before it. -/
abbrev Effects (σ : Type) := World σ × List (CallTree σ)

/-- The world and the calls that a run leads to. -/
def Outcome.effects {α : Type} (x : Outcome σ α) : Effects σ := (x.world, x.calls)

/-- The world and the calls as they are under another policy of a session. -/
def Effects.under (s : SessionId) (q : SetupPolicy) (u : Effects σ) : Effects σ :=
  (u.1.under s q, u.2.map (CallTree.under s q))

namespace Board

variable {B : Board σ} {depth : Nat} {w : World σ}

/-- An open under another policy. -/
lemma perform_openDevice_under (board : B.Uses (Service.Elsewhere s)) (created : s < w.issued) :
    (B.perform depth (.service (.openDevice s)) (w.under s q)).map Outcome.effects =
      ((B.perform depth (.service (.openDevice s)) w).map Outcome.effects).map
        (Effects.under s q) := by
  cases depth with
  | zero => rfl
  | succ depth =>
    have later : s < (w.under s q).issued := created
    rw [perform_openDevice created, perform_openDevice later, World.profile_under,
      Session.attempt_under,
      run_under board (.of_only (Session.attempt_blind s (w.profile s))) created]
    cases attempted : B.run depth (Session.attempt s (w.profile s)) w with
    | error e => rfl
    | ok y =>
      have answer : y.result.report q =
          (setupError? s y.calls).elim
            (y.result.report (w.profile s).config.setupFailure) q.report? := by
        rw [setupError?_attempt attempted]
        cases y.result <;> rfl
      simp [Except.map, Outcome.effects, Effects.under, Outcome.onWorlds, CallTree.under, answer,
        Profile.under]

/-- A service under another policy, unless it asks for the configuration. -/
lemma perform_service_under (board : B.Uses (Service.Elsewhere s)) (created : s < w.issued)
    {c : Service} (unasked : c ≠ .config s) :
    (B.perform depth (.service c) (w.under s q)).map Outcome.effects =
      ((B.perform depth (.service c) w).map Outcome.effects).map (Effects.under s q) := by
  by_cases opens : c = .openDevice s
  · subst opens
    exact perform_openDevice_under board created
  · have hidden : ¬ (Call.service c).Reveals s := by
      rintro (same | same)
      · exact opens (Call.service.inj same)
      · exact unasked (Call.service.inj same)
    rw [perform_under board hidden created]
    cases called : B.perform depth (.service c) w with
    | error e => rfl
    | ok x =>
      obtain ⟨d, inner, -, -, calls⟩ := exists_of_perform called
      have sound : setupFailure? s (.node (.service c) w x.result x.world inner) = none :=
        setupFailure?_eq_none fun same => opens (Call.service.inj same)
      simp [Except.map, Outcome.effects, Effects.under, Outcome.onWorlds, calls,
        under_eq_onWorlds sound]

/-- What it leads to that one service is used and then others. -/
lemma effects_inTurn_cons {c : Service} {cs : List Service} :
    (B.run depth (Service.inTurn (c :: cs)).action w).map Outcome.effects =
      (B.perform depth (.service c) w).map Outcome.effects >>= fun u =>
        ((B.run depth (Service.inTurn cs).action u.1).map Outcome.effects).map fun v =>
          (v.1, u.2 ++ v.2) := by
  have split : B.run depth (Service.inTurn (c :: cs)).action w =
      (B.perform depth (.service c)).bind (fun _ => B.run depth (Service.inTurn cs).action) w := rfl
  rw [split]
  simp only [Run.bind]
  cases B.perform depth (.service c) w with
  | error e => rfl
  | ok x =>
    simp only [Except.map, bind, Except.bind, Outcome.effects]
    cases B.run depth (Service.inTurn cs).action x.world <;> rfl

/-- Services used one after the other under another policy. -/
theorem run_inTurn_under (board : B.Uses (Service.Elsewhere s)) (created : s < w.issued)
    {cs : List Service} (unasked : .config s ∉ cs) :
    (B.run depth (Service.inTurn cs).action (w.under s q)).map Outcome.effects =
      ((B.run depth (Service.inTurn cs).action w).map Outcome.effects).map (Effects.under s q) := by
  induction cs generalizing w with
  | nil => rfl
  | cons c cs ih =>
    have first : (B.perform depth (.service c) (w.under s q)).map Outcome.effects = _ :=
      perform_service_under board created fun same => unasked (same ▸ List.mem_cons_self ..)
    rw [effects_inTurn_cons, effects_inTurn_cons, first]
    cases called : B.perform depth (.service c) w with
    | error e => rfl
    | ok x =>
      have later := Nat.lt_of_lt_of_le created (issued_le_of_perform called).1
      have rest := ih later fun same => unasked (List.mem_cons_of_mem _ same)
      change ((B.run depth (Service.inTurn cs).action (x.world.under s q)).map Outcome.effects).map
          (fun v => (v.1, x.calls.map (CallTree.under s q) ++ v.2)) =
        (((B.run depth (Service.inTurn cs).action x.world).map Outcome.effects).map
          fun v => (v.1, x.calls ++ v.2)).map (Effects.under s q)
      rw [rest]
      cases B.run depth (Service.inTurn cs).action x.world with
      | error e => rfl
      | ok z => simp [Except.map, Effects.under]

/-- A call on a session that conceals a failed setup, and the same call where it is reported. -/
lemma alike_under {t : CallTree σ}
    (performed : B.perform depth t.call t.before = .ok ⟨t.answer, t.after, [t]⟩)
    (conceals : (t.before.profile s).config.setupFailure = .conceal) :
    Alike s t (t.under s .report) := by
  cases failure : t.setupFailure? s with
  | none =>
    rw [under_eq_onWorlds failure]
    exact .same failure
  | some e =>
    obtain ⟨v, x, v', ts, rfl, error⟩ := exists_of_setupFailure? failure
    obtain ⟨-, d, y, attempted, answer, -, calls⟩ := exists_attempt performed
    have shown := setupError?_attempt attempted
    obtain rfl : ts = y.calls := congrArg CallTree.inner (List.singleton_inj.mp calls)
    rw [error] at shown
    have concealed : x = .ok () := by
      refine answer.trans ?_
      cases result : y.result with
      | settled a =>
        rw [result] at shown
        cases shown
      | failed e =>
        rw [conceals]
        rfl
    subst concealed
    simp only [under, error]
    exact .failed error

/-- Services used one after the other on a new session, once where it conceals a failed setup and
once where it reports it.  The runs come to the same halt, or they make the same calls, which are
alike; and after an open that could not set up the hardware there is no reference, and the next open
sets it up again. -/
theorem conceal_or_report (board : B.Uses (Service.Elsewhere w.issued)) (p : Profile)
    {cs : List Service} (unasked : .config w.issued ∉ cs) (depth : Nat) :
    (∃ e, B.run depth (Service.inTurn cs).action (w.create (p.under .conceal)) = .error e ∧
      B.run depth (Service.inTurn cs).action (w.create (p.under .report)) = .error e) ∨
    ∃ x x', B.run depth (Service.inTurn cs).action (w.create (p.under .conceal)) = .ok x ∧
      B.run depth (Service.inTurn cs).action (w.create (p.under .report)) = .ok x' ∧
      x.calls.map CallTree.call = cs.map Call.service ∧
      List.Forall₂ (Alike w.issued) x.calls x'.calls ∧
      (∀ t ∈ x.calls ++ x'.calls, t.setupFailure? w.issued ≠ none → t.after.count w.issued = 0) ∧
      Retries w.issued p.lower x.calls ∧ Retries w.issued p.lower x'.calls := by
  have created (q : SetupPolicy) : w.issued < (w.create (p.under q)).issued := Nat.lt_succ_self _
  have free (q : SetupPolicy) :
      ((w.create (p.under q)).semaphore (.guard w.issued)).permits ≠ 0 := by
    simp [World.create]
  have profile (q : SetupPolicy) : (w.create (p.under q)).profile w.issued = p.under q := by
    simp [World.create]
  have related : (B.run depth (Service.inTurn cs).action
      ((w.create (p.under .conceal)).under w.issued .report)).map Outcome.effects = _ :=
    run_inTurn_under board (created .conceal) unasked
  rw [World.under_create] at related
  have twice : (p.under .conceal).under .report = p.under .report := rfl
  rw [twice] at related
  cases concealed : B.run depth (Service.inTurn cs).action (w.create (p.under .conceal)) with
  | error e =>
    cases reported : B.run depth (Service.inTurn cs).action (w.create (p.under .report)) with
    | error e' =>
      rw [concealed, reported] at related
      cases related
      exact .inl ⟨e, rfl, rfl⟩
    | ok x' =>
      rw [concealed, reported] at related
      cases related
  | ok x =>
    cases reported : B.run depth (Service.inTurn cs).action (w.create (p.under .report)) with
    | error e' =>
      rw [concealed, reported] at related
      cases related
    | ok x' =>
      rw [concealed, reported] at related
      have calls : x'.calls = x.calls.map (CallTree.under w.issued .report) :=
        congrArg Prod.snd (Except.ok.inj related)
      obtain ⟨made, -, -, counted⟩ :=
        counted_of_inTurn board (created .conceal) (free .conceal) concealed
      obtain ⟨none, retries⟩ := retries_of_inTurn board (created .conceal) (free .conceal) concealed
      obtain ⟨none', retries'⟩ := retries_of_inTurn board (created .report) (free .report) reported
      rw [profile] at counted retries retries'
      refine .inr ⟨x, x', rfl, rfl, made, ?_, ?_, retries, retries'⟩
      · rw [calls, List.forall₂_map_right_iff, List.forall₂_same]
        intro t ht
        exact alike_under (perform_of_mem concealed ht) (by rw [(counted t ht).profile]; rfl)
      · intro t ht
        rcases List.mem_append.mp ht with ht | ht
        · exact none t ht
        · exact none' t ht

/-- A board whose lower half cannot set up the hardware the first time. -/
def hesitant : Board Nat :=
  .obedient do
    let attempts ← Reaction.own (· + 1)
    pure (if attempts = 0 then .error .io else .ok ())

lemma hesitant_elsewhere (s : SessionId) : hesitant.Uses (Service.Elsewhere s) := by
  intro c
  cases c with
  | operate k h t o args =>
    cases o with
    | setup => exact ⟨trivial, fun _ => trivial⟩
    | modeSet | limitsSet | paramsSet => exact ⟨⟨nofun, nofun, nofun⟩, fun _ => trivial⟩
    | shutdown | start | stop | stateGet | faultSet | faultGet | faultClean | ioctl => trivial
  | provided | discard | enter | leave | checkWait | relax | log | publish => trivial

/-- A client that opens a device twice, starts it and closes it. -/
def opening : Reaction Nat Unit :=
  Service.inTurn [.openDevice 0, .openDevice 0, .command 0 .start, .closeDevice 0]

/-- The first open of a device on such a board cannot set up the hardware and the second can,
whatever the policy. -/
theorem conceal_or_report_hesitant :
    ∃ x x', hesitant.run 5 opening.action
        ((World.initial 0).create (Profile.under ⟨0, 0, Config.default⟩ .conceal)) = .ok x ∧
      hesitant.run 5 opening.action
        ((World.initial 0).create (Profile.under ⟨0, 0, Config.default⟩ .report)) = .ok x' ∧
      x.calls.map (setupFailure? 0) = [some .io, none, none, none] ∧
      List.Forall₂ (Alike 0) x.calls x'.calls ∧ Retries 0 0 x.calls ∧ Retries 0 0 x'.calls := by
  have shown : (hesitant.run 5 opening.action
      ((World.initial 0).create (Profile.under ⟨0, 0, Config.default⟩ .conceal))).map
      (fun x => x.calls.map (setupFailure? 0)) = .ok [some .io, none, none, none] := by
    decide +kernel
  have unasked : .config 0 ∉
      [Service.openDevice 0, .openDevice 0, .command 0 .start, .closeDevice 0] := by
    simp
  obtain ⟨e, halted, -⟩ | ⟨x, x', concealed, reported, -, alike, -, retries, retries'⟩ :=
    conceal_or_report (w := World.initial 0) (hesitant_elsewhere 0) ⟨0, 0, Config.default⟩ unasked 5
  · have ends := shown
    rw [opening, halted] at ends
    cases ends
  · rw [opening, concealed] at shown
    exact ⟨x, x', concealed, reported, Except.ok.inj shown, alike, retries, retries'⟩

end Board

end LedDriver
