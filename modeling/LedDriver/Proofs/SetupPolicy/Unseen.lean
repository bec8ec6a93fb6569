import LedDriver.Proofs.System.Services
import LedDriver.Proofs.System.Trees

/-!
# Who sees the policy

What an open reports when the hardware cannot be set up is fixed with a session, and hardly anything
depends on it: a program is unaware of it if it goes on in the same way whatever the policy, and
asks neither for an open of the session nor for its configuration (`Program.Unaware`).  Such a
program has the same run under each policy, with the same answers and the same calls, and with
worlds that differ in the policy alone (`Board.run_under`).

Where nothing on the board opens the session or asks for its configuration, every call other than
these two has the same run under each policy, however deeply calls are nested in it
(`Board.perform_under`).
-/

namespace LedDriver

variable {σ α β : Type} {s : SessionId} {q : SetupPolicy}

/-- The same profile with another policy. -/
def Profile.under (p : Profile) (q : SetupPolicy) : Profile :=
  { p with config := { p.config with setupFailure := q } }

/-- The same world with another policy of a session. -/
def World.under (s : SessionId) (q : SetupPolicy) (w : World σ) : World σ :=
  { w with profile := update w.profile s ((w.profile s).under q) }

/-- The same calls with other worlds around them. -/
def CallTree.onWorlds (f : World σ → World σ) : CallTree σ → CallTree σ
  | node c w x w' ts => node c (f w) x (f w') (ts.map fun t => t.onWorlds f)

/-- The same result and the same calls with other worlds. -/
def Outcome.onWorlds (f : World σ → World σ) (x : Outcome σ α) : Outcome σ α :=
  ⟨x.result, f x.world, x.calls.map (CallTree.onWorlds f)⟩

/-- The answer to the call depends on the policy of a session. -/
def Call.Reveals (s : SessionId) (c : Call) : Prop :=
  c = .service (.openDevice s) ∨ c = .service (.config s)

/-- A program goes on in the same way whatever the policy of a session, and makes no call whose
answer depends on it. -/
def Program.Unaware (s : SessionId) : Action σ α → Prop
  | .done _ => True
  | .ask (.atom (.profile t)) next =>
    (t = s → ∀ p q, next (p.under q) = next p) ∧ ∀ p, Program.Unaware s (next p)
  | .ask (.call c) next => ¬ c.Reveals s ∧ ∀ x, Program.Unaware s (next x)
  | .ask _ next => ∀ x, Program.Unaware s (next x)

/-- A question that does not show the policy of a session. -/
def Request.Blind (s : SessionId) : Request σ → Prop
  | .atom (.profile t) => t ≠ s
  | .atom _ => True
  | .call c => ¬ c.Reveals s

namespace World

lemma issued_under (w : World σ) : (w.under s q).issued = w.issued := rfl

lemma profile_under (w : World σ) : (w.under s q).profile s = (w.profile s).under q := by
  simp [under]

/-- A new session can be created under any policy. -/
lemma under_create (w : World σ) (p : Profile) :
    (w.create p).under w.issued q = w.create (p.under q) := by
  simp [under, create]

/-- Sessions are created in the same way whatever the policy of another one. -/
lemma create_under {w : World σ} (created : s < w.issued) (p : Profile) :
    (w.under s q).create p = (w.create p).under s q := by
  have other : s ≠ w.issued := Nat.ne_of_lt created
  simp only [under, create, update_of_ne _ _ other, World.mk.injEq, true_and, and_true]
  funext t
  by_cases ht : t = s
  · subst ht
    simp [update, other]
  · by_cases hn : t = w.issued <;> simp [update, ht, hn, other.symm]

end World

/-- An atom that does not read the profile of a session has the same effect whatever the policy. -/
lemma Atom.apply_under {a : Atom σ} (ha : a ≠ .profile s) {w : World σ} (created : s < w.issued) :
    a.apply (w.under s q) = (a.apply w).map fun r => (r.1, r.2.under s q) := by
  have effect : a.effect (w.under s q) = (a.effect w).map fun r => (r.1, r.2.under s q) := by
    cases a with
    | acquire l =>
      cases l with
      | control t =>
        simp only [Atom.effect]
        have same : (w.under s q).control = w.control := rfl
        rw [same]
        cases (w.control t).acquire? <;> rfl
      | table =>
        simp only [Atom.effect]
        have same : (w.under s q).table = w.table := rfl
        rw [same]
        cases w.table.acquire? <;> rfl
    | release l => cases l <;> rfl
    | exchange g seen =>
      simp only [Atom.effect]
      have same : (w.under s q).semaphore = w.semaphore := rfl
      rw [same]
      cases (w.semaphore g).exchange? seen <;> rfl
    | profile t =>
      have other : t ≠ s := fun h => ha (h ▸ rfl)
      simp [Atom.effect, World.under, update_of_ne _ _ other, Except.map]
    | create p => simp [Atom.effect, World.create_under created, World.issued_under, Except.map]
    | control | table | permits | post | count | setCount | own => rfl
  unfold apply
  cases a.session? with
  | none => exact effect
  | some t =>
    dsimp only
    rw [World.issued_under]
    split
    · exact effect
    · rfl

namespace Program.Unaware

/-- One program after another. -/
lemma bind {p : Action σ α} {f : α → Action σ β} (hp : Program.Unaware s p)
    (hf : ∀ a, Program.Unaware s (f a)) : Program.Unaware s (p.bind f) := by
  induction p with
  | done a => exact hf a
  | ask r next ih =>
    cases r with
    | call c => exact ⟨hp.1, fun x => ih x (hp.2 x)⟩
    | atom a =>
      cases a with
      | profile t =>
        refine ⟨fun h p q => ?_, fun x => ih x (hp.2 x)⟩
        exact congrArg (Program.bind · f) (hp.1 h p q)
      | _ => exact fun x => ih x (hp x)

/-- A program that asks no question that shows the policy. -/
lemma of_only {p : Action σ α} (hp : p.Only (Request.Blind s)) : Program.Unaware s p := by
  induction p with
  | done a => trivial
  | ask r next ih =>
    cases r with
    | call c => exact ⟨hp.1, fun x => ih x (hp.2 x)⟩
    | atom a =>
      cases a with
      | profile t => exact ⟨fun h => absurd h hp.1, fun x => ih x (hp.2 x)⟩
      | _ => exact fun x => ih x (hp.2 x)

/-- A program that reads a profile and does not go by the policy. -/
lemma profile {t : SessionId} {next : Profile → Action σ α}
    (same : ∀ p q, next (p.under q) = next p) (rest : ∀ p, (next p).Only (Request.Blind s)) :
    Program.Unaware s (.ask (.atom (.profile t)) next) :=
  ⟨fun _ => same, fun p => of_only (rest p)⟩

end Program.Unaware

open Program

/-! ## The programs one by one -/

/-- A call that leaves the driver shows no policy. -/
lemma Peer.blind (c : Peer) : (Request.call (.peer c) : Request σ).Blind s := by
  rintro (h | h) <;> cases h

/-- An inner procedure shows no policy. -/
lemma Routine.blind (c : Routine) : (Request.call (.routine c) : Request σ).Blind s := by
  rintro (h | h) <;> cases h

namespace Session

variable {t : SessionId}

/-- A call of a lower half in a critical section shows no policy. -/
lemma operateMasked_blind (p : Profile) (o : Operation) (args : o.Args) :
    (operateMasked t p o args : Action σ _).Only (Request.Blind s) :=
  inCriticalSection_only (Peer.blind _) (only_query (Peer.blind _)) fun _ => Peer.blind _

lemma closeDevice_unaware : Program.Unaware s (closeDevice t : Action σ _) := by
  refine .profile (fun _ _ => rfl) fun p => Semaphore.withPermit_only (Routine.blind _) ?_ trivial
  have rest : (shutDown t p : Action σ _).Only (Request.Blind s) := by
    refine only_ask trivial fun _ => (operateMasked_blind p _ _).bind fun r => ?_
    cases r with
    | error e => exact only_ask (Peer.blind _) fun _ => trivial
    | ok _ => trivial
  refine only_ask trivial fun count => ?_
  split
  · exact only_ask trivial fun _ => only_ask trivial fun _ => trivial
  · split
    · exact only_ask (Peer.blind _) fun _ => rest
    · exact rest

lemma command_unaware (c : Command) : Program.Unaware s (command t c : Action σ _) := by
  have announced : (announce c : Action σ _).Only (Request.Blind s) :=
    announce_only fun _ => Peer.blind _
  have admitted : (admission t c : Action σ _).Only (Request.Blind s) :=
    admission_only trivial (fun _ _ => trivial) trivial
  refine (Unaware.of_only admitted).bind fun r => ?_
  cases r with
  | some r => exact .of_only (only_ask (Peer.blind _) fun _ => trivial)
  | none =>
    dsimp only
    rw [forward_eq]
    refine (Unaware.of_only announced).bind fun _ => .profile (fun _ _ => rfl) fun p => ?_
    refine only_ask (Peer.blind _) fun x => ?_
    dsimp only
    split
    · trivial
    · exact only_ask (Peer.blind _) fun _ => trivial

end Session

/-- The driver makes no call itself whose answer depends on the policy. -/
lemma Call.Asks.blind {c : Call} {r : Request σ} (h : c.Asks r) (driver : ∀ p, c ≠ .peer p)
    (other : r ≠ .atom (.profile s)) : r.Blind s := by
  cases r with
  | atom a =>
    cases a with
    | profile t => exact fun same => other (same ▸ rfl)
    | _ => trivial
  | call d =>
    rintro (rfl | rfl)
    · cases h with
      | peer_use => exact driver _ rfl
    · cases h with
      | peer_use => exact driver _ rfl

/-- A service that neither opens a session, nor closes it, nor asks for its configuration. -/
def Service.Elsewhere (s : SessionId) (c : Service) : Prop :=
  c ≠ .openDevice s ∧ c ≠ .closeDevice s ∧ c ≠ .config s

/-- What the surroundings ask for if they keep to some services. -/
lemma Reaction.action_only_of_within {allowed : Service → Prop} {π : Request σ → Prop}
    {r : Reaction σ α} (h : r.Only (Use.Within allowed)) (own : ∀ f, π (.atom (.own f)))
    (services : ∀ c, allowed c → π (.call (.service c))) : r.action.Only π := by
  induction r with
  | done a => trivial
  | ask u next ih =>
    cases u with
    | own f => exact ⟨own f, fun x => ih x (h.2 x)⟩
    | service c => exact ⟨services c h.1, fun x => ih x (h.2 x)⟩

/-- What uses such services sees no policy. -/
lemma Reaction.action_blind {r : Reaction σ α} (h : r.Only (Use.Within (Service.Elsewhere s))) :
    r.action.Only (Request.Blind s) := by
  refine Reaction.action_only_of_within h (fun _ => trivial) fun c hc => ?_
  obtain ⟨opens, -, asks⟩ := hc
  rintro (same | same)
  · exact opens (Call.service.inj same)
  · exact asks (Call.service.inj same)

namespace Board

variable {B : Board σ} {depth : Nat} {w : World σ}

/-- The program of every call is unaware of the policy but for those two. -/
lemma program_unaware (board : B.Uses (Service.Elsewhere s)) {c : Call} (hc : ¬ c.Reveals s) :
    Program.Unaware s (B.program c) := by
  -- Where the profile of the session itself is not read, there is nothing to see of the policy.
  have unread (driver : ∀ p, c ≠ .peer p) (h : ¬ c.Asks (.atom (.profile s) : Request σ)) :
      Program.Unaware s (B.program c) :=
    .of_only ((B.program_asks c).mono fun r asked => asked.blind driver fun same =>
      h (same ▸ asked))
  cases c with
  | peer c => exact .of_only (Reaction.action_blind (board c))
  | routine c => exact unread nofun nofun
  | service c =>
    cases c with
    | openDevice t =>
      refine unread nofun fun asked => hc ?_
      cases asked
      exact .inl rfl
    | config t =>
      refine unread nofun fun asked => hc ?_
      cases asked
      exact .inr rfl
    | closeDevice t => exact Session.closeDevice_unaware
    | command t c => exact Session.command_unaware c
    | operate t o args => exact .profile (fun _ _ => rfl) fun _ => only_query (Peer.blind _)
    | provided t => exact .profile (fun _ _ => rfl) fun _ => only_query (Peer.blind _)
    | control | openCount | register | table | tryWait | wait | post => exact unread nofun nofun

/-! ## Runs under each policy -/

/-- The run of a program that begins with an atom. -/
lemma run_atom_eq {a : Atom σ} {next : a.Answer → Action σ α} :
    B.run depth (.ask (.atom a) next) w = match a.apply w with
      | .ok r => B.run depth (next r.1) r.2
      | .error o => .error (.stuck o) := by
  cases h : a.apply w with
  | ok r => exact run_atom h
  | error o => simp only [run_ask, Run.bind, Request.run, Atom.run, h]

/-- A program that is unaware of the policy has the same run under each, if the calls have that do
not depend on it. -/
lemma run_under_of_perform
    (calls : ∀ {c : Call} {w : World σ}, ¬ c.Reveals s → s < w.issued →
      B.perform depth c (w.under s q) =
        (B.perform depth c w).map (Outcome.onWorlds (World.under s q)))
    {p : Action σ α} (hp : Program.Unaware s p) (created : s < w.issued) :
    B.run depth p (w.under s q) = (B.run depth p w).map (Outcome.onWorlds (World.under s q)) := by
  induction p generalizing w with
  | done a => rfl
  | ask r next ih =>
    cases r with
    | atom a =>
      by_cases ha : a = .profile s
      · subst ha
        have read (v : World σ) (hv : s < v.issued) :
            (Atom.profile s).apply v = .ok (v.profile s, v) := by
          simp [Atom.apply, Atom.session?, hv, Atom.effect]
        rw [run_atom (read w created), run_atom (read (w.under s q) created), World.profile_under,
          hp.1 rfl]
        exact ih _ (hp.2 _) created
      · have each : ∀ x, Program.Unaware s (next x) := by
          cases a with
          | profile t => exact hp.2
          | _ => exact hp
        rw [run_atom_eq, run_atom_eq, Atom.apply_under ha created]
        cases effect : a.apply w with
        | error o => rfl
        | ok r =>
          have later := Nat.lt_of_lt_of_le created (Atom.Performs.effect effect).issued_le.1
          exact ih r.1 (each r.1) later
    | call c =>
      rw [run_ask]
      simp only [Run.bind, Request.run, calls hp.1 created]
      cases called : B.perform depth c w with
      | error e => rfl
      | ok y =>
        have later := Nat.lt_of_lt_of_le created (issued_le_of_perform called).1
        have rest := ih y.result (hp.2 y.result) later
        simp only [Except.map, Outcome.onWorlds, rest]
        cases B.run depth (next y.result) y.world with
        | error e => rfl
        | ok z => simp

/-- Where nothing on the board opens or closes a session or asks for its configuration, every other
call has the same run under each policy. -/
theorem perform_under (board : B.Uses (Service.Elsewhere s)) {c : Call} (hc : ¬ c.Reveals s)
    (created : s < w.issued) :
    B.perform depth c (w.under s q) =
      (B.perform depth c w).map (Outcome.onWorlds (World.under s q)) := by
  induction depth generalizing c w with
  | zero => rfl
  | succ depth ih =>
    have run := run_under_of_perform (q := q) (fun hc created => ih hc created)
      (program_unaware board hc) created
    have unfolded (v : World σ) :
        B.perform (depth + 1) c v = (B.run depth (B.program c)).asCall c v := rfl
    rw [unfolded, unfolded]
    simp only [Run.asCall, run]
    cases B.run depth (B.program c) w with
    | error e => rfl
    | ok y => simp [Except.map, Outcome.onWorlds, CallTree.onWorlds]

/-- A program that is unaware of the policy has the same run under each. -/
theorem run_under (board : B.Uses (Service.Elsewhere s)) {p : Action σ α} (hp : Program.Unaware s p)
    (created : s < w.issued) :
    B.run depth p (w.under s q) = (B.run depth p w).map (Outcome.onWorlds (World.under s q)) :=
  run_under_of_perform (fun hc created => perform_under board hc created) hp created

end Board

end LedDriver
