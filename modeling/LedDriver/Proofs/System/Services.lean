import LedDriver.Proofs.System.Turns

/-!
# Services in use

Which services are used in a run.  If the clients and everything on the board keep to some services,
then only calls of these services are made (`Pool.Runs.service_of_called`), are in progress
(`Pool.Runs.service_of_frame`) and end (`Pool.Runs.service_of_returned`), however deeply they are
nested: the driver itself uses none of its services.
-/

namespace LedDriver

variable {σ α : Type} {n : Nat} {allowed : Service → Prop}

/-- What uses a service uses one of some services. -/
def Use.Within (allowed : Service → Prop) : Use σ → Prop
  | .own _ => True
  | .service c => allowed c

/-- What calls a service calls one of some services. -/
def Request.Within (allowed : Service → Prop) : Request σ → Prop
  | .call (.service c) => allowed c
  | .call (.routine _) | .call (.peer _) | .atom _ => True

/-- Everything on a board keeps to some services. -/
def Board.Uses (B : Board σ) (allowed : Service → Prop) : Prop :=
  ∀ c : Peer, (B.reaction c).Only (Use.Within allowed)

lemma Reaction.action_within {r : Reaction σ α} (h : r.Only (Use.Within allowed)) :
    r.action.Only (Request.Within allowed) := by
  induction r with
  | done a => trivial
  | ask u next ih =>
    cases u with
    | own f => exact ⟨trivial, fun x => ih x (h.2 x)⟩
    | service c => exact ⟨h.1, fun x => ih x (h.2 x)⟩

/-- The driver itself uses no service. -/
lemma Call.Asks.within {c : Call} {q : Request σ} (h : c.Asks q) (driver : ∀ p, c ≠ .peer p) :
    q.Within allowed := by
  cases h
  case peer_use => exact absurd rfl (driver _)
  all_goals trivial

lemma Board.Uses.program_within {B : Board σ} (board : B.Uses allowed) (c : Call) :
    (B.program c).Only (Request.Within allowed) := by
  cases c with
  | peer p => exact Reaction.action_within (board p)
  | service c => exact (B.program_asks (.service c)).mono fun _ h => h.within nofun
  | routine c => exact (B.program_asks (.routine c)).mono fun _ h => h.within nofun

namespace Pool

variable {B : Board σ} {P : Pool n σ α} {l : List (Fin n × Label σ)} {own : σ}
  {clients : Fin n → Reaction σ α} {i : Fin n}

/-- A call in progress began in a step of the run. -/
lemma Runs.called_of_frame (run : Runs B (start own clients) l P) {f : Frame σ}
    (hf : f ∈ (P.parties i).frames) {c : Call} (hc : f.owner = some c) : (i, .called c) ∈ l := by
  induction run generalizing f c with
  | refl =>
    obtain rfl := List.mem_singleton.mp hf
    cases hc
  | @tail Q R l e run step ih =>
    obtain ⟨j, e⟩ := e
    obtain ⟨old, new, below, hold, hnew, others, turn⟩ := run.turn step
    have earlier {g : Frame σ} (hg : g ∈ (Q.parties i).frames) (owner : g.owner = some c) :
        (i, .called c) ∈ l ++ [(j, e)] := List.mem_append_left _ (ih hg owner)
    by_cases hi : i = j
    · subst hi
      rw [hold] at earlier
      rw [hnew] at hf
      rcases List.mem_append.mp hf with hf | hf
      · generalize R.world = w at turn
        cases turn with
        | act _ _ =>
          obtain rfl := List.mem_singleton.mp hf
          exact earlier (g := ⟨_, _, _, none⟩) (List.mem_append_left _ (.head _)) hc
        | call _ =>
          rcases List.mem_cons.mp hf with rfl | hf
          · cases hc
            simp
          · obtain rfl := List.mem_singleton.mp hf
            exact earlier (g := ⟨_, _, _, none⟩) (List.mem_append_left _ (.head _)) hc
        | «return» _ _ =>
          obtain rfl := List.mem_singleton.mp hf
          exact earlier (g := ⟨_, _, _, some _⟩) (List.mem_append_left _ (.tail _ (.head _))) hc
      · exact earlier (List.mem_append_right _ hf) hc
    · rw [others i hi] at hf
      exact earlier hf hc

/-- Only these services are called. -/
theorem Runs.service_of_called (run : Runs B (start own clients) l P) (board : B.Uses allowed)
    (keep : ∀ i, (clients i).Only (Use.Within allowed)) {c : Service}
    (he : (i, .called (.service c)) ∈ l) : allowed c := by
  obtain ⟨l₁, l₂, Q, R, -, before, step, -⟩ := run.exists_step he
  obtain ⟨o, w₀, d, rest, -, source⟩ := before.exists_source step fun _ _ _ _ => nofun
  have within : (Request.call (.service c) : Request σ).Within allowed := by
    refine source _ ?_
    cases o with
    | none => exact Reaction.action_within (keep i)
    | some c => exact board.program_within c
  exact within

/-- Only these services are in progress. -/
lemma Runs.service_of_frame (run : Runs B (start own clients) l P) (board : B.Uses allowed)
    (keep : ∀ i, (clients i).Only (Use.Within allowed)) {f : Frame σ}
    (hf : f ∈ (P.parties i).frames) {c : Service} (hc : f.owner = some (.service c)) : allowed c :=
  run.service_of_called board keep (run.called_of_frame hf hc)

/-- Calls that end are calls of these services. -/
lemma Runs.service_of_returned (run : Runs B (start own clients) l P) (board : B.Uses allowed)
    (keep : ∀ i, (clients i).Only (Use.Within allowed)) {c : Service} {w : World σ}
    {x : c.Answer} {d : List (Deed σ)} (he : (i, .returned (.service c) w x d) ∈ l) :
    allowed c := by
  obtain ⟨l₁, l₂, Q, R, -, before, step, -⟩ := run.exists_step he
  exact before.service_of_frame board keep (before.frame_of_return step).1 rfl

end Pool

end LedDriver
