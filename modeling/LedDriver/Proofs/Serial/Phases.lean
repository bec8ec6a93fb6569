import LedDriver.Proofs.Nesting.Exclusion

/-!
# Phases of an open or a close

An open or a close does its work in a fixed order.  It gets to know its session and waits for the
permit; with the permit it reads the open count, and it stores the count at most once; it gives the
permit back, and then it is done.  The `Phase` of a program is a function of its deeds (`Phase.of`),
it never goes back to an earlier one, and `Phase.Allows` lists what a program may ask for in a phase
(`Board.Continues.phase_allows`).

Whoever stores the open count, gives the permit back or makes the hardware work is an open or a
close that serves, which is to say that it has received the permit and not given it back
(`Board.Continues.serves`).  A program that serves has the permit (`Frame.Serves.holds`), so that at
most one does at a time (`Runs.not_serves`).
-/

namespace LedDriver

variable {σ α β : Type} {n : Nat}

/-- How far an open or a close is. -/
inductive Phase where
  /-- It has not received the permit. -/
  | before
  /-- It has the permit and has not stored the open count. -/
  | holding
  /-- It has the permit and has stored the open count. -/
  | stored
  /-- It has given the permit back. -/
  | after
deriving DecidableEq

namespace Phase

/-- The program has received the permit and not given it back. -/
def Serving (φ : Phase) : Prop := φ = holding ∨ φ = stored

instance (φ : Phase) : Decidable φ.Serving := inferInstanceAs (Decidable (_ ∨ _))

/-- The phase after one more deed of a program that opens or closes a session. -/
def next (s : SessionId) (φ : Phase) : Deed σ → Phase
  | .received (.routine (.wait g _)) r =>
    if g = .guard s ∧ r.isOk ∧ φ = before then holding else φ
  | .acted (.setCount u _) _ => if u = s ∧ φ = holding then stored else φ
  | .acted (.post g) _ => if g = .guard s ∧ φ.Serving then after else φ
  | _ => φ

/-- The phase of a program that opens or closes a session, by its deeds. -/
def of (s : SessionId) (d : List (Deed σ)) : Phase := d.foldl (next s) before

@[simp] lemma of_nil (s : SessionId) : of s ([] : List (Deed σ)) = before := rfl

@[simp] lemma of_snoc (s : SessionId) (d : List (Deed σ)) (x : Deed σ) :
    of s (d ++ [x]) = (of s d).next s x := by
  simp [of]

/-- What a program that opens or closes a session may ask for. -/
def Allows (φ : Phase) : Request σ → Prop
  | .atom (.profile _) | .call (.routine (.wait _ _)) => φ = before
  | .atom (.count _) | .atom (.setCount _ _) => φ = holding
  | .atom (.post _) | .call (.peer _) => φ.Serving
  | _ => False

variable {s : SessionId}

/-- No deed leads back to the time before the permit. -/
lemma eq_before_of_next {φ : Phase} {x : Deed σ} (h : φ.next s x = before) : φ = before := by
  unfold next at h
  split at h
  case h_4 => exact h
  all_goals
    split at h
    · cases h
    · exact h

/-- No deed leads back to the time before the store. -/
lemma next_of_stored {φ : Phase} (x : Deed σ) (h : φ = stored ∨ φ = after) :
    φ.next s x = stored ∨ φ.next s x = after := by
  unfold next
  split
  case h_3 g _ =>
    split
    · exact .inr rfl
    · exact h
  all_goals rcases h with rfl | rfl <;> simp

/-- A program serves until it gives the permit back. -/
lemma Serving.next {φ : Phase} (h : φ.Serving) {x : Deed σ}
    (hx : ∀ y, x ≠ .acted (.post (.guard s)) y) : (φ.next s x).Serving := by
  unfold Phase.next
  split
  case h_1 =>
    split
    · exact .inl rfl
    · exact h
  case h_2 =>
    split
    · exact .inr rfl
    · exact h
  case h_3 g _ =>
    split
    · next guard =>
      obtain ⟨rfl, -⟩ := guard
      exact absurd rfl (hx _)
    · exact h
  case h_4 => exact h

/-- No atom makes a program serve. -/
lemma serving_of_next_acted {φ : Phase} {a : Atom σ} {x : a.Answer}
    (h : (φ.next s (.acted a x)).Serving) : φ.Serving := by
  cases a with
  | setCount u v =>
    simp only [next] at h
    split at h
    · next held => exact .inl held.2
    · exact h
  | post g =>
    simp only [next] at h
    split at h
    · next served => exact served.2
    · exact h
  | _ => exact h

/-- Only the answer to its wait makes a program serve. -/
lemma eq_before_of_next_received {φ : Phase} {c : Call} {x : c.Answer} (idle : ¬ φ.Serving)
    (h : (φ.next s (.received c x : Deed σ)).Serving) :
    φ = before ∧ before.Allows (.call c : Request σ) := by
  unfold next at h
  split at h
  case h_1 same =>
    split at h
    · next got =>
      cases same
      exact ⟨got.2.2, rfl⟩
    · exact absurd h idle
  case h_4 => exact absurd h idle
  all_goals next same => cases same

/-- A program that has given the permit back did so with its last deed, or before. -/
lemma eq_after_of_next {φ : Phase} {x : Deed σ} (h : φ.next s x = after) :
    φ = after ∨ ∃ y, x = .acted (.post (.guard s)) y := by
  unfold next at h
  split at h
  case h_3 g y =>
    split at h
    · next served =>
      obtain ⟨rfl, -⟩ := served
      exact .inr ⟨y, rfl⟩
    · exact .inl h
  case h_4 => exact .inl h
  all_goals
    split at h
    · cases h
    · exact .inl h

/-- Afterwards there is nothing left to do. -/
lemma not_after_allows {q : Request σ} : ¬ after.Allows q := by
  unfold Allows
  split <;> simp [Serving]

/-- A program has left the time before the permit exactly if it received the permit. -/
lemma of_eq_before_iff {d : List (Deed σ)} : of s d = before ↔ d.any (Deed.isEntry s) = false := by
  induction d using List.reverseRecOn with
  | nil => simp
  | append_singleton d x ih =>
    have step : (of s d).next s x = before ↔ of s d = before ∧ x.isEntry s = false := by
      constructor
      · intro h
        have held := eq_before_of_next h
        refine ⟨held, ?_⟩
        rw [held] at h
        by_contra entry
        unfold Deed.isEntry at entry
        split at entry
        · next g _ _ =>
          obtain rfl : g = .guard s := by simpa using entry
          simp [next] at h
        · simp at entry
      · rintro ⟨held, none⟩
        rw [held]
        unfold next
        split
        · next g p r =>
          rw [if_neg]
          rintro ⟨rfl, ok, -⟩
          cases r with
          | error e => cases ok
          | ok _ => simp at none
        · simp
        · simp [Serving]
        · rfl
    rw [of_snoc, step, ih, List.any_append, List.any_cons, List.any_nil, Bool.or_false,
      Bool.or_eq_false_iff]

lemma eq_before_of_append {d d' : List (Deed σ)} (h : of s (d ++ d') = before) :
    of s d = before := by
  induction d' using List.reverseRecOn with
  | nil => simpa using h
  | append_singleton d' x ih =>
    rw [← List.append_assoc, of_snoc] at h
    exact ih (eq_before_of_next h)

lemma of_append_of_stored {d : List (Deed σ)} (d' : List (Deed σ))
    (h : of s d = stored ∨ of s d = after) : of s (d ++ d') = stored ∨ of s (d ++ d') = after := by
  induction d' using List.reverseRecOn with
  | nil => simpa using h
  | append_singleton d' x ih =>
    rw [← List.append_assoc, of_snoc]
    exact next_of_stored x ih

end Phase

/-! ## The programs one by one -/

/-- Begun in one phase, a program asks only for what its phase allows, and is done in a phase with a
property. -/
def Program.Phased (s : SessionId) (post : Phase → Prop) (p : Action σ α) (φ : Phase) : Prop :=
  p.Obeys (Phase.next s) Phase.Allows (fun _ => post) φ

namespace Session

variable {s : SessionId} {p : Profile}

/-- A call of the lower half in a critical section does not change the phase. -/
lemma operateMasked_phased {o : Operation} {args : o.Args} {φ : Phase} (hφ : φ.Serving) :
    (operateMasked s p o args : Action σ _).Phased s (fun ψ => ψ = φ) φ :=
  ⟨hφ, fun _ => ⟨hφ, fun _ => ⟨hφ, fun _ => rfl⟩⟩⟩

/-- The work of an open ends where the permit may be given back. -/
lemma openHolding_phased : (openHolding s p : Action σ _).Phased s Phase.Serving .holding := by
  have holding : Phase.Serving .holding := .inl rfl
  have stores (v : UInt8) : ((Atom.setCount s v).act >>= fun _ => pure (.ok ()) :
      Action σ (Except DeviceError Unit)).Phased s Phase.Serving .holding := by
    refine ⟨rfl, fun _ => ?_⟩
    simp [Program.Obeys, Request.deed, Phase.next, Phase.Serving]
  refine ⟨rfl, fun n => ?_⟩
  simp only [Program.bind_done]
  split
  · exact ⟨holding, fun _ => holding⟩
  · split
    · refine (operateMasked_phased holding).bind fun r φ hφ => ?_
      subst hφ
      cases r with
      | error e => exact ⟨holding, fun _ => holding⟩
      | ok _ => exact stores _
    · exact stores _

/-- Putting the hardware to rest stores the open count first. -/
lemma shutDown_phased : (shutDown s p : Action σ _).Phased s Phase.Serving .holding := by
  have stored : Phase.Serving .stored := .inr rfl
  refine ⟨rfl, fun _ => ?_⟩
  have next : Phase.next s .holding ((Request.atom (.setCount s 0)).deed () : Deed σ) =
      .stored := by
    simp [Request.deed, Phase.next]
  rw [next]
  refine (operateMasked_phased stored).bind fun r φ hφ => ?_
  subst hφ
  cases r with
  | error e => exact ⟨stored, fun _ => stored⟩
  | ok _ => exact stored

/-- The work of a close ends where the permit may be given back. -/
lemma closeHolding_phased : (closeHolding s p : Action σ _).Phased s Phase.Serving .holding := by
  refine ⟨rfl, fun n => ?_⟩
  simp only [Program.bind_done]
  split
  · refine ⟨rfl, fun m => ⟨rfl, fun _ => ?_⟩⟩
    simp [Program.Obeys, Request.deed, Phase.next, Phase.Serving]
  · split
    · exact ⟨.inl rfl, fun _ => shutDown_phased⟩
    · exact shutDown_phased

/-- An open or a close ends without having received the permit, or after having given it back. -/
lemma withPermit_phased {body : Profile → Action σ (Except DeviceError Unit)}
    (hb : ∀ p, (body p).Phased s Phase.Serving .holding) :
    ((Atom.profile s).act >>= fun p =>
      Semaphore.withPermit (.guard s) p.platform (body p)).Phased s (fun φ => ¬ φ.Serving)
        .before := by
  refine ⟨rfl, fun p => ⟨rfl, fun r => ?_⟩⟩
  cases r with
  | error e => simp [Program.Obeys, Request.deed, Phase.next, Phase.Serving]
  | ok _ =>
    have received : Phase.next s .before
        (.received (.routine (.wait (.guard s) p.platform)) (.ok ()) : Deed σ) = .holding := by
      simp [Phase.next]
    simp only [Request.deed]
    rw [show Phase.next s .before (.acted (.profile s) p : Deed σ) = .before from rfl, received]
    refine (hb p).bind fun r φ hφ => ⟨hφ, fun _ => ?_⟩
    have left : Phase.next s φ (.acted (.post (.guard s)) () : Deed σ) = .after := by
      simp [Phase.next, hφ]
    simp [Program.Obeys, Request.deed, left, Phase.Serving]

end Session

section Programs

variable {B : Board σ} {c : Call} {s : SessionId} {d : List (Deed σ)} {q : Request σ}

/-- An open or a close keeps to its phases. -/
theorem Board.program_phased (B : Board σ) (hc : c.session? = some s) :
    (B.program c).Phased s (fun φ => ¬ φ.Serving) .before := by
  rcases Call.counts_iff.mpr hc with rfl | rfl
  · exact Session.withPermit_phased fun p => Session.openHolding_phased
  · exact Session.withPermit_phased fun p => Session.closeHolding_phased

/-- An open or a close in progress may ask for what it asks for, in its phase. -/
theorem Board.Continues.phase_allows (h : B.Continues (some c) d q) (hc : c.session? = some s) :
    (Phase.of s d).Allows q := by
  obtain ⟨next, follows⟩ := h
  exact ((B.program_phased hc).of_follows follows).1

/-- A program that asks for something has not given the permit back. -/
lemma Board.Continues.phase_ne_after (h : B.Continues (some c) d q) (hc : c.session? = some s) :
    Phase.of s d ≠ .after := by
  intro after
  have allowed := h.phase_allows hc
  rw [after] at allowed
  exact Phase.not_after_allows allowed

/-- Once it has given the permit back, an open or a close is done. -/
lemma Board.exists_result (hc : c.session? = some s) {p : Action σ c.Answer}
    (h : Follows (B.program c) d p) (after : Phase.of s d = .after) : ∃ r, p = .done r := by
  cases p with
  | done r => exact ⟨r, rfl⟩
  | ask q next => exact absurd after (Board.Continues.phase_ne_after ⟨next, h⟩ hc)

/-- An open or a close that ended does not serve. -/
lemma Board.not_serving_of_complete (hc : c.session? = some s) {x : c.Answer}
    (h : Follows (B.program c) d (.done x)) : ¬ (Phase.of s d).Serving :=
  (B.program_phased hc).of_follows h

/-- An open or a close that ended and had received the permit has given it back. -/
lemma Board.after_of_complete (hc : c.session? = some s) {x : c.Answer}
    (h : Follows (B.program c) d (.done x)) (entered : d.any (Deed.isEntry s) = true) :
    Phase.of s d = .after := by
  have idle := B.not_serving_of_complete hc h
  have left : Phase.of s d ≠ .before := fun before => by
    rw [Phase.of_eq_before_iff, entered] at before
    cases before
  cases phase : Phase.of s d with
  | before => exact absurd phase left
  | holding => exact absurd (.inl phase) idle
  | stored => exact absurd (.inr phase) idle
  | after => rfl

/-- Before it receives the permit, an open or a close has neither looked at the open count nor
called anything but its wait. -/
lemma Board.allows_of_before (hc : c.session? = some s) {p : Action σ c.Answer}
    (h : Follows (B.program c) d p) (before : Phase.of s d = .before) :
    ∀ x ∈ d, Phase.before.Allows x.request := by
  intro x hx
  obtain ⟨d₁, d₂, rfl⟩ := List.append_of_mem hx
  have allowed := (B.program_phased hc).allows_of_follows h
  rwa [show d₁.foldl (Phase.next s) .before = .before from Phase.eq_before_of_append before]
    at allowed

/-- As long as it has not stored the open count, an open or a close has no store among its deeds. -/
lemma Board.not_isStore_of_holding (hc : c.session? = some s) {p : Action σ c.Answer}
    (h : Follows (B.program c) d p) (holding : Phase.of s d = .holding) :
    ∀ x ∈ d, x.isStore s = false := by
  intro x hx
  by_contra store
  obtain ⟨d₁, d₂, rfl⟩ := List.append_of_mem hx
  have allowed := (B.program_phased hc).allows_of_follows h
  obtain ⟨v, y, rfl⟩ : ∃ v y, x = .acted (.setCount s v) y := by
    unfold Deed.isStore at store
    split at store
    · next u v y =>
      obtain rfl : u = s := by simpa using store
      exact ⟨v, y, rfl⟩
    · simp at store
  have now : Phase.of s (d₁ ++ [.acted (.setCount s v) y]) = .stored := by
    have held : Phase.of s d₁ = .holding := allowed
    simp [held, Phase.next]
  have later := Phase.of_append_of_stored (s := s) d₂ (.inl now)
  rw [List.append_assoc, List.singleton_append, holding] at later
  rcases later with later | later <;> cases later

end Programs

/-! ## Programs that serve -/

/-- The program opens or closes a session, has received the permit and has not given it back. -/
def Frame.Serves (s : SessionId) (f : Frame σ) : Prop :=
  f.owner.bind Call.session? = some s ∧ (Phase.of s f.past).Serving

instance (s : SessionId) (f : Frame σ) : Decidable (f.Serves s) :=
  inferInstanceAs (Decidable (_ ∧ _))

/-- The driver makes the hardware of a session work: it sets it up or puts it to rest. -/
def Call.isWork (s : SessionId) (c : Call) : Bool := c.isSetup s || c.isShutdown s

lemma Call.isWork_iff {s : SessionId} {c : Call} : c.isWork s = true ↔
    ∃ h, c = .peer (.operate .driver h s .setup ()) ∨
      c = .peer (.operate .driver h s .shutdown ()) := by
  rw [isWork, Bool.or_eq_true, isSetup_iff, isShutdown_iff, exists_or]

/-- A request that is reserved for programs that serve: to store the open count, to give the permit
back, and to make the hardware work. -/
def Request.Reserved (s : SessionId) : Request σ → Prop
  | .atom (.setCount u _) => u = s
  | .atom (.post g) => g = .guard s
  | .call c => c.isWork s = true
  | _ => False

/-- Only an open or a close of the session asks for what is reserved. -/
lemma Call.Asks.session_of_reserved {c : Call} {s : SessionId} {q : Request σ} (h : c.Asks q)
    (hq : q.Reserved s) : c.session? = some s := by
  cases h
  case command_operate u c h => cases c <;> cases hq
  case peer_use c d => cases hq
  all_goals simp_all [Request.Reserved, isWork, isSetup, isShutdown, session?]

/-- A program that asks for what is reserved serves. -/
theorem Board.Continues.serves {B : Board σ} {s : SessionId} {f : Frame σ} {q : Request σ}
    (h : B.Continues f.owner f.past q) (hq : q.Reserved s) : f.Serves s := by
  obtain ⟨o, w, d, p⟩ := f
  cases o with
  | none => cases h <;> cases hq
  | some c =>
    have hc : c.session? = some s := h.allows.session_of_reserved hq
    have allowed := h.phase_allows hc
    refine ⟨hc, ?_⟩
    cases q with
    | atom a =>
      cases a <;> try exact hq.elim
      · exact allowed
      · exact .inl allowed
    | call c =>
      obtain ⟨k, rfl | rfl⟩ := Call.isWork_iff.mp hq
      · exact allowed
      · exact allowed

/-- A program that serves has the permit. -/
lemma Phase.Serving.stage_ne_away {s : SessionId} {d : List (Deed σ)}
    (h : (Phase.of s d).Serving) : (Standing.of s d).stage ≠ .away := by
  induction d using List.reverseRecOn with
  | nil => rcases h with h | h <;> cases h
  | append_singleton d x ih =>
    rw [Phase.of_snoc] at h
    rw [Standing.of_snoc]
    by_cases served : (Phase.of s d).Serving
    · refine Standing.next_stage_ne_away (ih served) fun y hy => ?_
      subst hy
      simp only [Phase.next, served, and_self, if_true] at h
      rcases h with h | h <;> cases h
    · -- Only the answer to its wait takes the program to its permit.
      unfold Phase.next at h
      split at h
      · next g p r =>
        split at h
        · next got =>
          obtain ⟨rfl, ok, -⟩ := got
          simp only [Standing.next, Standing.receive, ok, and_self, if_true, Standing.enter]
          split <;> simp_all
        · exact absurd h served
      · split at h
        · next store => exact absurd (.inl store.2) served
        · exact absurd h served
      · split at h
        · rcases h with h | h <;> cases h
        · exact absurd h served
      · exact absurd h served

lemma Frame.Serves.holds {s : SessionId} {f : Frame σ} (h : f.Serves s) : (f.view s).Holds :=
  h.2.stage_ne_away

namespace Pool

variable {B : Board σ} {P Q : Pool n σ α} {l : List (Fin n × Label σ)} {own : σ}
  {clients : Fin n → Reaction σ α} {s : SessionId}

/-- At most one program has the permit of a guard. -/
theorem Runs.countP_holds_le (run : Runs B (start own clients) l P) (s : SessionId) :
    P.frames.countP (fun f => (f.view s).Holds) ≤ 1 := by
  have permit := (run.sound s).permit
  have views : (P.ledger s l).views = P.frames.map (Frame.view s) := rfl
  rw [views, Multiset.countP_map, ← Multiset.countP_eq_card_filter] at permit
  omega

/-- Where a program has the permit, no other program has it. -/
lemma Runs.not_holds (run : Runs B (start own clients) l P) {f : Frame σ}
    {rest : Multiset (Frame σ)} (frames : P.frames = f ::ₘ rest) (hf : (f.view s).Holds) :
    ∀ g ∈ rest, ¬ (g.view s).Holds := by
  have one := run.countP_holds_le s
  rw [frames, Multiset.countP_cons, if_pos hf] at one
  exact Multiset.countP_eq_zero.mp (by omega)

/-- Where a program has the permit, no other program serves. -/
lemma Runs.not_serves (run : Runs B (start own clients) l P) {f : Frame σ}
    {rest : Multiset (Frame σ)} (frames : P.frames = f ::ₘ rest) (hf : (f.view s).Holds) :
    ∀ g ∈ rest, ¬ g.Serves s := fun g hg serves => run.not_holds frames hf g hg serves.holds

end Pool

end LedDriver
