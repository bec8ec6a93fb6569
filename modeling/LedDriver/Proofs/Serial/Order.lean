import LedDriver.Proofs.Serial.Hardware

/-!
# The order of the permits

The opens and closes of a session that get the permit get it one after the other, and each has given
it back before the next one gets it (`Runs.taken`).
-/

namespace LedDriver

variable {σ τ α : Type} {n : Nat}

/-! ## Taking and giving back -/

/-- A permit of the guard of a session is taken. -/
def Label.isTaking (s : SessionId) : Label σ → Bool
  | .acted (.exchange g _) r => g == .guard s && r.isOk
  | _ => false

/-- A permit of the guard of a session is given back. -/
def Label.isPosting (s : SessionId) : Label σ → Bool
  | .acted (.post g) _ => g == .guard s
  | _ => false

lemma Label.isPosting_iff {s : SessionId} {e : Label σ} :
    e.isPosting s = true ↔ ∃ x, e = .acted (.post (.guard s)) x := by
  constructor
  · intro h
    unfold isPosting at h
    split at h
    · obtain rfl := eq_of_beq h
      exact ⟨_, rfl⟩
    · cases h
  · rintro ⟨x, rfl⟩
    simp [isPosting]

namespace Standing

variable {s : SessionId}

/-- Only what takes a program that has done nothing to the permit takes any program to the
permit. -/
lemma next_stage_away {t : Standing} {x : Deed σ} (ht : t.stage = .away)
    (hx : (initial.next s x).stage = .away) : (t.next s x).stage = .away := by
  unfold next at hx ⊢
  split <;> try exact ht
  case h_6 =>
    unfold receive at hx ⊢
    split <;> try exact ht
    all_goals
      split <;> simp_all [initial, enter, setUp, rest]
  case h_2 => split <;> simp_all [initial, enter]
  case h_3 => split <;> simp_all [leave]
  case h_1 | h_4 | h_5 => split <;> simp_all [look, store]

/-- A program has the permit after an atom that neither takes nor gives back a permit exactly if it
had the permit before. -/
lemma next_acted_stage {t : Standing} {a : Atom σ} {x : a.Answer}
    (taking : (Label.acted a x).isTaking s = false)
    (posting : (Label.acted a x).isPosting s = false) :
    (t.next s (.acted a x)).stage = .away ↔ t.stage = .away := by
  constructor
  · intro h
    by_contra holds
    refine next_stage_ne_away holds (fun y hy => ?_) h
    cases hy
    simp [Label.isPosting] at posting
  · intro h
    refine next_stage_away h ?_
    cases a with
    | exchange g seen =>
      have none : ¬ (g = .guard s ∧ x.isOk = true) := by simpa [Label.isTaking] using taking
      simp only [next]
      rw [if_neg none]
      rfl
    | profile u | post u | count u | setCount u v =>
      simp only [next]
      split <;> rfl
    | _ => rfl

end Standing

section Turns

variable {B : Board σ} {s : SessionId} {w w' : World σ} {e : Label σ} {old new : List (Frame σ)}

/-- Only taking and giving back change whether one of the programs of a turn has the permit. -/
lemma Board.Turn.holds_iff (turn : B.Turn w e w' old new)
    (sane : ∀ f ∈ old, (Standing.of s f.past).stage ≠ .astray) (taking : e.isTaking s = false)
    (posting : e.isPosting s = false) :
    (∃ f ∈ new, (Frame.view s f).Holds) ↔ ∃ f ∈ old, (Frame.view s f).Holds := by
  cases turn with
  | @act o w₀ _ d a x ask ha =>
    simp only [List.mem_singleton, exists_eq_left]
    have same := Standing.next_acted_stage (t := Standing.of s d) taking posting
    simp [View.Holds, Frame.view, Standing.view, same]
  | call ask => simp [View.Holds, Frame.view, Standing.view, Standing.initial]
  | @«return» o w₀ w₁ d deeds c x ask complete =>
    simp only [List.mem_cons, List.not_mem_nil, or_false, exists_eq_or_imp, exists_eq_left,
      View.Holds, Frame.view, Standing.view, Standing.of_snoc]
    have passes := (B.passes_of_complete complete (sane _ (List.mem_cons_self ..))).1
    have allowed := ask.allowed (sane _ (.tail _ (List.mem_singleton_self _)))
    rcases Ledger.Sound.receive_cases (σ := σ) s c x with ⟨⟨r, rfl⟩, enters, away⟩ | ⟨plain, -⟩
    · have took : (Standing.of s deeds).stage = .entered := by
        rw [passes, enters]
        rfl
      have received : ((Standing.of s d).next s (.received (.routine r) x : Deed σ)).stage =
          .entered := by
        have free := away _ allowed
        simp [Standing.next, enters, Standing.enter, free]
      simp [took, received]
    · rw [passes]
      simp only [plain, ne_eq, not_true_eq_false, false_or]
      constructor
      · intro h free
        exact h (Standing.next_stage_away free plain)
      · intro h
        exact Standing.next_stage_ne_away h fun y => by rintro ⟨⟩

end Turns

namespace Pool

variable {B : Board σ} {P Q : Pool n σ α} {l : List (Fin n × Label σ)} {own : σ}
  {clients : Fin n → Reaction σ α} {s : SessionId}

/-- The parties that make the steps of a certain kind, in the order of these steps. -/
def who (p : Label σ → Bool) (l : List (Fin n × Label σ)) : List (Fin n) :=
  (l.filter fun e => p e.2).map Prod.fst

lemma who_snoc (p : Label σ → Bool) (l : List (Fin n × Label σ)) (i : Fin n) (e : Label σ) :
    who p (l ++ [(i, e)]) = who p l ++ if p e then [i] else [] := by
  unfold who
  rw [List.filter_append]
  cases h : p e <;> simp [h]

/-- One of the programs of a party has the permit of the guard of a session. -/
def Holder (P : Pool n σ α) (s : SessionId) (i : Fin n) : Prop :=
  ∃ f ∈ (P.parties i).frames, (f.view s).Holds

/-- Where there is a permit, nobody has it. -/
lemma Runs.not_holder (run : Runs B (start own clients) l P)
    (free : (P.world.semaphore (.guard s)).permits ≠ 0) (i : Fin n) : ¬ P.Holder s i := by
  rintro ⟨f, hf, holds⟩
  exact free (run.permits_eq_zero hf holds)

/-- A step that takes a permit takes it for a program that had none, while nobody had one. -/
lemma Runs.of_taking (run : Runs B (start own clients) l P) {i : Fin n} {e : Label σ}
    (step : Step B P (i, e) Q) (taking : e.isTaking s = true) :
    (∀ j, ¬ P.Holder s j) ∧ Q.Holder s i ∧ e.isPosting s = false := by
  obtain ⟨seen, rfl⟩ : ∃ seen, e = .acted (.exchange (.guard s) seen) (.ok ()) := by
    unfold Label.isTaking at taking
    split at taking
    · next g seen r =>
      obtain ⟨guard, ok⟩ := (Bool.and_eq_true _ _).mp taking
      obtain rfl := eq_of_beq guard
      cases r with
      | error v => cases ok
      | ok _ => exact ⟨seen, rfl⟩
    · cases taking
  obtain ⟨f, hf, -, allowed⟩ := run.exists_allowed step s
  obtain ⟨-, nonzero⟩ : (Standing.of s f.past).stage = .away ∧ seen ≠ 0 := allowed rfl
  have free : ∀ j, ¬ P.Holder s j := by
    rcases step.performs.of_exchange with ⟨-, present, -⟩ | ⟨⟨v, failed⟩, -⟩
    · exact run.not_holder (by rw [present]; exact nonzero)
    · cases failed
  refine ⟨free, ?_, rfl⟩
  obtain ⟨old, new, below, hold, hnew, others, turn⟩ := run.turn step
  generalize hw : Q.world = w at turn
  cases turn with
  | @act o w₀ _ d _ _ ask ha =>
    refine ⟨⟨o, w₀, d ++ [.acted (.exchange (.guard s) seen) (.ok ())], none⟩, ?_, ?_⟩
    · rw [hnew]
      exact List.mem_cons_self ..
    · have away : (Standing.of s d).stage = .away := by
        by_contra holds
        exact free i ⟨⟨o, w₀, d, none⟩, by rw [hold]; exact List.mem_cons_self .., holds⟩
      simp [View.Holds, Frame.view, Standing.view, Standing.next, Standing.enter, away]

/-- A step that gives a permit back gives it back for a program that had it, and then nobody has
one. -/
lemma Runs.of_posting (run : Runs B (start own clients) l P) {i : Fin n} {e : Label σ}
    (step : Step B P (i, e) Q) (posting : e.isPosting s = true) :
    P.Holder s i ∧ (∀ j, ¬ Q.Holder s j) ∧ e.isTaking s = false := by
  obtain ⟨x, rfl⟩ := Label.isPosting_iff.mp posting
  obtain ⟨f, hf, -, allowed⟩ := run.exists_allowed step s
  have holds : (Standing.of s f.past).stage ≠ .away := by
    have done : (Standing.of s f.past).stage = .settled ∨
        ∃ n, (Standing.of s f.past).stage = .found n :=
      allowed rfl
    rcases done with done | ⟨n, done⟩ <;> simp [done]
  refine ⟨⟨f, hf, holds⟩, ?_, rfl⟩
  refine (run.tail step).not_holder ?_
  rw [(step.performs.of_post).1, run.permits_eq_zero hf holds]
  decide

/-- The permit of a guard is taken and given back in turn, by the same party. -/
theorem Runs.taken (run : Runs B (start own clients) l P) (s : SessionId) :
    (∀ i, P.Holder s i → who (Label.isTaking s) l = who (Label.isPosting s) l ++ [i]) ∧
      ((∀ i, ¬ P.Holder s i) → who (Label.isTaking s) l = who (Label.isPosting s) l) := by
  induction run with
  | refl =>
    refine ⟨fun i holder => ?_, fun _ => rfl⟩
    obtain ⟨f, hf, holds⟩ := holder
    obtain rfl := List.mem_singleton.mp hf
    exact absurd rfl holds
  | @tail Q R l e run step ih =>
    obtain ⟨i, e⟩ := e
    obtain ⟨old, new, below, hold, hnew, others, turn⟩ := run.turn step
    have elsewhere : ∀ j ≠ i, R.Holder s j ↔ Q.Holder s j := fun j hj => by
      rw [Holder, Holder, others j hj]
    rw [who_snoc, who_snoc]
    by_cases taking : e.isTaking s = true
    · obtain ⟨free, taken, posting⟩ := run.of_taking step taking
      rw [if_pos taking, posting, ih.2 free]
      refine ⟨fun j holder => ?_, fun none => absurd taken (none i)⟩
      obtain rfl : j = i := by
        by_contra hj
        exact free j ((elsewhere j hj).mp holder)
      simp
    by_cases posting : e.isPosting s = true
    · obtain ⟨held, free, -⟩ := run.of_posting step posting
      rw [if_neg taking, if_pos posting, ih.1 i held]
      exact ⟨fun j holder => absurd holder (free j), fun _ => List.append_nil _⟩
    · have same : ∀ j, R.Holder s j ↔ Q.Holder s j := by
        intro j
        by_cases hj : j = i
        · subst hj
          have turned := turn.holds_iff (fun f hf =>
            run.stage_ne_astray (by rw [hold]; exact List.mem_append_left _ hf) s)
            (by simpa using taking) (by simpa using posting)
          simp only [Holder, hold, hnew, List.mem_append, or_and_right, exists_or, turned]
        · exact elsewhere j hj
      simpa only [if_neg taking, if_neg posting, List.append_nil, same] using ih

end Pool

end LedDriver
