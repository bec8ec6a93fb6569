import LedDriver.Proofs.System.Memory
import LedDriver.Proofs.System.Moments

/-!
# Attempts to take a permit

What a party finds in the counter of a semaphore when it tries to take a permit, under all
schedules.  The counter that an attempt works with may be out of date, and an exchange may fail for
no reason; but an attempt that succeeds has made exactly one exchange that took effect, and an
attempt that fails has seen the counter at zero in one of its steps (`Board.Enacts.of_tryWait`).
What a step sees in the counter is there when the step is made (`Atom.Performs.found`), so that the
counter was zero at some time during an attempt that failed (`Pool.Runs.exhausted_of_failed`).
-/

namespace LedDriver

variable {σ α : Type} {n : Nat}

/-! ## What steps do with a counter -/

/-- What a step finds in the counter of a semaphore, if it looks there. -/
def Label.found? (g : SemaphoreId) : Label σ → Option UInt32
  | .acted (.permits g') v => if g' = g then some v else none
  | .acted (.exchange g' seen) (.ok ()) => if g' = g then some seen else none
  | .acted (.exchange g' _) (.error v) => if g' = g then some v else none
  | _ => none

/-- A step takes a permit of a semaphore. -/
def Label.takes (g : SemaphoreId) : Label σ → Bool
  | .acted (.exchange g' _) (.ok ()) => g' = g
  | _ => false

@[simp] lemma Label.found?_permits (g : SemaphoreId) (v : UInt32) :
    (Label.acted (.permits g) v : Label σ).found? g = some v := if_pos rfl

@[simp] lemma Label.found?_exchange (g : SemaphoreId) (seen v : UInt32) :
    (Label.acted (.exchange g seen) (.error v) : Label σ).found? g = some v := if_pos rfl

/-- What a step finds in the counter is there when the step is made. -/
lemma Atom.Performs.found {g : SemaphoreId} {a : Atom σ} {x : a.Answer} {w w' : World σ}
    {v : UInt32} (h : a.Performs w x w') (found : (Label.acted a x).found? g = some v) :
    (w.semaphore g).permits = v := by
  cases a with
  | permits g' =>
    simp only [Label.found?, Option.ite_none_right_eq_some, Option.some.injEq] at found
    obtain ⟨rfl, rfl⟩ := found
    cases h with
    | effect h =>
      obtain ⟨-, h⟩ := apply_eq_ok_iff.mp h
      cases h
      rfl
  | exchange g' seen =>
    cases x with
    | ok y =>
      simp only [Label.found?, Option.ite_none_right_eq_some, Option.some.injEq] at found
      obtain ⟨rfl, rfl⟩ := found
      rcases h.of_exchange with ⟨-, seen, -⟩ | ⟨⟨v, e⟩, -⟩
      · exact seen
      · cases e
    | error u =>
      simp only [Label.found?, Option.ite_none_right_eq_some, Option.some.injEq] at found
      obtain ⟨rfl, rfl⟩ := found
      cases h with
      | spurious => rfl
      | effect h =>
        obtain ⟨-, h⟩ := apply_eq_ok_iff.mp h
        simp only [Atom.effect] at h
        split at h <;> cases h
        rfl
  | acquire | release | control | table | post | count | setCount | profile | create | own =>
    cases found

/-! ## Attempts -/

/-- An inner procedure of the driver. -/
def Call.isRoutine : Call → Bool
  | .routine _ => true
  | .service _ | .peer _ => false

/-- The steps of an attempt to take a permit, above the calls in progress: they are made by inner
procedures alone, take one permit if the attempt succeeds and none if it fails, and see the counter
at zero if it fails and did not know it from the beginning. -/
structure Attempted (g : SemaphoreId) (S : List (Nat × Call)) (T : List (Moment σ)) (known : Prop)
    (x : Bool) : Prop where
  alone : ∀ m ∈ T, ∃ R, m.calls = R ++ S ∧ ∀ y ∈ R, y.2.isRoutine = true
  taken : T.countP (fun m => m.label.takes g) = x.toNat
  zero : x = false → known ∨ ∃ m ∈ T, m.label.found? g = some 0

/-- An attempt that has looked at the counter and goes on with what it saw. -/
lemma Attempted.after_look {g : SemaphoreId} {S : List (Nat × Call)} {T : List (Moment σ)}
    {a : Atom σ} {y : a.Answer} {v : UInt32} {k : Nat} {x : Bool} {known : Prop}
    (look : (Label.acted a y).found? g = some v) (keeps : (Label.acted a y).takes g = false)
    (again : Attempted g ((k, .routine (.claim g v)) :: S) T (v = 0) x) (t t' : Nat) (w : World σ)
    (d : List (Deed σ)) :
    Attempted g S (⟨t, S, .acted a y⟩ :: ⟨k, S, .called (.routine (.claim g v))⟩ ::
      (T ++ [⟨t', (k, .routine (.claim g v)) :: S, .returned (.routine (.claim g v)) w x d⟩]))
      known x := by
  refine ⟨fun m hm => ?_, ?_, fun failed => .inr ?_⟩
  · simp only [List.mem_cons, List.mem_append, List.not_mem_nil, or_false] at hm
    rcases hm with rfl | rfl | hm | rfl
    · exact ⟨[], rfl, List.forall_mem_nil _⟩
    · exact ⟨[], rfl, List.forall_mem_nil _⟩
    · obtain ⟨R, calls, routines⟩ := again.alone m hm
      refine ⟨R ++ [(k, .routine (.claim g v))], by simp [calls], fun y hy => ?_⟩
      rcases List.mem_append.mp hy with hy | hy
      · exact routines y hy
      · obtain rfl := List.mem_singleton.mp hy
        rfl
    · exact ⟨[(k, .routine (.claim g v))], rfl, by simp [Call.isRoutine]⟩
  · have called : (Label.called (.routine (.claim g v)) : Label σ).takes g = false := rfl
    have returned : (Label.returned (.routine (.claim g v)) w x d).takes g = false := rfl
    simp [keeps, called, returned, again.taken]
  · rcases again.zero failed with rfl | ⟨m, hm, found⟩
    · exact ⟨_, .head _, look⟩
    · exact ⟨m, by simp [hm], found⟩

namespace Board.Enacts

variable {B : Board σ} {S : List (Nat × Call)} {T : List (Moment σ)} {g : SemaphoreId} {x : Bool}

/-- An attempt that knows the counter as it was seen last. -/
lemma of_claim {seen : UInt32} (h : B.Enacts S (Semaphore.claim g seen) T (.done x)) :
    Attempted g S T (seen = 0) x := by
  -- Each exchange that fails is followed by a claim with fewer steps.
  induction hn : T.length using Nat.strong_induction_on generalizing S T seen with
  | h n ih =>
    unfold Semaphore.claim at h
    split at h
    · next zero =>
      obtain ⟨rfl, e⟩ := enacts_done_iff.mp h
      cases e
      exact ⟨fun m hm => absurd hm List.not_mem_nil, rfl, fun _ => .inl zero⟩
    · obtain ⟨t, y, T', rfl, rest⟩ := h.of_atom
      cases y with
      | ok y =>
        obtain ⟨rfl, e⟩ := enacts_done_iff.mp rest
        cases e
        refine ⟨fun m hm => ?_, ?_, nofun⟩
        · obtain rfl := List.mem_singleton.mp hm
          exact ⟨[], rfl, List.forall_mem_nil _⟩
        · simp [Label.takes]
      | error v =>
        obtain ⟨k, t', w, x', d, T₁, T₂, rfl, inner, rest⟩ := rest.of_call
        obtain ⟨rfl, e⟩ := enacts_done_iff.mp rest
        cases e
        have again := ih T₁.length (by simp at hn; omega) inner rfl
        exact again.after_look (Label.found?_exchange g seen v) rfl t t' w d

/-- An attempt to take a permit. -/
theorem of_tryWait (h : B.Enacts S (Semaphore.tryWait g) T (.done x)) :
    Attempted g S T False x := by
  obtain ⟨t, seen, T', rfl, rest⟩ := h.of_atom
  obtain ⟨k, t', w, x', d, T₁, T₂, rfl, inner, rest⟩ := rest.of_call
  obtain ⟨rfl, e⟩ := enacts_done_iff.mp rest
  cases e
  exact (of_claim inner).after_look (Label.found?_permits g seen) rfl t t' w d

end Board.Enacts

namespace Pool

variable {B : Board σ} {P Q : Pool n σ α} {l : List (Fin n × Label σ)} {base : World σ}
  {clients : Fin n → Reaction σ α} {i : Fin n} {g : SemaphoreId}

/-- In a state of the run after a step and not after another one, the semaphore has no permit. -/
def Exhausted (B : Board σ) (base : World σ) (clients : Fin n → Reaction σ α)
    (l : List (Fin n × Label σ)) (g : SemaphoreId) (k t : Nat) : Prop :=
  ∃ l₁ l₂ Q, l = l₁ ++ l₂ ∧ k < l₁.length ∧ l₁.length ≤ t ∧ Runs B (startIn base clients) l₁ Q ∧
    (Q.world.semaphore g).permits = 0

/-- An exchange that takes a permit expects at least one. -/
lemma Runs.seen_ne_zero (run : Runs B (startIn base clients) l P) {j : Fin n}
    {seen : UInt32} {x : Except UInt32 Unit} (step : Step B P (j, .acted (.exchange g seen) x) Q) :
    seen ≠ 0 := by
  obtain ⟨f, -, ask⟩ := run.exists_asking step
  have allowed := ask.allows
  generalize f.owner = o at allowed
  cases o with
  | none => cases allowed
  | some c =>
    cases allowed with
    | claim_exchange _ _ h => exact h

/-- A party that takes a permit finds one. -/
lemma Runs.found_of_takes (run : Runs B (startIn base clients) l P) {m : Moment σ}
    (hm : m ∈ moments i l) (takes : m.label.takes g = true) :
    ∃ v, v ≠ 0 ∧ m.label.found? g = some v := by
  obtain ⟨l₁, l₂, e, rfl, rfl⟩ := mem_moments_iff.mp hm
  obtain ⟨Q, R, before, step, -⟩ := run.of_append_cons
  change e.takes g = true at takes
  unfold Label.takes at takes
  split at takes
  · next g' seen =>
    exact ⟨seen, before.seen_ne_zero step, if_pos (of_decide_eq_true takes)⟩
  · cases takes

/-- What a party finds in a counter is there at that time. -/
lemma Runs.exhausted_of_found (run : Runs B (startIn base clients) l P) {m : Moment σ}
    (hm : m ∈ moments i l) (found : m.label.found? g = some 0) {k t : Nat} (late : k < m.time)
    (early : m.time < t) : Exhausted B base clients l g k t := by
  obtain ⟨l₁, l₂, e, rfl, rfl⟩ := mem_moments_iff.mp hm
  obtain ⟨Q, R, before, step, -⟩ := run.of_append_cons
  refine ⟨l₁, _, Q, rfl, late, Nat.le_of_lt early, before, ?_⟩
  cases e with
  | acted a x => exact step.performs.found found
  | called c | returned c w x d => cases found

/-- An attempt fails only if the semaphore had no permit at some time during the attempt. -/
theorem Runs.exhausted_of_failed (run : Runs B (startIn base clients) l P) {k t : Nat}
    {S : List (Nat × Call)} {w : World σ} {d : List (Deed σ)}
    (failed : ⟨t, (k, .routine (.tryWait g)) :: S, .returned (.routine (.tryWait g)) w false d⟩ ∈
      moments i l) : Exhausted B base clients l g k t := by
  obtain ⟨T, q, enacts, makes, mem⟩ := run.segment failed rfl
  rw [makes.of_returned] at enacts
  obtain ⟨⟨⟩⟩ | ⟨m, hm, found⟩ := enacts.of_tryWait.zero rfl
  obtain ⟨hm, late, early⟩ := (mem m).mp hm
  exact run.exhausted_of_found hm found late early

/-- A party is refused a permit only if the lone semaphore had none at some time during its call. -/
theorem Runs.exhausted_of_refused (run : Runs B (startIn base clients) l P) {k t j : Nat}
    {S : List (Nat × Call)} {w : World σ} {d : List (Deed σ)}
    (refused : ⟨t, (k, .service (.tryWait j)) :: S, .returned (.service (.tryWait j)) w false d⟩ ∈
      moments i l) : Exhausted B base clients l (.alone j) k t := by
  obtain ⟨T, q, enacts, makes, mem⟩ := run.segment refused rfl
  rw [makes.of_returned] at enacts
  obtain ⟨k', t', w', x, d', T₁, T₂, rfl, inner, rest⟩ := Board.Enacts.of_call enacts
  obtain ⟨rfl, e⟩ := Board.enacts_done_iff.mp rest
  cases e
  obtain ⟨⟨⟩⟩ | ⟨m, hm, found⟩ := inner.of_tryWait.zero rfl
  obtain ⟨hm, late, early⟩ := (mem m).mp (by simp [hm])
  exact run.exhausted_of_found hm found late early

end Pool

end LedDriver
