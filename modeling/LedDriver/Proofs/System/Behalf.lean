import LedDriver.Proofs.System.Moments

/-!
# What is done on behalf of a call

The steps of a party that are made on behalf of one call, at any level below it.  If the call has
ended, they carry out its program to the end (`Runs.behalf_of_returned`); if it is in progress, they
bring its program to where it is, which may be inside of a call that it made
(`Runs.behalf_of_calls`).
-/

namespace LedDriver

variable {σ α : Type} {n : Nat}

/-! ## Programs that are inside of a call -/

/-- With some calls in progress, the program of a call has come in these steps to where it is:
either it has something left, or it is inside of a call that it made.  The innermost call in
progress, with the calls below it, has something left. -/
inductive Board.Inside (B : Board σ) : List (Nat × Call) → Call → List (Moment σ) →
    List (Nat × Call) → (c : Call) → Action σ c.Answer → Prop
  | here {S : List (Nat × Call)} {c : Call} {T : List (Moment σ)} {q : Action σ c.Answer}
      (h : B.Enacts S (B.program c) T q) : B.Inside S c T S c q
  | inside {S S' : List (Nat × Call)} {c c' c'' : Call} {T T' : List (Moment σ)} {k : Nat}
      {next : c'.Answer → Action σ c.Answer} {q : Action σ c''.Answer}
      (h : B.Enacts S (B.program c) T (.ask (.call c') next))
      (inner : B.Inside ((k, c') :: S) c' T' S' c'' q) :
      B.Inside S c (T ++ ⟨k, S, .called c'⟩ :: T') S' c'' q

namespace Board

variable {B : Board σ} {S : List (Nat × Call)} {p q : Action σ α} {T : List (Moment σ)}

/-- A call that ends within a program was made by it or below it. -/
lemma Enacts.suffix_of_returned (h : B.Enacts S p T q) {m : Moment σ} (hm : m ∈ T) {c : Call}
    {w : World σ} {x : c.Answer} {d : List (Deed σ)} (ends : m.label = .returned c w x d) :
    ∃ y, y :: S <:+ m.calls := by
  induction h with
  | nil => cases hm
  | acted t x _ ih =>
    rcases List.mem_cons.mp hm with rfl | hm
    · cases ends
    · exact ih hm
  | received k t w x d _ _ ih ih' =>
    rcases List.mem_cons.mp hm with rfl | hm
    · cases ends
    · rcases List.mem_append.mp hm with hm | hm
      · obtain ⟨y, below⟩ := ih hm
        exact ⟨_, (List.suffix_cons ..).trans below⟩
      · rcases List.mem_cons.mp hm with rfl | hm
        · exact ⟨_, List.suffix_rfl⟩
        · exact ih' hm

namespace Inside

variable {S' : List (Nat × Call)} {c c' : Call} {r : Action σ c'.Answer}

/-- What is done in a program is done within its own call. -/
lemma suffix (h : B.Inside S c T S' c' r) {m : Moment σ} (hm : m ∈ T) : S <:+ m.calls := by
  induction h with
  | here h => exact h.suffix hm
  | inside h _ ih =>
    rcases List.mem_append.mp hm with hm | hm
    · exact h.suffix hm
    · rcases List.mem_cons.mp hm with rfl | hm
      · exact List.suffix_rfl
      · exact (List.suffix_cons ..).trans (ih hm)

/-- A call that ends within a program that is in progress was made by it or below it. -/
lemma suffix_of_returned (h : B.Inside S c T S' c' r) {m : Moment σ} (hm : m ∈ T) {c₀ : Call}
    {w : World σ} {x : c₀.Answer} {d : List (Deed σ)} (ends : m.label = .returned c₀ w x d) :
    ∃ y, y :: S <:+ m.calls := by
  induction h with
  | here h => exact h.suffix_of_returned hm ends
  | inside h _ ih =>
    rcases List.mem_append.mp hm with hm | hm
    · exact h.suffix_of_returned hm ends
    · rcases List.mem_cons.mp hm with rfl | hm
      · cases ends
      · obtain ⟨y, below⟩ := ih hm
        exact ⟨_, (List.suffix_cons ..).trans below⟩

end Inside

end Board

/-- Since the beginning of a call that is in progress, a party has brought the program of the call
to where it is. -/
lemma Callers.Course.split {B : Board σ} {main : Action σ α} {o : Option Call} {f : Callers σ α o}
    {S R S' Z : List (Nat × Call)} {T T' : List (Moment σ)} {c' : Call} {q : Action σ c'.Answer}
    (h : f.Course B main S T) {k : Nat} {c : Call} (calls : S = R ++ (k, c) :: S')
    (inner : ∀ c₀, o = some c₀ → B.Inside S c₀ T' Z c' q) :
    ∃ A T₁, T ++ T' = A ++ ⟨k, S', .called c⟩ :: T₁ ∧ B.Inside ((k, c) :: S') c T₁ Z c' q := by
  induction f generalizing R S T T' with
  | none =>
    obtain ⟨rfl, -⟩ := h
    simp at calls
  | call c₁ w past next outer ih =>
    obtain ⟨k', S₁, T₁, T₂, rfl, rfl, below, enacts⟩ := h
    cases R with
    | nil =>
      cases calls
      exact ⟨T₁ ++ T₂, T', by simp, inner _ rfl⟩
    | cons y R =>
      obtain ⟨rfl, rfl⟩ := List.cons.inj calls
      obtain ⟨A, T₃, whole, inside⟩ := @ih _ R _ (T₂ ++ ⟨k', _, .called c₁⟩ :: T') below rfl
        fun c₀ owner => by
          subst owner
          exact .inside enacts (inner _ rfl)
      refine ⟨A, T₃, ?_, inside⟩
      rw [← whole]
      simp

/-! ## The steps made on behalf of a call -/

/-- A step is made on behalf of the call that began at a time. -/
def Moment.isFor (k : Nat) (m : Moment σ) : Bool := m.calls.any fun y => y.1 = k

lemma Moment.isFor_iff {k : Nat} {m : Moment σ} : m.isFor k = true ↔ ∃ c, (k, c) ∈ m.calls := by
  simp [isFor]

namespace Pool

variable {i : Fin n} {l l' : List (Fin n × Label σ)}

/-- The steps of a party that are made on behalf of the call that it began at a time. -/
def behalf (i : Fin n) (l : List (Fin n × Label σ)) (k : Nat) : List (Moment σ) :=
  (moments i l).filter (Moment.isFor k)

/-- What is done on behalf of a call is done after its beginning, as long as it is in progress. -/
lemma behalf_eq {A T C : List (Moment σ)} {k : Nat} {c : Call} {S : List (Nat × Call)}
    (whole : moments i l = A ++ ⟨k, S, .called c⟩ :: (T ++ C))
    (within : ∀ m ∈ T, (k, c) :: S <:+ m.calls) (beyond : ∀ m ∈ C, ∀ c', (k, c') ∉ m.calls) :
    behalf i l k = T := by
  have sorted := moments_sorted i l
  rw [whole, List.pairwise_append] at sorted
  have early {m : Moment σ} (hm : m ∈ moments i l) (le : m.time ≤ k) : ¬ m.isFor k = true := by
    rw [Moment.isFor_iff]
    rintro ⟨c', hc⟩
    exact absurd (lt_time hm hc) (Nat.not_lt.mpr le)
  have before : A.filter (Moment.isFor k) = [] := by
    rw [List.filter_eq_nil_iff]
    exact fun m hm => early (by simp [whole, hm]) (Nat.le_of_lt (sorted.2.2 m hm _ (.head _)))
  have beginning : ¬ (⟨k, S, .called c⟩ : Moment σ).isFor k = true :=
    early (by simp [whole]) (Nat.le_refl k)
  have all : T.filter (Moment.isFor k) = T := by
    rw [List.filter_eq_self]
    exact fun m hm => Moment.isFor_iff.mpr ⟨c, (within m hm).subset (.head _)⟩
  have after : C.filter (Moment.isFor k) = [] := by
    rw [List.filter_eq_nil_iff]
    intro m hm
    rw [Moment.isFor_iff]
    exact fun ⟨c', hc⟩ => beyond m hm c' hc
  rw [behalf, whole, List.filter_append, before, List.nil_append, List.filter_cons_of_neg beginning,
    List.filter_append, all, after, List.append_nil]

variable {B : Board σ} {P : Pool n σ α} {base : World σ} {clients : Fin n → Reaction σ α}

/-- What was done on behalf of a call in progress has brought its program to where the party is. -/
theorem Runs.behalf_of_calls (run : Runs B (startIn base clients) l P) {k : Nat} {c : Call}
    {R S : List (Nat × Call)} (progress : calls i l = R ++ (k, c) :: S) :
    ∃ c' w d q callers, P.parties i = ⟨some c', w, d, q, callers⟩ ∧
      B.Inside ((k, c) :: S) c (behalf i l k) (calls i l) c' q := by
  obtain ⟨T₁, T₂, whole, below, enacts⟩ := run.course i
  generalize P.parties i = party at below enacts
  obtain ⟨o, w, d, q, callers⟩ := party
  cases callers with
  | none =>
    rw [progress] at below
    simp [Callers.Course] at below
  | call c' w₁ past next outer =>
    obtain ⟨A, T, split, inside⟩ := below.split progress fun c₀ owner => by
      cases owner
      exact .here enacts
    have split : moments i l = A ++ ⟨k, S, .called c⟩ :: (T ++ []) := by
      rw [whole, split, List.append_nil]
    refine ⟨c', w, d, q, _, rfl, ?_⟩
    rw [behalf_eq split (fun m hm => inside.suffix hm) (List.forall_mem_nil _)]
    exact inside

/-- What was done on behalf of a call that has ended has carried out its program, and then the call
ended. -/
theorem Runs.behalf_of_returned (run : Runs B (startIn base clients) l P) {k t : Nat} {c : Call}
    {S : List (Nat × Call)} {w : World σ} {x : c.Answer} {d : List (Deed σ)}
    (ended : ⟨t, (k, c) :: S, .returned c w x d⟩ ∈ moments i l) :
    ∃ T, behalf i l k = T ++ [⟨t, (k, c) :: S, .returned c w x d⟩] ∧
      B.Enacts ((k, c) :: S) (B.program c) T (.done x) := by
  obtain ⟨A, T, C, q, whole, enacts, makes⟩ := run.segment_split ended rfl
  rw [makes.of_returned] at enacts
  have split : moments i l = A ++ ⟨k, S, .called c⟩ ::
      ((T ++ [⟨t, (k, c) :: S, .returned c w x d⟩]) ++ C) := by
    rw [whole, List.append_assoc, List.singleton_append]
  refine ⟨T, behalf_eq split (fun m hm => ?_) fun m hm c' hc => ?_, enacts⟩
  · rcases List.mem_append.mp hm with hm | hm
    · exact enacts.suffix hm
    · obtain rfl := List.mem_singleton.mp hm
      exact List.suffix_rfl
  · have sorted := moments_sorted i l
    rw [whole, ← List.cons_append, ← List.append_assoc] at sorted
    obtain ⟨-, late⟩ := (mem_iff_of_sorted sorted).mp hm
    have early := le_of_returned ended (by simp [whole, hm]) rfl rfl hc
    exact absurd late (Nat.not_lt.mpr early)

end Pool

end LedDriver
