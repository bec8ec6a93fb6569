import LedDriver.Proofs.System.Turns

/-!
# Moments

The steps of one party, each with its time in the run and with the calls that are in progress in it.
A call is known by the time at which it began, so that the steps made on behalf of a call are told
apart from those of all other calls with the same name.

`Board.Enacts` is a program that is carried out in some steps, the calls made in it included.  The
steps between the beginning of a call and any later step of its program are such steps
(`Runs.segment`), so that what was done on behalf of a call, at any level below it, is a question
about programs alone.
-/

namespace LedDriver

variable {σ α : Type} {n : Nat}

/-- A step of a party: its time, the calls in progress, from the innermost outwards and each with
the time at which it began, and what is done. -/
structure Moment (σ : Type) where
  time : Nat
  calls : List (Nat × Call)
  label : Label σ

/-- The calls in progress after a step. -/
def Moment.after (m : Moment σ) : List (Nat × Call) :=
  match m.label with
  | .acted _ _ => m.calls
  | .called c => (m.time, c) :: m.calls
  | .returned _ _ _ _ => m.calls.tail

/-- What is known of a party: the time, the calls it has in progress, and its steps. -/
structure Diary (σ : Type) where
  time : Nat
  calls : List (Nat × Call)
  moments : List (Moment σ)

/-- The step that a party makes at the time of its diary. -/
def Diary.moment (D : Diary σ) (e : Label σ) : Moment σ := ⟨D.time, D.calls, e⟩

/-- The diary of a party after one more step, made by the party or by another one. -/
def Diary.next (i : Fin n) (D : Diary σ) (e : Fin n × Label σ) : Diary σ :=
  if e.1 = i then ⟨D.time + 1, (D.moment e.2).after, D.moments ++ [D.moment e.2]⟩
  else { D with time := D.time + 1 }

namespace Pool

/-- The diary of a party in a run. -/
def diary (i : Fin n) (l : List (Fin n × Label σ)) : Diary σ := l.foldl (Diary.next i) ⟨0, [], []⟩

/-- The calls that a party has in progress, from the innermost outwards. -/
def calls (i : Fin n) (l : List (Fin n × Label σ)) : List (Nat × Call) := (diary i l).calls

/-- The steps of a party. -/
def moments (i : Fin n) (l : List (Fin n × Label σ)) : List (Moment σ) := (diary i l).moments

/-- The step of a party after the steps of a list. -/
def moment (i : Fin n) (l : List (Fin n × Label σ)) (e : Label σ) : Moment σ :=
  ⟨l.length, calls i l, e⟩

variable {i j : Fin n} {l l' : List (Fin n × Label σ)} {e : Label σ}

lemma diary_snoc (i : Fin n) (l : List (Fin n × Label σ)) (x : Fin n × Label σ) :
    diary i (l ++ [x]) = (diary i l).next i x := by
  simp [diary, List.foldl_append]

lemma time_diary (i : Fin n) (l : List (Fin n × Label σ)) : (diary i l).time = l.length := by
  induction l using List.reverseRecOn with
  | nil => rfl
  | append_singleton l x ih =>
    rw [diary_snoc, List.length_append, ← ih]
    unfold Diary.next
    split <;> rfl

lemma moment_eq (i : Fin n) (l : List (Fin n × Label σ)) (e : Label σ) :
    (diary i l).moment e = moment i l e := by
  rw [Diary.moment, time_diary]
  rfl

@[simp] lemma calls_nil (i : Fin n) : calls i ([] : List (Fin n × Label σ)) = [] := rfl

@[simp] lemma moments_nil (i : Fin n) : moments i ([] : List (Fin n × Label σ)) = [] := rfl

lemma calls_snoc (i : Fin n) (l : List (Fin n × Label σ)) (e : Label σ) :
    calls i (l ++ [(i, e)]) = (moment i l e).after := by
  rw [calls, diary_snoc, Diary.next, if_pos rfl, moment_eq]

lemma moments_snoc (i : Fin n) (l : List (Fin n × Label σ)) (e : Label σ) :
    moments i (l ++ [(i, e)]) = moments i l ++ [moment i l e] := by
  rw [moments, diary_snoc, Diary.next, if_pos rfl, moment_eq]
  rfl

/-- A step of another party changes nothing for a party. -/
lemma calls_snoc_of_ne (h : j ≠ i) (l : List (Fin n × Label σ)) (e : Label σ) :
    calls i (l ++ [(j, e)]) = calls i l := by
  rw [calls, diary_snoc, Diary.next, if_neg h]
  rfl

lemma moments_snoc_of_ne (h : j ≠ i) (l : List (Fin n × Label σ)) (e : Label σ) :
    moments i (l ++ [(j, e)]) = moments i l := by
  rw [moments, diary_snoc, Diary.next, if_neg h]
  rfl

/-! ## The order of the steps -/

/-- The steps of a party are the steps of the run that it makes, with their places in the run. -/
lemma mem_moments_iff {m : Moment σ} :
    m ∈ moments i l ↔ ∃ l₁ l₂ e, l = l₁ ++ (i, e) :: l₂ ∧ m = moment i l₁ e := by
  induction l using List.reverseRecOn with
  | nil => simp
  | append_singleton l x ih =>
    obtain ⟨j, e⟩ := x
    constructor
    · intro hm
      have earlier (hm : m ∈ moments i l) : ∃ l₁ l₂ e',
          l ++ [(j, e)] = l₁ ++ (i, e') :: l₂ ∧ m = moment i l₁ e' := by
        obtain ⟨l₁, l₂, e', rfl, rfl⟩ := ih.mp hm
        exact ⟨l₁, l₂ ++ [(j, e)], e', by simp, rfl⟩
      by_cases h : j = i
      · subst h
        rw [moments_snoc, List.mem_append, List.mem_singleton] at hm
        rcases hm with hm | rfl
        · exact earlier hm
        · exact ⟨l, [], e, rfl, rfl⟩
      · rw [moments_snoc_of_ne h] at hm
        exact earlier hm
    · rintro ⟨l₁, l₂, e', split, rfl⟩
      obtain rfl | ⟨l₂, y, rfl⟩ := l₂.eq_nil_or_concat
      · obtain ⟨rfl, last⟩ := List.append_inj' split rfl
        cases last
        rw [moments_snoc]
        simp
      · rw [List.concat_eq_append, ← List.cons_append, ← List.append_assoc] at split
        obtain ⟨rfl, -⟩ := List.append_inj' split rfl
        have mem := ih.mpr ⟨l₁, l₂, e', rfl, rfl⟩
        by_cases h : j = i
        · subst h
          rw [moments_snoc]
          exact List.mem_append_left _ mem
        · rwa [moments_snoc_of_ne h]

/-- The steps of a party are steps of the run. -/
lemma mem_of_mem_moments {m : Moment σ} (h : m ∈ moments i l) : (i, m.label) ∈ l := by
  obtain ⟨l₁, l₂, e, rfl, rfl⟩ := mem_moments_iff.mp h
  simp [moment]

/-- What a party has done stays done. -/
lemma moments_append {m : Moment σ} (h : m ∈ moments i l) : m ∈ moments i (l ++ l') := by
  obtain ⟨l₁, l₂, e, rfl, rfl⟩ := mem_moments_iff.mp h
  exact mem_moments_iff.mpr ⟨l₁, l₂ ++ l', e, by simp, rfl⟩

/-- The steps that a party has made stay in their order. -/
lemma exists_moments_append (i : Fin n) (l l' : List (Fin n × Label σ)) :
    ∃ C, moments i (l ++ l') = moments i l ++ C := by
  induction l' using List.reverseRecOn with
  | nil => exact ⟨[], by simp⟩
  | append_singleton l' x ih =>
    obtain ⟨C, whole⟩ := ih
    obtain ⟨j, e⟩ := x
    rw [← List.append_assoc]
    by_cases own : j = i
    · subst own
      exact ⟨C ++ [moment j (l ++ l') e], by rw [moments_snoc, whole, List.append_assoc]⟩
    · exact ⟨C, by rw [moments_snoc_of_ne own, whole]⟩

lemma time_lt {m : Moment σ} (h : m ∈ moments i l) : m.time < l.length := by
  obtain ⟨l₁, l₂, e, rfl, rfl⟩ := mem_moments_iff.mp h
  simp [moment]

/-- Two steps at one time are one step, made by one party. -/
lemma eq_of_time {m m' : Moment σ} (h : m ∈ moments i l) (h' : m' ∈ moments j l)
    (time : m.time = m'.time) : i = j ∧ m = m' := by
  obtain ⟨l₁, l₂, e, rfl, rfl⟩ := mem_moments_iff.mp h
  obtain ⟨l₁', l₂', e', same, rfl⟩ := mem_moments_iff.mp h'
  obtain ⟨rfl, rest⟩ := List.append_inj same time
  cases rest
  exact ⟨rfl, rfl⟩

/-- The steps of a party are made one after the other. -/
lemma moments_sorted (i : Fin n) (l : List (Fin n × Label σ)) :
    (moments i l).Pairwise fun m m' => m.time < m'.time := by
  induction l using List.reverseRecOn with
  | nil => exact .nil
  | append_singleton l x ih =>
    obtain ⟨j, e⟩ := x
    by_cases own : j = i
    · subst own
      rw [moments_snoc, List.pairwise_append]
      refine ⟨ih, List.pairwise_singleton .., fun m hm m' hm' => ?_⟩
      rw [List.mem_singleton.mp hm']
      exact time_lt hm
    · rwa [moments_snoc_of_ne own]

/-- Among steps made one after the other, those after a step are those at a later time. -/
lemma mem_iff_of_sorted {T T' : List (Moment σ)} {x m : Moment σ}
    (sorted : (T ++ x :: T').Pairwise fun m m' => m.time < m'.time) :
    m ∈ T' ↔ m ∈ T ++ x :: T' ∧ x.time < m.time := by
  obtain ⟨-, after, before⟩ := List.pairwise_append.mp sorted
  constructor
  · exact fun h => ⟨List.mem_append_right _ (.tail _ h), (List.pairwise_cons.mp after).1 m h⟩
  · rintro ⟨h, late⟩
    rcases List.mem_append.mp h with h | h
    · exact absurd late (Nat.lt_asymm (before m h x (.head _)))
    · rcases List.mem_cons.mp h with rfl | h
      · exact absurd late (Nat.lt_irrefl _)
      · exact h

/-- What comes earlier in a run belongs to an earlier part of it. -/
lemma exists_append_of_lt {l₁ l₂ l₁' l₂' : List (Fin n × Label σ)} {x x' : Fin n × Label σ}
    (same : l₁ ++ x :: l₂ = l₁' ++ x' :: l₂') (early : l₁.length < l₁'.length) :
    ∃ a, l₁' = l₁ ++ [x] ++ a := by
  obtain ⟨a, rfl, rest⟩ | ⟨a, rfl, -⟩ := List.append_eq_append_iff.mp same
  · cases a with
    | nil =>
      rw [List.append_nil] at early
      exact absurd early (Nat.lt_irrefl _)
    | cons y a =>
      cases rest
      exact ⟨a, by simp⟩
  · rw [List.length_append] at early
    omega

/-! ## The calls in progress -/

/-- The innermost call in progress. -/
lemma exists_of_head {S : List (Nat × Call)} {c : Call} (top : S.head?.map Prod.snd = some c) :
    ∃ k S', S = (k, c) :: S' := by
  cases S with
  | nil => cases top
  | cons y S =>
    cases top
    exact ⟨y.1, S, rfl⟩

/-- A call in progress began when the calls below it were in progress. -/
lemma mem_of_calls {k : Nat} {c : Call} {R S : List (Nat × Call)}
    (h : calls i l = R ++ (k, c) :: S) : ⟨k, S, .called c⟩ ∈ moments i l := by
  induction l using List.reverseRecOn generalizing R with
  | nil => simp at h
  | append_singleton l x ih =>
    obtain ⟨j, e⟩ := x
    by_cases own : j = i
    · subst own
      rw [calls_snoc] at h
      cases e with
      | acted a x => exact moments_append (ih h)
      | called c' =>
        cases R with
        | nil =>
          cases h
          exact mem_moments_iff.mpr ⟨l, [], _, rfl, rfl⟩
        | cons y R => exact moments_append (ih (List.cons.inj h).2)
      | returned c' w x d =>
        have below : (calls j l).tail = R ++ (k, c) :: S := h
        cases whole : calls j l with
        | nil => simp [whole] at below
        | cons y rest =>
          rw [whole] at below
          exact moments_append (ih (R := y :: R) (whole.trans (congrArg (y :: ·) below)))
    · rw [calls_snoc_of_ne own] at h
      exact moments_append (ih h)

/-- A call in progress began in the past. -/
lemma lt_of_mem_calls {x : Nat × Call} (h : x ∈ calls i l) : x.1 < l.length := by
  obtain ⟨R, S, split⟩ := List.append_of_mem h
  exact time_lt (mem_of_calls split)

/-- The calls that are in progress in a step began before it. -/
lemma lt_time {m : Moment σ} (h : m ∈ moments i l) {x : Nat × Call} (hx : x ∈ m.calls) :
    x.1 < m.time := by
  obtain ⟨l₁, l₂, e, rfl, rfl⟩ := mem_moments_iff.mp h
  exact lt_of_mem_calls hx

/-- The calls that are in progress in a step began in steps of the party. -/
lemma mem_of_moment {m : Moment σ} (h : m ∈ moments i l) {k : Nat} {c : Call}
    {R S : List (Nat × Call)} (split : m.calls = R ++ (k, c) :: S) :
    ⟨k, S, .called c⟩ ∈ moments i l := by
  obtain ⟨l₁, l₂, e, rfl, rfl⟩ := mem_moments_iff.mp h
  exact moments_append (mem_of_calls split)

/-- The time at which a call began tells the call and the calls below it. -/
lemma calls_unique {m m' : Moment σ} (h : m ∈ moments i l) (h' : m' ∈ moments i l) {k : Nat}
    {c c' : Call} {R T S S' : List (Nat × Call)} (split : m.calls = R ++ (k, c) :: S)
    (split' : m'.calls = T ++ (k, c') :: S') : c = c' ∧ S = S' := by
  obtain ⟨-, same⟩ := eq_of_time (mem_of_moment h split) (mem_of_moment h' split') rfl
  cases same
  exact ⟨rfl, rfl⟩

/-- A call in progress that began earlier was in progress then. -/
lemma mem_calls_of_append {x : Nat × Call} (h : x ∈ calls i (l ++ l')) (early : x.1 < l.length) :
    x ∈ calls i l := by
  induction l' using List.reverseRecOn with
  | nil => rwa [List.append_nil] at h
  | append_singleton l' y ih =>
    obtain ⟨j, e⟩ := y
    rw [← List.append_assoc] at h
    by_cases own : j = i
    · subst own
      rw [calls_snoc] at h
      cases e with
      | acted a x => exact ih h
      | called c =>
        rcases List.mem_cons.mp h with rfl | h
        · have now : (l ++ l').length < l.length := early
          rw [List.length_append] at now
          omega
        · exact ih h
      | returned c w x d => exact ih (List.mem_of_mem_tail h)
    · rw [calls_snoc_of_ne own] at h
      exact ih h

/-- After the end of a call nothing is done on its behalf. -/
lemma le_of_returned {m m' : Moment σ} (h : m ∈ moments i l) (h' : m' ∈ moments i l) {k : Nat}
    {c c' : Call} {S : List (Nat × Call)} (top : m.calls = (k, c) :: S)
    (ends : m.after = S) (within : (k, c') ∈ m'.calls) : m'.time ≤ m.time := by
  by_contra late
  have began := lt_time h (top ▸ List.mem_cons_self ..)
  have below := lt_time (mem_of_moment h (R := []) top) (x := (k, c'))
  obtain ⟨l₁, l₂, e, rfl, rfl⟩ := mem_moments_iff.mp h
  obtain ⟨l₁', l₂', e', same, rfl⟩ := mem_moments_iff.mp h'
  obtain ⟨a, rfl⟩ := exists_append_of_lt same (Nat.lt_of_not_le late)
  have still := mem_calls_of_append within (by
    rw [List.length_append]
    exact Nat.lt_succ_of_lt began)
  rw [calls_snoc, ends] at still
  exact absurd (below still) (Nat.lt_irrefl k)

end Pool

/-! ## Programs and the calls made in them -/

/-- With some calls in progress, a program is carried out in these steps up to what is left of
it. -/
inductive Board.Enacts (B : Board σ) :
    {α : Type} → List (Nat × Call) → Action σ α → List (Moment σ) → Action σ α → Prop
  | nil {α : Type} (S : List (Nat × Call)) (p : Action σ α) : B.Enacts S p [] p
  | acted {α : Type} {S : List (Nat × Call)} {a : Atom σ} {next : a.Answer → Action σ α}
      {T : List (Moment σ)} {q : Action σ α} (t : Nat) (x : a.Answer)
      (h : B.Enacts S (next x) T q) :
      B.Enacts S (.ask (.atom a) next) (⟨t, S, .acted a x⟩ :: T) q
  | received {α : Type} {S : List (Nat × Call)} {c : Call} {next : c.Answer → Action σ α}
      {T T' : List (Moment σ)} {q : Action σ α} (k t : Nat) (w : World σ) (x : c.Answer)
      (d : List (Deed σ)) (inner : B.Enacts ((k, c) :: S) (B.program c) T (.done x))
      (h : B.Enacts S (next x) T' q) :
      B.Enacts S (.ask (.call c) next)
        (⟨k, S, .called c⟩ :: (T ++ ⟨t, (k, c) :: S, .returned c w x d⟩ :: T')) q

namespace Board.Enacts

variable {B : Board σ} {S : List (Nat × Call)} {p q : Action σ α} {T T' : List (Moment σ)}

/-- A program that performs an atom goes on with what comes next. -/
lemma snoc_acted {a : Atom σ} {next : a.Answer → Action σ α}
    (h : B.Enacts S p T (.ask (.atom a) next)) (t : Nat) (x : a.Answer) :
    B.Enacts S p (T ++ [⟨t, S, .acted a x⟩]) (next x) := by
  generalize hq : (Program.ask (.atom a) next : Action σ α) = q at h
  induction h with
  | nil S p =>
    subst hq
    exact .acted t x (.nil _ _)
  | acted t' x' _ ih => exact .acted t' x' (ih hq)
  | received k t' w x' d inner _ _ ih =>
    rw [List.cons_append, List.append_assoc]
    exact .received k t' w x' d inner (ih hq)

/-- A program that makes a call goes on with what comes next when the call is ended. -/
lemma snoc_received {c : Call} {next : c.Answer → Action σ α}
    (h : B.Enacts S p T (.ask (.call c) next)) (k t : Nat) (w : World σ) (x : c.Answer)
    (d : List (Deed σ)) (inner : B.Enacts ((k, c) :: S) (B.program c) T' (.done x)) :
    B.Enacts S p (T ++ ⟨k, S, .called c⟩ :: (T' ++ [⟨t, (k, c) :: S, .returned c w x d⟩]))
      (next x) := by
  generalize hq : (Program.ask (.call c) next : Action σ α) = q at h
  induction h with
  | nil S p =>
    subst hq
    exact .received k t w x d inner (.nil _ _)
  | acted t' x' _ ih => exact .acted t' x' (ih inner hq)
  | received k' t' w' x' d' inner' _ _ ih =>
    rw [List.cons_append, List.append_assoc]
    exact .received k' t' w' x' d' inner' (ih inner hq)

/-- What is done in a program is done within its own call. -/
lemma suffix (h : B.Enacts S p T q) {m : Moment σ} (hm : m ∈ T) : S <:+ m.calls := by
  induction h with
  | nil => cases hm
  | acted t x _ ih =>
    rcases List.mem_cons.mp hm with rfl | hm
    · exact List.suffix_rfl
    · exact ih hm
  | received k t w x d _ _ ih ih' =>
    rcases List.mem_cons.mp hm with rfl | hm
    · exact List.suffix_rfl
    · rcases List.mem_append.mp hm with hm | hm
      · exact (List.suffix_cons ..).trans (ih hm)
      · rcases List.mem_cons.mp hm with rfl | hm
        · exact List.suffix_cons ..
        · exact ih' hm

end Board.Enacts

lemma Board.enacts_done_iff {B : Board σ} {S : List (Nat × Call)} {x : α} {T : List (Moment σ)}
    {q : Action σ α} : B.Enacts S (.done x) T q ↔ T = [] ∧ q = .done x := by
  constructor
  · intro h
    cases h
    exact ⟨rfl, rfl⟩
  · rintro ⟨rfl, rfl⟩
    exact .nil _ _

lemma Board.enacts_atom_iff {B : Board σ} {S : List (Nat × Call)} {a : Atom σ}
    {next : a.Answer → Action σ α} {T : List (Moment σ)} {q : Action σ α} :
    B.Enacts S (.ask (.atom a) next) T q ↔ (T = [] ∧ q = .ask (.atom a) next) ∨
      ∃ t x T', T = ⟨t, S, .acted a x⟩ :: T' ∧ B.Enacts S (next x) T' q := by
  constructor
  · intro h
    cases h with
    | nil => exact .inl ⟨rfl, rfl⟩
    | acted t x h => exact .inr ⟨t, x, _, rfl, h⟩
  · rintro (⟨rfl, rfl⟩ | ⟨t, x, T', rfl, h⟩)
    · exact .nil _ _
    · exact .acted t x h

lemma Board.enacts_call_iff {B : Board σ} {S : List (Nat × Call)} {c : Call}
    {next : c.Answer → Action σ α} {T : List (Moment σ)} {q : Action σ α} :
    B.Enacts S (.ask (.call c) next) T q ↔ (T = [] ∧ q = .ask (.call c) next) ∨
      ∃ k t w x d T₁ T₂,
        T = ⟨k, S, .called c⟩ :: (T₁ ++ ⟨t, (k, c) :: S, .returned c w x d⟩ :: T₂) ∧
          B.Enacts ((k, c) :: S) (B.program c) T₁ (.done x) ∧ B.Enacts S (next x) T₂ q := by
  constructor
  · intro h
    cases h with
    | nil => exact .inl ⟨rfl, rfl⟩
    | received k t w x d inner h => exact .inr ⟨k, t, w, x, d, _, _, rfl, inner, h⟩
  · rintro (⟨rfl, rfl⟩ | ⟨k, t, w, x, d, T₁, T₂, rfl, inner, h⟩)
    · exact .nil _ _
    · exact .received k t w x d inner h

namespace Board.Enacts

variable {B : Board σ} {S : List (Nat × Call)} {p q : Action σ α} {T : List (Moment σ)} {r : α}

/-- A program that is done and begins with an atom has performed it first. -/
lemma of_atom {a : Atom σ} {next : a.Answer → Action σ α}
    (h : B.Enacts S (.ask (.atom a) next) T (.done r)) :
    ∃ t x T', T = ⟨t, S, .acted a x⟩ :: T' ∧ B.Enacts S (next x) T' (.done r) := by
  obtain ⟨-, e⟩ | h := enacts_atom_iff.mp h
  · cases e
  · exact h

/-- A program that is done and begins with a call has made the call first. -/
lemma of_call {c : Call} {next : c.Answer → Action σ α}
    (h : B.Enacts S (.ask (.call c) next) T (.done r)) :
    ∃ k t w x d T₁ T₂,
      T = ⟨k, S, .called c⟩ :: (T₁ ++ ⟨t, (k, c) :: S, .returned c w x d⟩ :: T₂) ∧
        B.Enacts ((k, c) :: S) (B.program c) T₁ (.done x) ∧ B.Enacts S (next x) T₂ (.done r) := by
  obtain ⟨-, e⟩ | h := enacts_call_iff.mp h
  · cases e
  · exact h

/-- A program itself asks for nothing but what it can ask for. -/
lemma only {π : Request σ → Prop} (h : B.Enacts S p T q) (hp : p.Only π) :
    (∀ m ∈ T, m.calls = S → π m.label.request) ∧ q.Only π := by
  have deeper {S S' : List (Nat × Call)} {y : Nat × Call} (below : y :: S <:+ S') : S' ≠ S := by
    rintro rfl
    exact absurd below.length_le (by simp)
  induction h with
  | nil => exact ⟨fun m hm => absurd hm List.not_mem_nil, hp⟩
  | acted t x _ ih =>
    obtain ⟨own, rest⟩ := ih (hp.2 x)
    refine ⟨fun m hm same => ?_, rest⟩
    rcases List.mem_cons.mp hm with rfl | hm
    · exact hp.1
    · exact own m hm same
  | received k t w x d inner _ _ ih' =>
    obtain ⟨own, rest⟩ := ih' (hp.2 x)
    refine ⟨fun m hm same => ?_, rest⟩
    rcases List.mem_cons.mp hm with rfl | hm
    · exact hp.1
    · rcases List.mem_append.mp hm with hm | hm
      · exact absurd same (deeper (inner.suffix hm))
      · rcases List.mem_cons.mp hm with rfl | hm
        · exact absurd same (deeper List.suffix_rfl)
        · exact own m hm same

end Board.Enacts

/-! ## The course of a party -/

/-- In these steps, with these calls in progress, the programs set aside came to where they are. -/
def Callers.Course (B : Board σ) (main : Action σ α) :
    {o : Option Call} → Callers σ α o → List (Nat × Call) → List (Moment σ) → Prop
  | _, none, S, T => S = [] ∧ T = []
  | _, @call _ _ c o _ _ next outer, S, T => ∃ k S' T₁ T₂, S = (k, c) :: S' ∧
      T = T₁ ++ T₂ ++ [⟨k, S', .called c⟩] ∧ outer.Course B main S' T₁ ∧
      B.Enacts S' (B.source main o) T₂ (.ask (.call c) next)

/-- In these steps, with these calls in progress, a party came to where it is. -/
def Party.Course (B : Board σ) (main : Action σ α) (p : Party σ α) (S : List (Nat × Call))
    (T : List (Moment σ)) : Prop :=
  ∃ T₁ T₂, T = T₁ ++ T₂ ∧ p.callers.Course B main S T₁ ∧
    B.Enacts S (B.source main p.owner) T₂ p.rest

/-- A step goes on with the course of the party. -/
lemma Board.Step.course {B : Board σ} {main : Action σ α} {w w' : World σ} {p p' : Party σ α}
    {e : Label σ} (h : B.Step w p e w' p') {S : List (Nat × Call)} {T : List (Moment σ)}
    (hp : p.Course B main S T) (t : Nat) :
    p'.Course B main (Moment.after ⟨t, S, e⟩) (T ++ [⟨t, S, e⟩]) := by
  obtain ⟨T₁, T₂, rfl, below, own⟩ := hp
  cases h with
  | act _ => exact ⟨T₁, _, List.append_assoc .., below, own.snoc_acted t _⟩
  | call => exact ⟨_, [], (List.append_nil _).symm, ⟨t, S, T₁, T₂, rfl, rfl, below, own⟩, .nil _ _⟩
  | «return» w₀ w₁ past d c x =>
    obtain ⟨k, S', T₃, T₄, rfl, rfl, outer, caller⟩ := below
    refine ⟨T₃, _, ?_, outer, caller.snoc_received k t w₁ x d own⟩
    simp

/-- The innermost call in progress is the one that a party is carrying out. -/
lemma Party.Course.owner_eq {B : Board σ} {main : Action σ α} {p : Party σ α}
    {S : List (Nat × Call)} {T : List (Moment σ)} (h : p.Course B main S T) :
    p.owner = S.head?.map Prod.snd := by
  obtain ⟨o, w, past, rest, callers⟩ := p
  obtain ⟨T₁, T₂, -, below, -⟩ := h
  cases callers with
  | none =>
    obtain ⟨rfl, -⟩ := below
    rfl
  | call c w past next outer =>
    obtain ⟨k, S', T₁, T₂, rfl, -, -, -⟩ := below
    rfl

/-- What a program is to do next is what a step of its party does. -/
inductive Call.Makes (c : Call) : Action σ c.Answer → Label σ → Prop
  | acted {a : Atom σ} {next : a.Answer → Action σ c.Answer} (x : a.Answer) :
    Makes c (.ask (.atom a) next) (.acted a x)
  | called {c' : Call} {next : c'.Answer → Action σ c.Answer} :
    Makes c (.ask (.call c') next) (.called c')
  | returned (w : World σ) (x : c.Answer) (d : List (Deed σ)) :
    Makes c (.done x) (.returned c w x d)

namespace Call.Makes

variable {c : Call} {q : Action σ c.Answer}

lemma of_acted {a : Atom σ} {x : a.Answer} (h : c.Makes q (.acted a x)) :
    ∃ next, q = .ask (.atom a) next := by
  cases h
  exact ⟨_, rfl⟩

lemma of_called {c' : Call} (h : c.Makes q (.called c')) : ∃ next, q = .ask (.call c') next := by
  cases h
  exact ⟨_, rfl⟩

lemma of_returned {w : World σ} {x : c.Answer} {d : List (Deed σ)}
    (h : c.Makes q (.returned c w x d)) : q = .done x := by
  cases h
  rfl

end Call.Makes

namespace Pool

variable {B : Board σ} {P Q : Pool n σ α} {l l' : List (Fin n × Label σ)} {base : World σ}
  {clients : Fin n → Reaction σ α} {i : Fin n}

/-- In a run of clients, every party came to where it is in its own steps. -/
lemma Runs.course (run : Runs B (startIn base clients) l P) (i : Fin n) :
    (P.parties i).Course B (clients i).action (calls i l) (moments i l) := by
  induction run with
  | refl => exact ⟨[], [], rfl, ⟨rfl, rfl⟩, .nil _ _⟩
  | @tail Q R l e run step ih =>
    obtain ⟨j, e⟩ := e
    obtain ⟨w, p, hs, rfl⟩ := step.exists_party
    by_cases h : i = j
    · subst h
      rw [calls_snoc, moments_snoc]
      simpa only [update_self, moment] using hs.course ih l.length
    · rw [calls_snoc_of_ne (Ne.symm h), moments_snoc_of_ne (Ne.symm h)]
      simpa only [update_of_ne _ _ h] using ih

/-- A step made on behalf of a call, and not on behalf of a call below it, is made by its program.
Since the beginning of the call, the party has made the steps that bring the program to this
point. -/
theorem Runs.segment_split (run : Runs B (startIn base clients) l P) {m : Moment σ}
    (h : m ∈ moments i l) {k : Nat} {c : Call} {S : List (Nat × Call)}
    (top : m.calls = (k, c) :: S) :
    ∃ A T C q, moments i l = A ++ ⟨k, S, .called c⟩ :: (T ++ m :: C) ∧
      B.Enacts ((k, c) :: S) (B.program c) T q ∧ c.Makes q m.label := by
  obtain ⟨l₁, l₂, e, rfl, rfl⟩ := mem_moments_iff.mp h
  obtain ⟨Q, R, before, step, -⟩ := run.of_append_cons
  obtain ⟨T₁, T₂, whole, below, enacts⟩ := before.course i
  obtain ⟨w, p, hs, -⟩ := step.exists_party
  have top : calls i l₁ = (k, c) :: S := top
  rw [top] at below enacts
  generalize Q.parties i = p at hs below enacts
  obtain ⟨o, w₀, past, rest, callers⟩ := p
  cases callers with
  | none => cases below.1
  | call c w₁ outer next callers =>
    obtain ⟨k, S, T₃, T₄, ⟨⟩, rfl, -, -⟩ := below
    obtain ⟨C, later⟩ := exists_moments_append i (l₁ ++ [(i, e)]) l₂
    refine ⟨T₃ ++ T₄, T₂, C, rest, ?_, enacts, ?_⟩
    · rw [List.append_cons, later, moments_snoc, whole]
      simp
    · cases hs with
      | act _ => exact .acted _
      | call => exact .called
      | «return» => exact .returned ..

/-- The steps that bring a program to a point are those of its party since the beginning of its
call. -/
lemma Runs.segment (run : Runs B (startIn base clients) l P) {m : Moment σ} (h : m ∈ moments i l)
    {k : Nat} {c : Call} {S : List (Nat × Call)} (top : m.calls = (k, c) :: S) :
    ∃ T q, B.Enacts ((k, c) :: S) (B.program c) T q ∧ c.Makes q m.label ∧
      ∀ m', m' ∈ T ↔ m' ∈ moments i l ∧ k < m'.time ∧ m'.time < m.time := by
  obtain ⟨A, T, C, q, whole, enacts, makes⟩ := run.segment_split h top
  refine ⟨T, q, enacts, makes, fun m' => ?_⟩
  have sorted := whole ▸ moments_sorted i l
  rw [whole, ← and_assoc, ← mem_iff_of_sorted sorted, List.mem_append]
  obtain ⟨-, later, earlier⟩ :=
    List.pairwise_append.mp (List.pairwise_cons.mp (List.pairwise_append.mp sorted).2.1).2
  constructor
  · exact fun h => ⟨.inl h, earlier m' h m (.head _)⟩
  · rintro ⟨h | h, early⟩
    · exact h
    · rcases List.mem_cons.mp h with rfl | h
      · exact absurd early (Nat.lt_irrefl _)
      · exact absurd early (Nat.lt_asymm ((List.pairwise_cons.mp later).1 m' h))

/-- What a party can ask for in a step at all, the program of the innermost call in progress can ask
for. -/
lemma Runs.asks_of_moment (run : Runs B (startIn base clients) l P) {m : Moment σ}
    (h : m ∈ moments i l) (begins : ∀ c w x d, m.label ≠ .returned c w x d) {π : Request σ → Prop}
    (only : (B.source (clients i).action (m.calls.head?.map Prod.snd)).Only π) :
    π m.label.request := by
  obtain ⟨l₁, l₂, e, rfl, rfl⟩ := mem_moments_iff.mp h
  obtain ⟨Q, R, before, step, -⟩ := run.of_append_cons
  obtain ⟨o, w₀, d, rest, frames, source⟩ := before.exists_source step begins
  refine source π ?_
  obtain rfl : (Q.parties i).owner = o := congrArg Frame.owner (List.cons.inj frames).1
  rw [(before.course i).owner_eq]
  exact only

/-- A call that began is in progress or has ended. -/
lemma Runs.returned_of_called (run : Runs B (startIn base clients) l P) {k : Nat} {c : Call}
    {S : List (Nat × Call)} (h : ⟨k, S, .called c⟩ ∈ moments i l) :
    (k, c) ∈ calls i l ∨ ∃ t w x d, ⟨t, (k, c) :: S, .returned c w x d⟩ ∈ moments i l := by
  induction run with
  | refl => cases h
  | @tail Q R l e run step ih =>
    have whole := run.tail step
    obtain ⟨j, e⟩ := e
    by_cases own : j = i
    · subst own
      rw [moments_snoc, List.mem_append, List.mem_singleton] at h
      rcases h with h | h
      · rcases ih h with progress | ⟨t, w, x, d, ended⟩
        · rw [calls_snoc]
          cases e with
          | acted a x => exact .inl progress
          | called c' => exact .inl (List.mem_cons_of_mem _ progress)
          | returned c' w x d =>
            have last : moment j l (.returned c' w x d) ∈
                moments j (l ++ [(j, .returned c' w x d)]) :=
              mem_moments_iff.mpr ⟨l, [], _, rfl, rfl⟩
            cases top : calls j l with
            | nil => simp [top] at progress
            | cons y rest =>
              rw [top] at progress
              rcases List.mem_cons.mp progress with rfl | below
              · -- the call that ends is the one that began
                obtain ⟨T, q, -, makes, -⟩ := whole.segment last (top : _ = (k, c) :: rest)
                obtain ⟨-, began⟩ := eq_of_time h (mem_of_calls (R := []) top) rfl
                cases began
                cases makes
                rw [moment, top] at last
                exact .inr ⟨l.length, w, _, d, last⟩
              · exact .inl (by simpa [moment, Moment.after, top] using below)
        · exact .inr ⟨t, w, x, d, moments_append ended⟩
      · cases h
        rw [calls_snoc]
        exact .inl (List.mem_cons_self ..)
    · rw [moments_snoc_of_ne own] at h
      rw [calls_snoc_of_ne own, moments_snoc_of_ne own]
      exact ih h

/-- A call that ends is the innermost one in progress. -/
lemma Runs.exists_of_returned (run : Runs B (startIn base clients) l P) {c : Call} {w : World σ}
    {x : c.Answer} {d : List (Deed σ)} (he : (i, .returned c w x d) ∈ l) :
    ∃ k t S, ⟨t, (k, c) :: S, .returned c w x d⟩ ∈ moments i l := by
  obtain ⟨l₁, l₂, Q, R, rfl, before, step, -⟩ := run.exists_step he
  obtain ⟨_, p, hs, -⟩ := step.exists_party
  have owner := (before.course i).owner_eq
  have returning : (Q.parties i).owner = some c := by
    generalize Q.parties i = q at hs
    cases hs
    rfl
  obtain ⟨k, S, top⟩ := exists_of_head (owner.symm.trans returning)
  refine ⟨k, l₁.length, S, ?_⟩
  rw [← top]
  exact mem_moments_iff.mpr ⟨l₁, l₂, _, rfl, rfl⟩

/-- A party without a call has none in progress. -/
lemma Runs.calls_of_owner (run : Runs B (startIn base clients) l P)
    (idle : (P.parties i).owner = none) : calls i l = [] := by
  have owner := (run.course i).owner_eq
  rw [idle] at owner
  simpa using owner.symm

end Pool

end LedDriver
