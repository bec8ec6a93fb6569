import LedDriver.Proofs.Settings.Storing

/-!
# Deciding steps

What is done on behalf of one command that sets a value.  The upper half reads what is set, once,
under the lock.  If it does not refuse the command, it has the operation carried out, and the lower
half stores the value, once, under the lock, or it does not store.

A command that began at a given time looks at what is set at one time at most (`Pool.LooksAt`) and
stores at one time at most (`Pool.StoresAt`), after it has looked and was not refused.  Its answer
is that of the refusal, or that of the store, or an error of the lower half's own if it did not
store (`Pool.Runs.of_answersAt`).
-/

namespace LedDriver

variable {σ α : Type} {n : Nat}

open Program

namespace Setting

variable {s : SessionId} {x : Setting}

/-- What is left of the command when the upper half has read what is set. -/
def afterLook (s : SessionId) (x : Setting) (old : x.look.Answer) : Action σ CommandAnswer :=
  .ask (.atom (.release (.control s))) fun _ =>
    match x.refusedBy old with
    | some r => .ask (.call (.peer (.log (.refused r)))) fun _ => .done (x.answer (.error r.error))
    | none => .ask (.atom (.profile s)) fun p =>
      .ask (.call (x.work p.lower s)) (Board.conclusion x.command)

/-- The upper half reads what is set, under the lock. -/
lemma command_eq (s : SessionId) (x : Setting) : (Session.command s x.command : Action σ _) =
    .ask (.atom (.acquire (.control s))) fun _ =>
      .ask (.atom (.control s x.look)) (x.afterLook s) := by
  cases x <;> rfl

end Setting

/-! ## The programs -/

/-- At its end a command writes into the journal at most. -/
lemma Board.conclusion_only {c : Command} {z : c.operation.Answer} {π : Request σ → Prop}
    (log : ∀ m, π (.call (.peer (.log m)))) : (conclusion c z : Action σ _).Only π := by
  unfold conclusion
  split
  · trivial
  · exact ⟨log _, fun _ => trivial⟩

namespace Board.Enacts

variable {B : Board σ} {S : List (Nat × Call)} {T : List (Moment σ)} {s : SessionId} {x : Setting}

/-- A use of a control block has taken the lock before it uses the block. -/
lemma of_control {m m' : ControlMethod} {next : m'.Answer → Action σ m.Answer}
    (h : B.Enacts S (Session.control s m) T (.ask (.atom (.control s m')) next)) :
    ∀ e ∈ T, e.label = .acted (.acquire (.control s)) () := by
  obtain ⟨rfl, -⟩ | ⟨t, _, T₁, rfl, h₁⟩ := enacts_atom_iff.mp h
  · exact fun e he => absurd he List.not_mem_nil
  obtain ⟨rfl, -⟩ | ⟨t', _, T₂, rfl, h₂⟩ := enacts_atom_iff.mp h₁
  · exact fun e he => by rw [List.mem_singleton.mp he]
  obtain ⟨-, same⟩ | ⟨t'', _, T₃, rfl, h₃⟩ := enacts_atom_iff.mp h₂
  · cases same
  · cases (enacts_done_iff.mp h₃).2

/-- A use of a control block that ended has used the block. -/
lemma control_mem {m : ControlMethod} {v : m.Answer}
    (h : B.Enacts S (Session.control s m) T (.done v)) :
    ∃ t, ⟨t, S, .acted (.control s m) v⟩ ∈ T := by
  obtain ⟨t, _, T₁, rfl, h₁⟩ := of_atom h
  obtain ⟨t', y, T₂, rfl, h₂⟩ := of_atom h₁
  obtain ⟨t'', _, T₃, rfl, h₃⟩ := of_atom h₂
  obtain ⟨-, same⟩ := enacts_done_iff.mp h₃
  cases same
  exact ⟨t', .tail _ (.head _)⟩

/-- A command has taken the lock before it looks, and then it has looked. -/
lemma of_command {q : Action σ CommandAnswer}
    (h : B.Enacts S (Session.command s x.command) T q) :
    ((∀ e ∈ T, e.label = .acted (.acquire (.control s)) ()) ∧ ∃ a next, q = .ask (.atom a) next) ∨
      ∃ t₀ t old T', T = ⟨t₀, S, .acted (.acquire (.control s)) ()⟩ ::
          ⟨t, S, .acted (.control s x.look) old⟩ :: T' ∧
        B.Enacts S (x.afterLook s old) T' q := by
  rw [Setting.command_eq] at h
  obtain ⟨rfl, rfl⟩ | ⟨t₀, _, T₁, rfl, h₁⟩ := enacts_atom_iff.mp h
  · exact .inl ⟨fun e he => absurd he List.not_mem_nil, _, _, rfl⟩
  obtain ⟨rfl, rfl⟩ | ⟨t, old, T₂, rfl, h₂⟩ := enacts_atom_iff.mp h₁
  · exact .inl ⟨fun e he => by rw [List.mem_singleton.mp he], _, _, rfl⟩
  · exact .inr ⟨t₀, t, old, T₂, rfl, h₂⟩

/-- A command that is to use the control block has not used it before. -/
lemma not_looked {m : ControlMethod} {next : m.Answer → Action σ CommandAnswer}
    (h : B.Enacts S (Session.command s x.command) T (.ask (.atom (.control s m)) next)) :
    ∀ e ∈ T, e.label = .acted (.acquire (.control s)) () := by
  obtain ⟨acquired, -⟩ | ⟨t₀, t, old, T', rfl, rest⟩ := h.of_command
  · exact acquired
  · have never : (x.afterLook s old : Action σ _).Only
        fun r => ∀ m, r ≠ Request.atom (.control s m) := by
      refine ⟨nofun, fun _ => ?_⟩
      split
      · exact ⟨nofun, fun _ => trivial⟩
      · exact ⟨nofun, fun p => ⟨nofun, fun z => conclusion_only fun _ => nofun⟩⟩
    exact absurd rfl ((rest.only never).2.1 m)

/-- A command that is to have its operation carried out has looked and is not refused, and has made
no call so far. -/
lemma of_calling {g : LowerId} {next : (x.work g s).Answer → Action σ CommandAnswer}
    (h : B.Enacts S (Session.command s x.command) T (.ask (.call (x.work g s)) next)) :
    (∀ e ∈ T, e.calls = S ∧ ∃ a y, e.label = .acted a y) ∧
      ∃ t old, ⟨t, S, .acted (.control s x.look) old⟩ ∈ T ∧ x.refusedBy old = none := by
  obtain ⟨-, a, next', same⟩ | ⟨t₀, t, old, T₁, rfl, h₁⟩ := h.of_command
  · cases same
  obtain ⟨-, same⟩ | ⟨t₁, _, T₂, rfl, h₂⟩ := enacts_atom_iff.mp h₁
  · cases same
  cases refused : x.refusedBy old with
  | some r =>
    rw [refused] at h₂
    obtain ⟨-, same⟩ | ⟨k, t', w, _, d, T₃, T₄, rfl, -, h₄⟩ := enacts_call_iff.mp h₂
    · cases same
    · cases (enacts_done_iff.mp h₄).2
  | none =>
    rw [refused] at h₂
    obtain ⟨-, same⟩ | ⟨t₂, p, T₃, rfl, h₃⟩ := enacts_atom_iff.mp h₂
    · cases same
    obtain ⟨rfl, -⟩ | ⟨k, t', w, z, d, T₄, T₅, rfl, -, h₅⟩ := enacts_call_iff.mp h₃
    · exact ⟨by simp, t, old, .tail _ (.head _), refused⟩
    · -- afterwards there is no call but that of the journal
      have never : (conclusion x.command z : Action σ _).Only
          fun r => r ≠ Request.call (x.work g s) := conclusion_only nofun
      exact absurd rfl (h₅.only never).2.1

/-- A command that ended has looked.  It was refused and is denied, or its operation was carried out
and its answer is what the operation reported. -/
lemma of_answer {y : CommandAnswer} (h : B.Enacts S (Session.command s x.command) T (.done y)) :
    ∃ t old, ⟨t, S, .acted (.control s x.look) old⟩ ∈ T ∧
      ((∃ r, x.refusedBy old = some r ∧ y = x.answer (.error r.error)) ∨
        (x.refusedBy old = none ∧ ∃ g k t' w z d,
          ⟨t', (k, x.work g s) :: S, .returned (x.work g s) w z d⟩ ∈ T ∧
          y = x.answer (x.reported z))) := by
  obtain ⟨-, a, next, same⟩ | ⟨t₀, t, old, T₁, rfl, h₁⟩ := h.of_command
  · cases same
  refine ⟨t, old, .tail _ (.head _), ?_⟩
  obtain ⟨t₁, _, T₂, rfl, h₂⟩ := h₁.of_atom
  cases refused : x.refusedBy old with
  | some r =>
    rw [refused] at h₂
    obtain ⟨k, t', w, _, d, T₃, T₄, rfl, -, h₄⟩ := h₂.of_call
    obtain ⟨-, same⟩ := enacts_done_iff.mp h₄
    cases same
    exact .inl ⟨r, rfl, rfl⟩
  | none =>
    rw [refused] at h₂
    obtain ⟨t₂, p, T₃, rfl, h₃⟩ := h₂.of_atom
    obtain ⟨k, t', w, z, d, T₄, T₅, rfl, -, h₅⟩ := h₃.of_call
    refine .inr ⟨rfl, p.lower, k, t', w, z, d, by simp, ?_⟩
    refine Eq.trans ?_ (Setting.concluded_eq x z)
    unfold conclusion at h₅
    split at h₅
    · obtain ⟨-, same⟩ := enacts_done_iff.mp h₅
      cases same
      rfl
    · obtain ⟨k', t'', w', _, d', T₆, T₇, rfl, -, h₇⟩ := h₅.of_call
      obtain ⟨-, same⟩ := enacts_done_iff.mp h₇
      cases same
      rfl

/-- A lower half that stores what it is told to, some way into its operation.  If it has heard of no
store, it has not begun one; what it has heard is what became of its store. -/
lemma of_sets {r : Reaction σ x.command.operation.Answer}
    {heard : Option (Except DeviceError Unit)} {q : Action σ x.command.operation.Answer}
    (sets : r.Sets s x heard) (h : B.Enacts S r.action T q) :
    ∃ heard' r', q = Reaction.action r' ∧ r'.Sets s x heard' ∧
      (heard' = none → heard = none ∧ ∀ e ∈ T, ∀ k, e.calls ≠ (k, x.storing s) :: S) ∧
      ∀ ρ, heard' = some ρ → heard = some ρ ∨
        ∃ k t v,
          ⟨t, (k, x.storing s) :: S, .acted (.control s x.store) v⟩ ∈ T ∧ x.stored v = ρ := by
  have deeper {k : Nat} {c : Call} : S ≠ (k, c) :: S := fun same =>
    absurd (congrArg List.length same) (by simp)
  have nothing : ∀ e ∈ ([] : List (Moment σ)), ∀ k, e.calls ≠ (k, x.storing s) :: S :=
    List.forall_mem_nil _
  induction sets generalizing T with
  | fails told =>
    obtain ⟨rfl, rfl⟩ := enacts_done_iff.mp h
    exact ⟨none, _, rfl, .fails told, fun _ => ⟨rfl, nothing⟩, fun _ => nofun⟩
  | @reports z ρ told =>
    obtain ⟨rfl, rfl⟩ := enacts_done_iff.mp h
    exact ⟨some ρ, _, rfl, .reports told, fun silent => absurd silent (Option.some_ne_none ρ),
      fun _ same => .inl same⟩
  | @own f next heard goes ih =>
    obtain ⟨rfl, rfl⟩ | ⟨t, a, T', rfl, rest⟩ := enacts_atom_iff.mp h
    · exact ⟨heard, .ask (.own f) next, rfl, .own goes, fun none => ⟨none, nothing⟩,
        fun _ same => .inl same⟩
    · obtain ⟨heard', r', rfl, sets, none, some⟩ := ih a rest
      refine ⟨heard', r', rfl, sets, fun silent => ⟨(none silent).1, ?_⟩, fun ρ told => ?_⟩
      · exact List.forall_mem_cons.mpr ⟨fun _ => deeper, (none silent).2⟩
      · rcases some ρ told with before | ⟨k, t', v, mem, rfl⟩
        · exact .inl before
        · exact .inr ⟨k, t', v, .tail _ mem, rfl⟩
  | @use c next heard leaves goes ih =>
    obtain ⟨rfl, rfl⟩ | ⟨k, t, w, a, d, T₁, T₂, rfl, inner, rest⟩ := enacts_call_iff.mp h
    · exact ⟨heard, .ask (.service c) next, rfl, .use leaves goes, fun none => ⟨none, nothing⟩,
        fun _ same => .inl same⟩
    · -- what is done inside another service is not done in a store
      have other {k' : Nat} {S' : List (Nat × Call)} (within : (k, .service c) :: S <:+ S') :
          S' ≠ (k', x.storing s) :: S := by
        rintro rfl
        cases within.eq_of_length rfl
        exact (leaves x).1 rfl
      obtain ⟨heard', r', rfl, sets, none, some⟩ := ih a rest
      refine ⟨heard', r', rfl, sets, fun silent => ⟨(none silent).1, ?_⟩, fun ρ told => ?_⟩
      · exact List.forall_mem_cons.mpr ⟨fun _ => deeper, List.forall_mem_append.mpr
          ⟨fun e he _ => other (inner.suffix he),
            List.forall_mem_cons.mpr ⟨fun _ => other List.suffix_rfl, (none silent).2⟩⟩⟩
      · rcases some ρ told with before | ⟨k, t', v, mem, rfl⟩
        · exact .inl before
        · exact .inr ⟨k, t', v, .tail _ (List.mem_append_right _ (.tail _ mem)), rfl⟩
  | @store next goes ih =>
    obtain ⟨rfl, rfl⟩ | ⟨k, t, w, v, d, T₁, T₂, rfl, inner, rest⟩ := enacts_call_iff.mp h
    · exact ⟨none, .ask (.service (.control s x.store)) next, rfl, .store goes,
        fun _ => ⟨rfl, nothing⟩, fun _ => nofun⟩
    · obtain ⟨heard', r', rfl, sets, none, some⟩ := ih v rest
      refine ⟨heard', r', rfl, sets, fun silent => absurd (none silent).1 (Option.some_ne_none _),
        fun ρ told => .inr ?_⟩
      rcases some ρ told with before | ⟨k', t', v', mem, rfl⟩
      · obtain ⟨t', mem⟩ := control_mem inner
        exact ⟨k, t', v, .tail _ (List.mem_append_left _ mem), Option.some.inj before⟩
      · exact ⟨k', t', v', .tail _ (List.mem_append_right _ (.tail _ mem)), rfl⟩

end Board.Enacts

/-- A lower half that asks for the store has heard of no store. -/
lemma Reaction.Sets.eq_none {s : SessionId} {x : Setting}
    {r : Reaction σ x.command.operation.Answer} {heard : Option (Except DeviceError Unit)}
    {next : (x.storing s).Answer → Action σ x.command.operation.Answer} (sets : r.Sets s x heard)
    (asks : r.action = .ask (.call (x.storing s)) next) : heard = none := by
  cases sets with
  | fails | reports | own => cases asks
  | use leaves =>
    cases asks
    exact absurd rfl (leaves x).1
  | store => rfl

/-- What is left of a lower half that is done. -/
lemma Reaction.eq_done {r : Reaction σ α} {a : α} (h : r.action = .done a) : r = .done a := by
  cases r with
  | done b =>
    cases h
    rfl
  | ask u next =>
    cases u <;> cases h

/-! ## The steps of a command -/

namespace Pool

variable {B : Board σ} {P : Pool n σ α} {l : List (Fin n × Label σ)} {own : σ}
  {clients : Fin n → Reaction σ α} {i : Fin n} {s : SessionId} {h : LowerId} {k : Nat}
  {x x' : Setting} {t t' : Nat}

/-- A command of a party that began at a time looks at what is set, at another time, and is refused
for a reason or is not refused. -/
def LooksAt (l : List (Fin n × Label σ)) (s : SessionId) (i : Fin n) (k : Nat) (x : Setting)
    (t : Nat) (refusal : Option Refusal) : Prop :=
  ∃ S old, ⟨t, (k, x.request s) :: S, .acted (.control s x.look) old⟩ ∈ moments i l ∧
    x.refusedBy old = refusal

/-- The lower half stores on behalf of a command of a party that began at a time, with a result. -/
def StoresAt (l : List (Fin n × Label σ)) (s : SessionId) (h : LowerId) (i : Fin n) (k : Nat)
    (x : Setting) (t : Nat) (r : Except DeviceError Unit) : Prop :=
  ∃ k₂ k₁ S v, ⟨t, (k₂, x.storing s) :: (k₁, x.work h s) :: (k, x.request s) :: S,
    .acted (.control s x.store) v⟩ ∈ moments i l ∧ x.stored v = r

/-- A command of a party that began at a time ends with an answer. -/
def AnswersAt (l : List (Fin n × Label σ)) (s : SessionId) (i : Fin n) (k : Nat) (x : Setting)
    (t : Nat) (y : CommandAnswer) : Prop :=
  ∃ S w d, ⟨t, (k, x.request s) :: S, .returned (x.request s) w y d⟩ ∈ moments i l

/-- A command does not look again. -/
lemma Runs.looksAt_le (run : Runs B (start own clients) l P) {r r' : Option Refusal}
    (a : LooksAt l s i k x t r) (b : LooksAt l s i k x' t' r') : t' ≤ t := by
  by_contra late
  obtain ⟨S, old, first, -⟩ := a
  obtain ⟨S', old', second, -⟩ := b
  obtain ⟨T, q, enacts, makes, mem⟩ := run.segment second rfl
  obtain ⟨next, rfl⟩ := makes.of_acted
  have again := (mem _).mpr ⟨first, lt_time first (.head _), Nat.lt_of_not_le late⟩
  cases Board.Enacts.not_looked enacts _ again

lemma Runs.looksAt_unique (run : Runs B (start own clients) l P) {r r' : Option Refusal}
    (a : LooksAt l s i k x t r) (b : LooksAt l s i k x' t' r') : x = x' ∧ t = t' ∧ r = r' := by
  obtain rfl := Nat.le_antisymm (run.looksAt_le b a) (run.looksAt_le a b)
  obtain ⟨S, old, first, rfl⟩ := a
  obtain ⟨S', old', second, rfl⟩ := b
  obtain rfl := Setting.request_injective (calls_unique first second (R := []) (T := []) rfl rfl).1
  cases (eq_of_time first second rfl).2
  exact ⟨rfl, rfl, rfl⟩

section Storing

variable (run : Runs B (start own clients) l P) (sets : B.Sets s h)
  (lower : (P.world.profile s).lower = h)

include run

/-- A command that has its operation carried out has looked and was not refused, and it has made no
call before. -/
lemma Runs.of_calling {S : List (Nat × Call)} {g : LowerId}
    (m : ⟨t, (k, x.request s) :: S, .called (x.work g s)⟩ ∈ moments i l) :
    (∃ t₀ < t, LooksAt l s i k x t₀ none) ∧ ∀ e ∈ moments i l, k < e.time → e.time < t →
      e.calls = (k, x.request s) :: S ∧ ∃ a y, e.label = .acted a y := by
  obtain ⟨T, q, enacts, makes, mem⟩ := run.segment m rfl
  obtain ⟨next, rfl⟩ := makes.of_called
  obtain ⟨own, t₀, old, looked, admitted⟩ := Board.Enacts.of_calling enacts
  obtain ⟨there, -, early⟩ := (mem _).mp looked
  exact ⟨⟨t₀, early, S, old, there, admitted⟩,
    fun e he late early => own e ((mem e).mpr ⟨he, late, early⟩)⟩

/-- A command has its operation carried out once. -/
lemma Runs.calling_unique {S S' : List (Nat × Call)} {g g' : LowerId}
    (m : ⟨t, (k, x.request s) :: S, .called (x.work g s)⟩ ∈ moments i l)
    (m' : ⟨t', (k, x.request s) :: S', .called (x.work g' s)⟩ ∈ moments i l) : t = t' := by
  have late {t t' : Nat} {S S' : List (Nat × Call)} {g g' : LowerId}
      (m : ⟨t, (k, x.request s) :: S, .called (x.work g s)⟩ ∈ moments i l)
      (m' : ⟨t', (k, x.request s) :: S', .called (x.work g' s)⟩ ∈ moments i l) : t ≤ t' := by
    by_contra early
    obtain ⟨-, a, y, acts⟩ :=
      (run.of_calling m).2 _ m' (lt_time m' (.head _)) (Nat.lt_of_not_le early)
    cases acts
  exact Nat.le_antisymm (late m m') (late m' m)

include sets

/-- A lower half that begins to store has not stored before. -/
lemma Runs.of_storing {k₁ : Nat} {S : List (Nat × Call)}
    (m : ⟨t, (k₁, x.work h s) :: S, .called (x.storing s)⟩ ∈ moments i l) :
    ∀ e ∈ moments i l, k₁ < e.time → e.time < t →
      ∀ k₂, e.calls ≠ (k₂, x.storing s) :: (k₁, x.work h s) :: S := by
  obtain ⟨T, q, enacts, makes, mem⟩ := run.segment m rfl
  obtain ⟨next, rfl⟩ := makes.of_called
  obtain ⟨heard, r, asks, sets, none, -⟩ := Board.Enacts.of_sets (sets.lower x) enacts
  intro e he late early
  exact (none (sets.eq_none asks.symm)).2 e ((mem e).mpr ⟨he, late, early⟩)

/-- A command that stores has looked before and was not refused, and it has not stored before. -/
lemma Runs.of_storesAt {r : Except DeviceError Unit} (a : StoresAt l s h i k x t r) :
    (∃ t₀ < t, LooksAt l s i k x t₀ none) ∧
      ∀ x' t' r', StoresAt l s h i k x' t' r' → t ≤ t' := by
  obtain ⟨k₂, k₁, S, v, m, -⟩ := a
  have m₂ := mem_of_moment m (R := []) rfl
  have m₁ := mem_of_moment m (R := [_]) rfl
  have k₂_lt : k₂ < t := lt_time m (.head _)
  have k₁_lt : k₁ < k₂ := lt_time m₂ (.head _)
  obtain ⟨⟨t₀, early, looked⟩, own⟩ := run.of_calling m₁
  refine ⟨⟨t₀, early.trans (k₁_lt.trans k₂_lt), looked⟩, ?_⟩
  rintro x' t' r' ⟨k₂', k₁', S', v', m', -⟩
  obtain ⟨same, rfl⟩ := calls_unique m m' (R := [_, _]) (T := [_, _]) rfl rfl
  obtain rfl := Setting.request_injective same
  -- both stores are made in the same operation
  obtain rfl := run.calling_unique m₁ (mem_of_moment m' (R := [_]) rfl)
  by_contra early
  have k₁_lt' : k₁ < t' := lt_time m' (.tail _ (.head _))
  rcases Nat.lt_trichotomy t' k₂ with before | rfl | after
  · exact run.of_storing sets m₂ _ m' k₁_lt' before k₂' rfl
  · cases (eq_of_time m₂ m' rfl).2
  · obtain ⟨T, q, enacts, makes, mem⟩ := run.segment m rfl
    obtain ⟨next, rfl⟩ := makes.of_acted
    have there := (mem _).mpr ⟨m', after, Nat.lt_of_not_le early⟩
    cases Board.Enacts.of_control enacts _ there

lemma Runs.storesAt_unique {r r' : Except DeviceError Unit} (a : StoresAt l s h i k x t r)
    (b : StoresAt l s h i k x' t' r') : x = x' ∧ t = t' ∧ r = r' := by
  obtain rfl := Nat.le_antisymm ((run.of_storesAt sets a).2 _ _ _ b)
    ((run.of_storesAt sets b).2 _ _ _ a)
  obtain ⟨k₂, k₁, S, v, m, rfl⟩ := a
  obtain ⟨k₂', k₁', S', v', m', rfl⟩ := b
  obtain ⟨same, -⟩ := calls_unique m m' (R := [_, _]) (T := [_, _]) rfl rfl
  obtain rfl := Setting.request_injective same
  cases (eq_of_time m m' rfl).2
  exact ⟨rfl, rfl, rfl⟩

/-- A command that was refused does not store. -/
lemma Runs.not_storesAt_of_refused {ρ : Refusal} (a : LooksAt l s i k x t (some ρ))
    {r : Except DeviceError Unit} : ¬ StoresAt l s h i k x' t' r := by
  intro b
  obtain ⟨t₀, -, looked⟩ := (run.of_storesAt sets b).1
  cases (run.looksAt_unique a looked).2.2

include lower

/-- What became of a command that ended: it was refused and is denied, or the lower half stored and
the result of the store is reported, or the lower half did not store and reported an error of its
own. -/
theorem Runs.of_answersAt {y : CommandAnswer} (a : AnswersAt l s i k x t y) :
    ∃ t₀ refusal, LooksAt l s i k x t₀ refusal ∧ k < t₀ ∧ t₀ < t ∧
      ((∃ ρ, refusal = some ρ ∧ y = x.answer (.error ρ.error)) ∨
        (refusal = none ∧
          ((∃ t' r, StoresAt l s h i k x t' r ∧ t' < t ∧ y = x.answer r) ∨
            ((∀ x' t' r, ¬ StoresAt l s h i k x' t' r) ∧ ∃ e, y = x.answer (.error e))))) := by
  obtain ⟨S, w, d, m⟩ := a
  obtain ⟨T, q, enacts, makes, mem⟩ := run.segment m rfl
  obtain rfl := makes.of_returned
  obtain ⟨t₀, old, looked, outcome⟩ := Board.Enacts.of_answer enacts
  obtain ⟨looked, late, early⟩ := (mem _).mp looked
  refine ⟨t₀, x.refusedBy old, ⟨S, old, looked, rfl⟩, late, early, ?_⟩
  rcases outcome with refused | ⟨admitted, g, k₁, t₁, w₁, z, d₁, worked, rfl⟩
  · exact .inl refused
  refine .inr ⟨admitted, ?_⟩
  obtain ⟨worked, -, before⟩ := (mem _).mp worked
  have called := mem_of_moment worked (R := []) rfl
  obtain rfl : h = g :=
    lower.symm.trans (run.lower_of_operated (mem_of_mem_moments called)).2
  obtain ⟨T', q', enacts', makes', mem'⟩ := run.segment worked rfl
  obtain rfl := makes'.of_returned
  obtain ⟨heard, r, left, sets, none, some⟩ := Board.Enacts.of_sets (sets.lower x) enacts'
  obtain rfl := Reaction.eq_done left.symm
  cases sets with
  | @fails _ e told =>
    refine .inr ⟨?_, e, by rw [told]⟩
    rintro x' t' r ⟨k₂', k₁', S', v', m', -⟩
    obtain ⟨same, rfl⟩ := calls_unique m m' (R := []) (T := [_, _]) rfl rfl
    obtain rfl := Setting.request_injective same
    obtain rfl := run.calling_unique called (mem_of_moment m' (R := [_]) rfl)
    -- the store would have been made in the operation, before its end
    have inside : t' ≤ t₁ := le_of_returned worked m' rfl rfl (.tail _ (.head _))
    have k₁_lt : k₁ < t' := lt_time m' (.tail _ (.head _))
    rcases Nat.lt_or_eq_of_le inside with inside | rfl
    · exact (none rfl).2 _ ((mem' _).mpr ⟨m', k₁_lt, inside⟩) k₂' rfl
    · cases (eq_of_time worked m' rfl).2
  | @reports _ ρ told =>
    rcases some ρ rfl with before | ⟨k₂, t', v, stored, rfl⟩
    · cases before
    · obtain ⟨stored, -, inside⟩ := (mem' _).mp stored
      exact .inl ⟨t', _, ⟨k₂, k₁, S, v, stored, rfl⟩, inside.trans before, by rw [told]⟩

end Storing

end Pool

end LedDriver
