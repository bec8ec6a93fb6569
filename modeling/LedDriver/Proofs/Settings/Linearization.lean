import LedDriver.Proofs.Serial.Serializability
import LedDriver.Proofs.Settings.Deciding
import LedDriver.Proofs.Settings.Sequential

/-!
# Linearization of settings

Commands that set values read what is set at one time and store at another, and other commands may
come in between.  Each of them is nevertheless decided in a single step (`Pool.Decides`): in the
store, if it comes to a store, and otherwise in the step in which the upper half reads what is set.
Where a command that was refused or that failed is decided, what is set is not changed; where a
store is made, the store does what the command as a whole would do at that time.

So in every run the commands are carried out in the order of their deciding steps
(`Pool.Runs.decisions_of_part`), and all results and all that is set are those of a client alone
with the driver that issues the commands in this order (`Pool.settings_linearizable`).
-/

namespace LedDriver

variable {σ α : Type} {n : Nat}

/-- What became of a command that sets a value: the party that issued it, the time at which it
began, the time at which it was decided, the error with which the lower half failed on its own, if
it did, and the result. -/
structure Decision (n : Nat) where
  party : Fin n
  began : Nat
  setting : Setting
  decided : Nat
  failure : Option DeviceError
  result : Except DeviceError Unit

/-- The command as it was issued, with what the lower half was to do. -/
def Decision.issue (d : Decision n) : Setting × Option DeviceError := (d.setting, d.failure)

namespace Pool

variable {B : Board σ} {P Q R : Pool n σ α} {l l₁ l₂ : List (Fin n × Label σ)} {own : σ}
  {clients : Fin n → Reaction σ α} {i : Fin n} {s : SessionId} {h : LowerId} {k t t' : Nat}
  {x x' : Setting} {d d' : Decision n}

/-- A command is decided in the store, if it comes to a store, and otherwise in the step in which
the upper half reads what is set: it is refused, or the lower half fails. -/
inductive Decides (l : List (Fin n × Label σ)) (s : SessionId) (h : LowerId) : Decision n → Prop
  | stored {i : Fin n} {k t : Nat} {x : Setting} {r : Except DeviceError Unit}
    (stores : StoresAt l s h i k x t r) : Decides l s h ⟨i, k, x, t, none, r⟩
  | refused {i : Fin n} {k t : Nat} {x : Setting} {ρ : Refusal}
    (looks : LooksAt l s i k x t (some ρ)) : Decides l s h ⟨i, k, x, t, none, .error ρ.error⟩
  | failed {i : Fin n} {k t t' : Nat} {x : Setting} {e : DeviceError}
    (looks : LooksAt l s i k x t none) (answers : AnswersAt l s i k x t' (x.answer (.error e)))
    (never : ∀ x' t' r, ¬ StoresAt l s h i k x' t' r) :
    Decides l s h ⟨i, k, x, t, some e, .error e⟩

/-! ## One decision for each command -/

/-- A command ends once. -/
lemma answersAt_unique {y y' : CommandAnswer} (a : AnswersAt l s i k x t y)
    (b : AnswersAt l s i k x' t' y') : x = x' ∧ t = t' ∧ y = y' := by
  obtain ⟨S, w, ds, m⟩ := a
  obtain ⟨S', w', ds', m'⟩ := b
  obtain ⟨same, rfl⟩ := calls_unique m m' (R := []) (T := []) rfl rfl
  obtain rfl := Setting.request_injective same
  obtain rfl := Nat.le_antisymm (le_of_returned m' m rfl rfl (.head _))
    (le_of_returned m m' rfl rfl (.head _))
  cases (eq_of_time m m' rfl).2
  exact ⟨rfl, rfl, rfl⟩

/-- A command is decided in a step of its party, made on its behalf. -/
lemma Decides.exists_moment (a : Decides l s h d) : ∃ R S e,
    ⟨d.decided, R ++ (d.began, d.setting.request s) :: S, e⟩ ∈ moments d.party l ∧
      ((R = [] ∧ ∃ old, e = .acted (.control s d.setting.look) old) ∨
        (R.length = 2 ∧ ∃ v, e = .acted (.control s d.setting.store) v)) := by
  cases a with
  | stored stores =>
    obtain ⟨k₂, k₁, S, v, m, -⟩ := stores
    exact ⟨[_, _], S, _, m, .inr ⟨rfl, v, rfl⟩⟩
  | refused looks | failed looks =>
    obtain ⟨S, old, m, -⟩ := looks
    exact ⟨[], S, _, m, .inl ⟨rfl, old, rfl⟩⟩

section Storing

variable (run : Runs B (start own clients) l P) (sets : B.Sets s h)
  (lower : (P.world.profile s).lower = h)

include run sets

/-- A command has one decision. -/
lemma Runs.decision_unique {f f' : Option DeviceError} {r r' : Except DeviceError Unit}
    (a : Decides l s h ⟨i, k, x, t, f, r⟩) (b : Decides l s h ⟨i, k, x', t', f', r'⟩) :
    (⟨i, k, x, t, f, r⟩ : Decision n) = ⟨i, k, x', t', f', r'⟩ := by
  cases a with
  | stored stores =>
    cases b with
    | stored stores' =>
      obtain ⟨rfl, rfl, rfl⟩ := run.storesAt_unique sets stores stores'
      rfl
    | refused looks => exact absurd stores (run.not_storesAt_of_refused sets looks)
    | failed _ _ never => exact absurd stores (never _ _ _)
  | refused looks =>
    cases b with
    | stored stores => exact absurd stores (run.not_storesAt_of_refused sets looks)
    | refused looks' =>
      obtain ⟨rfl, rfl, same⟩ := run.looksAt_unique looks looks'
      cases same
      rfl
    | failed looks' => cases (run.looksAt_unique looks looks').2.2
  | failed looks answers never =>
    cases b with
    | stored stores => exact absurd stores (never _ _ _)
    | refused looks' => cases (run.looksAt_unique looks looks').2.2
    | failed looks' answers' =>
      obtain ⟨rfl, rfl, -⟩ := run.looksAt_unique looks looks'
      cases (answersAt_unique answers answers').2.2
      rfl

/-- A step decides one command. -/
lemma Runs.decision_unique_of_decided (a : Decides l s h d) (b : Decides l s h d')
    (decided : d.decided = d'.decided) : d = d' := by
  have apart (x y : Setting) : x.look ≠ y.store := by
    rcases x <;> rcases y <;> nofun
  obtain ⟨R, S, e, m, kind⟩ := a.exists_moment
  obtain ⟨R', S', e', m', kind'⟩ := b.exists_moment
  obtain ⟨party, same⟩ := eq_of_time m m' decided
  injection same with _ calls label
  have began : d.began = d'.began := by
    rcases kind with ⟨rfl, old, rfl⟩ | ⟨length, v, rfl⟩ <;>
      rcases kind' with ⟨rfl, old', rfl⟩ | ⟨length', v', rfl⟩
    · exact congrArg Prod.fst (List.cons.inj calls).1
    · injection label with same
      injection same with _ same
      exact absurd same (apart _ _)
    · injection label with same
      injection same with _ same
      exact absurd same.symm (apart _ _)
    · have tops := (List.append_inj calls (length.trans length'.symm)).2
      exact congrArg Prod.fst (List.cons.inj tops).1
  obtain ⟨i, k, x, t, f, r⟩ := d
  obtain ⟨i', k', x', t', f', r'⟩ := d'
  obtain rfl : i = i' := party
  obtain rfl : k = k' := began
  exact run.decision_unique sets a b

include lower

/-- A command that ended was decided, while it was in progress, and its answer is the decision's
result. -/
lemma Runs.exists_decision {y : CommandAnswer} (a : AnswersAt l s i k x t y) :
    ∃ u f r, Decides l s h ⟨i, k, x, u, f, r⟩ ∧ y = x.answer r ∧ k < u ∧ u < t := by
  obtain ⟨u, refusal, looks, late, early, outcome⟩ := run.of_answersAt sets lower a
  rcases outcome with ⟨ρ, rfl, rfl⟩ | ⟨rfl, ⟨u', r, stores, before, rfl⟩ | ⟨never, e, rfl⟩⟩
  · exact ⟨u, none, _, .refused looks, rfl, late, early⟩
  · refine ⟨u', none, r, .stored stores, rfl, ?_, before⟩
    obtain ⟨k₂, k₁, S, v, m, -⟩ := stores
    exact lt_time m (.tail _ (.tail _ (.head _)))
  · exact ⟨u, some e, _, .failed looks a never, rfl, late, early⟩

end Storing

/-! ## What a step does -/

/-- What is set in a session. -/
def settings (P : Pool n σ α) (s : SessionId) : Settings := (P.world.block s).settings

/-- What a party does at the time of a step is that step. -/
lemma eq_of_moment {j : Fin n} {e e' : Label σ} {C : List (Nat × Call)}
    (m : (⟨l₁.length, C, e'⟩ : Moment σ) ∈ moments j (l₁ ++ (i, e) :: l₂)) : e' = e := by
  have here : moment i l₁ e ∈ moments i (l₁ ++ (i, e) :: l₂) :=
    mem_moments_iff.mpr ⟨l₁, l₂, e, rfl, rfl⟩
  exact congrArg Moment.label (eq_of_time m here rfl).2

section Storing

variable {e : Label σ} (run : Runs B (start own clients) l P) (whole : l = l₁ ++ (i, e) :: l₂)
  (sets : B.Sets s h)
  (lower : (P.world.profile s).lower = h)
  (keep : ∀ i, (clients i).Only (Use.Within (Service.LeavesSettings s)))
  (before : Runs B (start own clients) l₁ Q) (step : Step B Q (i, e) R)

include run whole sets step

/-- In its deciding step a command does all that it does. -/
lemma Runs.carryOut_of_decided (a : Decides l s h d) (now : d.decided = l₁.length) :
    d.setting.carryOut d.failure (Q.settings s) = (d.result, R.settings s) := by
  subst whole
  cases a with
  | @stored j k t x r stores =>
    obtain rfl : t = l₁.length := now
    obtain ⟨t₀, -, S, old, -, admitted⟩ := (run.of_storesAt sets stores).1
    obtain ⟨k₂, k₁, S, v, m, rfl⟩ := stores
    obtain rfl := eq_of_moment m
    obtain ⟨rfl, left⟩ := step.performs.of_control
    have after : R.settings s = (x.store.apply (Q.world.block s)).2.settings :=
      congrArg ControlBlock.settings left
    rw [after]
    exact Setting.carryOut_of_inRange (Setting.inRange_of_refusedBy admitted) _
  | @refused j k t x ρ looks =>
    obtain rfl : t = l₁.length := now
    obtain ⟨S, old, m, refused⟩ := looks
    obtain rfl := eq_of_moment m
    obtain ⟨rfl, left⟩ := step.performs.of_control
    obtain ⟨read, kept⟩ := x.look_apply (Q.world.block s)
    have refused : (Q.settings s).refusal? x = some ρ := read.symm.trans refused
    have same : R.settings s = Q.settings s := congrArg ControlBlock.settings (left.trans kept)
    rw [same, Setting.error_of_refusal? refused]
    exact Setting.carryOut_of_refusal? refused
  | @failed j k t t' x e looks =>
    obtain rfl : t = l₁.length := now
    obtain ⟨S, old, m, admitted⟩ := looks
    obtain rfl := eq_of_moment m
    obtain ⟨rfl, left⟩ := step.performs.of_control
    obtain ⟨read, kept⟩ := x.look_apply (Q.world.block s)
    have admitted : (Q.settings s).refusal? x = none := read.symm.trans admitted
    have same : R.settings s = Q.settings s := congrArg ControlBlock.settings (left.trans kept)
    rw [same]
    exact Setting.carryOut_of_failure admitted

include lower keep before

/-- A step that decides no command leaves what is set as it is. -/
lemma Runs.settings_of_undecided (none : ∀ d, Decides l s h d → d.decided ≠ l₁.length) :
    R.settings s = Q.settings s := by
  rcases step.world_eq with ⟨a, v, rfl, performs⟩ | ⟨-, same⟩
  · by_cases used : ∃ m, a = .control s m
    · obtain ⟨m, rfl⟩ := used
      obtain ⟨-, left⟩ := performs.of_control
      refine (congrArg ControlBlock.settings left).trans (Setting.settings_apply ?_ _)
      rintro x rfl
      -- a store would decide the command for which it is made
      have here : moment i l₁ (.acted (.control s x.store) v) ∈ moments i l :=
        mem_moments_iff.mpr ⟨l₁, l₂, _, whole, rfl⟩
      obtain ⟨k₂, k₁, k, S, calls⟩ := run.calls_of_store sets lower keep here rfl
      have stores : StoresAt l s h i k x l₁.length (x.stored v) := by
        refine ⟨k₂, k₁, S, v, ?_, rfl⟩
        rw [← calls]
        exact here
      exact none _ (.stored stores) rfl
    · exact congrArg ControlBlock.settings
        (performs.block_eq before.blank fun m same => used ⟨m, same⟩)
  · exact congrArg (fun w => (World.block w s).settings) same

end Storing

section Storing

variable (run : Runs B (start own clients) l P) (sets : B.Sets s h)
  (lower : (P.world.profile s).lower = h)
  (keep : ∀ i, (clients i).Only (Use.Within (Service.LeavesSettings s)))

include run sets lower keep

/-- At every time of a run, the commands decided so far have led to what is set, in the order in
which they were decided. -/
lemma Runs.decisions_of_part (before : Runs B (start own clients) l₁ Q) (whole : l = l₁ ++ l₂) :
    ∃ es : List (Decision n), es.Pairwise (fun d d' => d.decided < d'.decided) ∧
      (∀ d, d ∈ es ↔ Decides l s h d ∧ d.decided < l₁.length) ∧
      Setting.inOrder (es.map Decision.issue) ControlBlock.initial.settings =
        (es.map Decision.result, Q.settings s) := by
  induction before generalizing l₂ with
  | refl => exact ⟨[], .nil, by simp, rfl⟩
  | @tail Q R l₁ x before step ih =>
    obtain ⟨i, e⟩ := x
    rw [List.append_assoc] at whole
    obtain ⟨es, sorted, mem, order⟩ := ih whole
    have length : (l₁ ++ [(i, e)]).length = l₁.length + 1 := List.length_append
    by_cases decided : ∃ d, Decides l s h d ∧ d.decided = l₁.length
    · obtain ⟨d, decides, now⟩ := decided
      have done := run.carryOut_of_decided whole sets step decides now
      refine ⟨es ++ [d], ?_, fun d' => ?_, ?_⟩
      · rw [List.pairwise_append]
        refine ⟨sorted, List.pairwise_singleton .., fun d' hd' e' he' => ?_⟩
        rw [List.mem_singleton.mp he', now]
        exact ((mem d').mp hd').2
      · rw [List.mem_append, List.mem_singleton, mem, length]
        constructor
        · rintro (⟨decides', early⟩ | rfl)
          · exact ⟨decides', Nat.lt_succ_of_lt early⟩
          · exact ⟨decides, now ▸ Nat.lt_succ_self _⟩
        · rintro ⟨decides', early⟩
          rcases Nat.lt_or_eq_of_le (Nat.le_of_lt_succ early) with early | late
          · exact .inl ⟨decides', early⟩
          · exact .inr (run.decision_unique_of_decided sets decides' decides (late.trans now.symm))
      · rw [List.map_append, List.map_append, List.map_singleton, List.map_singleton]
        have last := Setting.inOrder_snoc (es.map Decision.issue) d.setting d.failure
          ControlBlock.initial.settings
        rw [order, done] at last
        exact last
    · have none (d : Decision n) (decides : Decides l s h d) : d.decided ≠ l₁.length :=
        fun now => decided ⟨d, decides, now⟩
      refine ⟨es, sorted, fun d => ?_, ?_⟩
      · rw [mem, length]
        constructor
        · exact fun ⟨decides, early⟩ => ⟨decides, Nat.lt_succ_of_lt early⟩
        · exact fun ⟨decides, early⟩ =>
            ⟨decides, Nat.lt_of_le_of_ne (Nat.le_of_lt_succ early) (none d decides)⟩
      · rw [order, run.settings_of_undecided whole sets lower keep before step none]

end Storing

/-- A run in which the commands that set values in a session have gone as if each had been carried
out, as a single action, in its deciding step. -/
structure Linearizes (P : Pool n σ α) (l : List (Fin n × Label σ)) (s : SessionId) (h : LowerId)
    (es : List (Decision n)) : Prop where
  /-- These are the commands that were decided, -/
  decides : ∀ d, d ∈ es ↔ Decides l s h d
  /-- in the order in which they were decided, -/
  sorted : es.Pairwise fun d d' => d.decided < d'.decided
  /-- and each of them was decided once. -/
  once : es.Pairwise fun d d' => ¬ (d.party = d'.party ∧ d.began = d'.began)
  /-- A command that began has ended, or it is in progress and its party is not idle. -/
  issued : ∀ {i k x S}, ⟨k, S, .called (x.request s)⟩ ∈ moments i l →
    ((k, x.request s) ∈ calls i l ∧ (P.parties i).owner ≠ none) ∨ ∃ t y, AnswersAt l s i k x t y
  /-- A client that received an answer issued the command at some time. -/
  ended : ∀ {i w x y ds}, (i, .returned (Setting.request s x) w y ds) ∈ l →
    ∃ k t, AnswersAt l s i k x t y
  /-- A command that ended was decided while it was in progress, and its answer is the result. -/
  answers : ∀ {i k x t y}, AnswersAt l s i k x t y → ∃ d ∈ es, d.party = i ∧ d.began = k ∧
    d.setting = x ∧ y = x.answer d.result ∧ k < d.decided ∧ d.decided < t
  /-- A client alone with the driver, with a new session, that issues the commands in this order
  receives the same answers, and leaves the same set. -/
  alone : ∀ (w : World (Option DeviceError)) (depth : Nat), s < w.issued →
    w.control s = SpinLock.free ControlBlock.initial → ∃ v calls,
      Board.storing.run (depth + 3) (Setting.inTurn s (es.map Decision.issue)).action w =
        .ok ⟨es.map fun d => d.setting.answer d.result, v, calls⟩ ∧
      (v.block s).settings = P.settings s
  /-- A command that sets a lock and succeeds is the last of its kind that succeeds, -/
  last : es.Pairwise fun d d' => d.setting.locks = true → d.result = .ok () →
    d'.setting.latch = d.setting.latch → d'.result = .error .permissionDenied
  /-- and what it sets stays. -/
  final : ∀ d ∈ es, d.setting.locks = true → d.result = .ok () →
    (P.settings s).get d.setting.latch = d.setting

/-- Where the lower half of a session stores what it is told to, or fails with an error of its own,
and nothing else stores, the commands that set values are linearizable: all results and all that is
set are as if each command had been carried out, as a single action, in its deciding step. -/
theorem settings_linearizable (run : Runs B (start own clients) l P) (sets : B.Sets s h)
    (lower : (P.world.profile s).lower = h)
    (keep : ∀ i, (clients i).Only (Use.Within (Service.LeavesSettings s))) :
    ∃ es : List (Decision n), Linearizes P l s h es := by
  obtain ⟨es, sorted, mem, order⟩ :=
    run.decisions_of_part sets lower keep run (List.append_nil l).symm
  have decides (d : Decision n) : d ∈ es ↔ Decides l s h d := by
    rw [mem]
    refine ⟨And.left, fun a => ⟨a, ?_⟩⟩
    obtain ⟨R, S, e, m, -⟩ := a.exists_moment
    exact time_lt m
  obtain ⟨last, final⟩ := Setting.locked_inOrder order
  refine ⟨es, decides, sorted, ?_, ?_, ?_, ?_, ?_, last, final⟩
  · refine sorted.imp_of_mem fun {d d'} hd hd' early same => ?_
    obtain ⟨i, k, x, t, f, r⟩ := d
    obtain ⟨i', k', x', t', f', r'⟩ := d'
    obtain ⟨rfl, rfl⟩ : i = i' ∧ k = k' := same
    have unique := run.decision_unique sets ((decides _).mp hd) ((decides _).mp hd')
    exact absurd (congrArg Decision.decided unique) (Nat.ne_of_lt early)
  · intro i k x S called
    rcases run.returned_of_called called with progress | ⟨t, w, y, ds, m⟩
    · refine .inl ⟨progress, fun idle => ?_⟩
      rw [run.calls_of_owner idle] at progress
      cases progress
    · exact .inr ⟨t, y, S, w, ds, m⟩
  · intro i w x y ds he
    obtain ⟨k, t, S, m⟩ := run.exists_of_returned he
    exact ⟨k, t, S, w, ds, m⟩
  · intro i k x t y a
    obtain ⟨u, f, r, decided, answer, late, early⟩ := run.exists_decision sets lower a
    exact ⟨_, (decides _).mpr decided, rfl, rfl, rfl, answer, late, early⟩
  · intro w depth created free
    obtain ⟨v, c, calls, done, free', set⟩ :=
      Board.run_storing_inTurn depth (es.map Decision.issue) created free
    rw [order] at done set
    refine ⟨v, calls, ?_, ?_⟩
    · rw [done, List.zip_map', List.map_map]
      rfl
    · rw [World.block, free']
      exact set

end Pool

/-- A lower half that locks the parameters before it stores limits, and that fails to store
parameters that are not to be locked. -/
def LowerHalf.nesting : LowerHalf Unit where
  provided := pure Flags.all
  operate s
    | .limitsSet, l => do
      let _ ← (Service.command s (.setParams ⟨.zero, .zero, .zero, true⟩)).use
      (Service.control s (.storeLimits l)).use
    | .paramsSet, p =>
      if p.lock then (Service.control s (.storeParams p)).use else pure (.error .io)
    | o, args => pure (o.succeeded args)
  discard := pure ()

/-- A board with such a lower half. -/
def Board.nesting : Board Unit :=
  { Board.obedient (pure (.ok ())) with lower := fun _ => LowerHalf.nesting }

/-- A command sets nothing but by its operation. -/
lemma Service.command_leavesSettings (s t : SessionId) (c : Command) :
    (Service.command t c).LeavesSettings s := fun _ => ⟨nofun, nofun⟩

lemma Board.nesting_sets : Board.nesting.Sets 0 0 where
  lower x := by
    cases x with
    | limits new =>
      exact .use (Service.command_leavesSettings _ _ _) fun _ =>
        .store (x := .limits new) fun _ => .reports rfl
    | params new =>
      have sets : (if new.lock then (Service.control 0 (.storeParams new)).use
          else pure (.error .io) : Reaction Unit _).Sets 0 (.params new) none := by
        split
        · exact .store (x := .params new) fun _ => .reports rfl
        · exact .fails rfl
      exact sets
  others c other := by
    cases c with
    | operate k g t o args =>
      have elsewhere (m : ControlMethod) (ht : t ≠ 0) : (Service.control t m).LeavesSettings 0 :=
        fun _ => ⟨fun same => ht (Service.control.inj same).1, nofun⟩
      cases o with
      | limitsSet =>
        have ht : t ≠ 0 := fun here => other k g (.limits args) (here ▸ rfl)
        exact ⟨Service.command_leavesSettings _ _ _, fun _ => ⟨elsewhere _ ht, fun _ => trivial⟩⟩
      | paramsSet =>
        have ht : t ≠ 0 := fun here => other k g (.params args) (here ▸ rfl)
        have leaves : (if args.lock then (Service.control t (.storeParams args)).use
            else pure (.error .io) : Reaction Unit _).Only
              (Use.Within (Service.LeavesSettings 0)) := by
          split
          · exact ⟨elsewhere _ ht, fun _ => trivial⟩
          · trivial
        exact leaves
      | _ => trivial
    | _ => trivial

/-- The answer to a command, and the party that received it. -/
structure Receipt (n : Nat) where
  party : Fin n
  command : Command
  result : Except DeviceError UInt64
deriving DecidableEq

namespace Pool

/-- The answers to commands in a run. -/
def receipts (l : List (Fin n × Label σ)) : List (Receipt n) :=
  l.filterMap fun e => match e.2 with
    | .returned (.service (.command _ _)) _ y _ => some ⟨e.1, y.command, y.result⟩
    | _ => none

/-- Two clients that set and lock the limits of a device.  The first of them has registered the
device, and tries to set its parameters. -/
def setters : Fin 2 → Reaction Unit Unit
  | 0 => Service.inTurn [.register ⟨"/dev/led", 0, 0, Config.default, none⟩,
      .command 0 (.setParams ⟨.zero, .zero, .zero, false⟩), .command 0 (.setLimits ⟨.zero, true⟩)]
  | 1 => Service.inTurn [.command 0 (.setLimits ⟨⟨0x3F800000⟩, true⟩)]

/-- Both clients are admitted before either of them stores, and set the parameters inside the
operation that sets the limits.  The second client is first to store, and its limits stay; before
that the lower half failed once on its own. -/
theorem settings_linearizable_nesting :
    ∃ (l : List (Fin 2 × Label Unit)) (P : Pool 2 Unit Unit) (es : List (Decision 2)),
      Runs .nesting (start () setters) l P ∧ P.Idle ∧ Linearizes P l 0 0 es ∧
        receipts l = [⟨0, .setParams ⟨.zero, .zero, .zero, false⟩, .error .io⟩,
          ⟨1, .setParams ⟨.zero, .zero, .zero, true⟩, .ok 0⟩,
          ⟨1, .setLimits ⟨⟨0x3F800000⟩, true⟩, .ok 0⟩,
          ⟨0, .setParams ⟨.zero, .zero, .zero, true⟩, .error .permissionDenied⟩,
          ⟨0, .setLimits ⟨.zero, true⟩, .error .permissionDenied⟩] ∧
        (P.settings 0).limits = ⟨⟨0x3F800000⟩, true⟩ := by
  have played : ((start () setters : Pool 2 Unit Unit).play .nesting
      (.replicate 24 0 ++ .replicate 26 1 ++ .replicate 18 0)).map (fun x => (receipts x.1,
        (x.2.settings 0).limits, (x.2.world.profile 0).lower, (x.2.parties 0).owner.isNone,
        (x.2.parties 1).owner.isNone)) =
      some ([⟨0, .setParams ⟨.zero, .zero, .zero, false⟩, .error .io⟩,
          ⟨1, .setParams ⟨.zero, .zero, .zero, true⟩, .ok 0⟩,
          ⟨1, .setLimits ⟨⟨0x3F800000⟩, true⟩, .ok 0⟩,
          ⟨0, .setParams ⟨.zero, .zero, .zero, true⟩, .error .permissionDenied⟩,
          ⟨0, .setLimits ⟨.zero, true⟩, .error .permissionDenied⟩],
        ⟨⟨0x3F800000⟩, true⟩, 0, true, true) := by decide +kernel
  obtain ⟨⟨l, P⟩, play, facts⟩ := Option.map_eq_some_iff.mp played
  have run := runs_of_play play
  simp only [Prod.mk.injEq, Option.isNone_iff_eq_none] at facts
  obtain ⟨answers, limits, lower, idle₀, idle₁⟩ := facts
  have idle : P.Idle := fun i => match i with
    | 0 => idle₀
    | 1 => idle₁
  have register (r : RegistrationRequest) : (Service.register r).LeavesSettings 0 :=
    fun _ => ⟨nofun, nofun⟩
  have keep (i : Fin 2) : (setters i).Only (Use.Within (σ := Unit) (Service.LeavesSettings 0)) :=
    match i with
    | 0 => ⟨register _, fun _ => ⟨Service.command_leavesSettings _ _ _,
        fun _ => ⟨Service.command_leavesSettings _ _ _, fun _ => trivial⟩⟩⟩
    | 1 => ⟨Service.command_leavesSettings _ _ _, fun _ => trivial⟩
  obtain ⟨es, linear⟩ := settings_linearizable run Board.nesting_sets lower keep
  exact ⟨l, P, es, run, idle, linear, answers, limits⟩

end Pool

end LedDriver
