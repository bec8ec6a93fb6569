import Mathlib.Algebra.Order.Group.Nat
import LedDriver.Proofs.Registration.Record
import LedDriver.Proofs.Registration.Table
import LedDriver.Proofs.Serial.Serializability
import LedDriver.Proofs.System.Services

/-!
# The history of the device table

In a run in which devices are published by registration alone, the device table is what became of
the entries that were put to it (`Pool.Runs.table_eq`), and these are the entries of the
registrations that passed the checks (`Pool.Runs.mem_attempts_iff`).  No session is put to the table
twice (`Pool.Runs.attempts_nodup`), since a registration creates the session that it puts to the
table and puts it there once.

So the first registration at a path that passes the checks has the path for good, and all others are
refused (`Pool.table_history`).
-/

namespace LedDriver

variable {σ α : Type} {n : Nat}

/-! ## The table as the atoms leave it -/

/-- A method other than an insertion leaves the table as it is. -/
lemma TableMethod.apply_of_read {ν : Type} {m : TableMethod ν} (h : ∀ e, m ≠ .insert e)
    (t : DeviceTable ν) : (m.apply t).2 = t := by
  cases m with
  | insert e => exact absurd rfl (h e)
  | lookup | mode | paths | size | isEmpty => rfl

namespace Atom.Performs

variable {w w' : World σ} {a : Atom σ} {x : a.Answer}

/-- The use of the device table answers what the method says, and leaves the world but for what the
method leaves of the table. -/
lemma of_table {m : TableMethod SessionId} {x : m.Answer} (h : (Atom.table m).Performs w x w') :
    x = (m.apply w.table.value).1 ∧
      w' = { w with table := w.table.store (m.apply w.table.value).2 } := by
  cases h with
  | effect h =>
    obtain ⟨-, h⟩ := apply_eq_ok_iff.mp h
    cases h
    exact ⟨rfl, rfl⟩

/-- An atom that does not use the device table leaves it as it is. -/
lemma table_eq (h : a.Performs w x w') (ha : ∀ m, a ≠ .table m) :
    w'.table.value = w.table.value := by
  cases h with
  | spurious => rfl
  | effect h =>
    obtain ⟨-, h⟩ := apply_eq_ok_iff.mp h
    cases a with
    | table m => exact absurd rfl (ha m)
    | acquire l =>
      cases l <;> simp only [Atom.effect] at h <;> split at h <;> cases h
      · rfl
      · next t ht =>
        obtain ⟨-, rfl⟩ := SpinLock.acquire?_eq_some_iff.mp ht
        rfl
    | release l => cases l <;> cases h <;> rfl
    | exchange g seen =>
      simp only [Atom.effect] at h
      split at h <;> cases h <;> rfl
    | control | permits | post | count | setCount | profile | create | own =>
      cases h
      rfl

/-- A session has the number that is issued next. -/
lemma create_issued {p : Profile} {s : SessionId} (h : (Atom.create p).Performs w s w') :
    s = w.issued ∧ w'.issued = w.issued + 1 := by
  cases h with
  | effect h =>
    obtain ⟨-, h⟩ := apply_eq_ok_iff.mp h
    cases h
    exact ⟨rfl, rfl⟩

/-- The entry of a path stays. -/
lemma entryAt?_kept (h : a.Performs w x w') {p : String} {e : DeviceEntry SessionId}
    (taken : w.table.value.entryAt? p = some e) : w'.table.value.entryAt? p = some e := by
  by_cases table : ∃ m, a = .table m
  · obtain ⟨m, rfl⟩ := table
    obtain ⟨-, rfl⟩ := h.of_table
    by_cases insertion : ∃ d, m = .insert d
    · obtain ⟨d, rfl⟩ := insertion
      have kept : DeviceTable.entryAt? (w.table.value.insert d).2 p = some e := by
        rw [DeviceTable.entryAt?_insert, taken]
        rfl
      exact kept
    · have same := TableMethod.apply_of_read (fun d hd => insertion ⟨d, hd⟩) w.table.value
      rw [SpinLock.value_store, same]
      exact taken
  · rw [h.table_eq fun m hm => table ⟨m, hm⟩]
    exact taken

/-- An entry is turned away if its path is taken, and nothing is changed; otherwise its path is
taken from now on. -/
lemma of_insert {e : DeviceEntry SessionId} {y : Except DeviceError Unit}
    (h : (Atom.table (.insert e)).Performs w y w') :
    (∃ d, w.table.value.entryAt? e.path = some d ∧ y = .error .alreadyExists ∧ w' = w) ∨
      (w.table.value.entryAt? e.path = none ∧ y = .ok () ∧
        w'.table.value.entryAt? e.path = some e) := by
  obtain ⟨rfl, rfl⟩ := h.of_table
  cases taken : w.table.value.entryAt? e.path with
  | some d =>
    have away : TableMethod.apply (.insert e) w.table.value =
        (.error .alreadyExists, w.table.value) :=
      DeviceTable.insert_of_taken (by rw [taken]; rfl)
    rw [away]
    exact .inl ⟨d, rfl, rfl, rfl⟩
  | none =>
    have after : DeviceTable.entryAt? (w.table.value.insert e).2 e.path = some e := by
      rw [DeviceTable.entryAt?_insert, taken]
      simp
    exact .inr ⟨rfl, (DeviceTable.insert_of_free taken).1, after⟩

end Atom.Performs

/-! ## What was put to the table -/

/-- The entry that a deed puts to the device table. -/
def Deed.attempt? : Deed σ → Option (DeviceEntry SessionId)
  | .acted (.table (.insert e)) _ => some e
  | _ => none

lemma Deed.attempt?_eq_some_iff {x : Deed σ} {e : DeviceEntry SessionId} :
    x.attempt? = some e ↔ ∃ y, x = .acted (.table (.insert e)) y := by
  constructor
  · intro h
    unfold attempt? at h
    split at h
    · cases h
      exact ⟨_, rfl⟩
    · cases h
  · rintro ⟨y, rfl⟩
    rfl

/-- A deed puts a session to the device table. -/
def Deed.puts (s : SessionId) (x : Deed σ) : Bool := x.attempt?.any fun e => e.node == s

/-- A deed creates a session. -/
def Deed.creates (s : SessionId) : Deed σ → Bool
  | .acted (.create _) u => u == s
  | _ => false

/-- A service leaves it to registration to put something to the device table. -/
def Service.LeavesTable : Service → Prop
  | .table (.insert _) => False
  | _ => True

/-- A call that uses the device table is a registration, or reads the table. -/
lemma Call.attempt_of_asks {c : Call} {e : DeviceEntry SessionId}
    (h : c.Asks (.atom (.table (.insert e)) : Request σ))
    (leaves : ∀ d, c = .service d → d.LeavesTable) : ∃ r, c = .service (.register r) := by
  cases h
  case register_insert r s => exact ⟨r, rfl⟩
  case table_use => exact (leaves _ rfl).elim

/-- A call puts a session to the table at most once, and only if it created the session. -/
lemma Board.countP_puts_le {B : Board σ} {c : Call} {d : List (Deed σ)} {q : Action σ c.Answer}
    (h : Follows (B.program c) d q) (leaves : ∀ d, c = .service d → d.LeavesTable)
    (s : SessionId) : d.countP (Deed.puts s) ≤ d.countP (Deed.creates s) := by
  by_cases none : d.countP (Deed.puts s) = 0
  · exact none ▸ Nat.zero_le _
  obtain ⟨x, mem, puts⟩ := List.countP_pos_iff.mp (Nat.pos_of_ne_zero none)
  obtain ⟨e, he, node⟩ := (Option.any_eq_true ..).mp puts
  obtain ⟨y, rfl⟩ := Deed.attempt?_eq_some_iff.mp he
  obtain ⟨r, rfl⟩ := Call.attempt_of_asks (h.asked (B.program_asks c) _ mem) leaves
  obtain ⟨-, -, u, own, created, once⟩ := Registration.attempt_unique h mem
  cases own
  obtain rfl : u = s := by simpa [RegistrationRequest.entry] using node
  have most : d.countP (Deed.puts u) ≤ 1 := by
    refine once _ fun x hx => ?_
    obtain ⟨e, he, -⟩ := (Option.any_eq_true ..).mp hx
    obtain ⟨y, rfl⟩ := Deed.attempt?_eq_some_iff.mp he
    exact ⟨_, y, rfl⟩
  have least : 1 ≤ d.countP (Deed.creates u) :=
    List.countP_pos_iff.mpr ⟨_, created, by simp [Deed.creates]⟩
  exact most.trans least

namespace Pool

variable {B : Board σ} {P Q : Pool n σ α} {l l' : List (Fin n × Label σ)} {own : σ}
  {clients : Fin n → Reaction σ α}

/-- The entries that were put to the device table, one after the other. -/
def attempts (l : List (Fin n × Label σ)) : List (DeviceEntry SessionId) :=
  (performed l).filterMap Deed.attempt?

lemma attempts_append : attempts (l ++ l') = attempts l ++ attempts l' := by
  simp [attempts, performed]

/-- The deeds of a call that ended, or that is in progress. -/
def Recorded (l : List (Fin n × Label σ)) (P : Pool n σ α) (c : Call) (d : List (Deed σ)) : Prop :=
  (∃ i w x, (i, .returned c w x d) ∈ l) ∨
    ∃ i, ∃ f ∈ (P.parties i).frames, f.owner = some c ∧ f.past = d

/-- A registration in the device table that passed the checks has put a session to the table.  It
has ended since, or it is in progress. -/
def Put (l : List (Fin n × Label σ)) (P : Pool n σ α) (r : RegistrationRequest) (s : SessionId) :
    Prop :=
  r.registry = none ∧ ∃ d, Recorded l P (.service (.register r)) d ∧
    Registration.Validated r d ∧ ∃ y, .acted (.table (.insert (r.entry s))) y ∈ d

/-- The table is what became of the entries that were put to it. -/
theorem Runs.table_eq (run : Runs B (start own clients) l P) :
    P.world.table.value = DeviceTable.ofAttempts (attempts l) := by
  induction run with
  | refl => rfl
  | @tail Q R l e run step ih =>
    obtain ⟨i, e⟩ := e
    have last : attempts (l ++ [(i, e)]) = attempts l ++ e.performed.filterMap Deed.attempt? := by
      simp [attempts, performed]
    rw [last]
    rcases step.world_eq with ⟨a, x, rfl, ha⟩ | ⟨other, same⟩
    · by_cases insertion : ∃ d, a = .table (.insert d)
      · obtain ⟨d, rfl⟩ := insertion
        obtain ⟨-, after⟩ := ha.of_table
        rw [after, ih]
        exact DeviceTable.ofAttempts_snoc.symm
      · have nothing : (Label.acted a x).performed.filterMap Deed.attempt? = [] := by
          refine List.filterMap_eq_nil_iff.mpr fun y hy => ?_
          obtain rfl := List.mem_singleton.mp hy
          refine Option.eq_none_iff_forall_ne_some.mpr fun d hd => ?_
          obtain ⟨_, hd⟩ := Deed.attempt?_eq_some_iff.mp hd
          cases hd
          exact insertion ⟨d, rfl⟩
        rw [nothing, List.append_nil, ← ih]
        by_cases table : ∃ m, a = .table m
        · obtain ⟨m, rfl⟩ := table
          obtain ⟨-, after⟩ := ha.of_table
          rw [after]
          exact TableMethod.apply_of_read (fun d hd => insertion ⟨d, by rw [hd]⟩) _
        · exact ha.table_eq fun m hm => table ⟨m, hm⟩
    · have nothing : e.performed = [] := by
        cases e with
        | acted a x => exact absurd rfl (other a x)
        | called | returned => rfl
      rw [nothing, same, ih]
      simp

/-- The entry of a path stays. -/
lemma Runs.entryAt?_kept (run : Runs B P l Q) {p : String} {e : DeviceEntry SessionId}
    (taken : P.world.table.value.entryAt? p = some e) :
    Q.world.table.value.entryAt? p = some e := by
  refine run.preserves (I := fun P => P.world.table.value.entryAt? p = some e) ?_ taken
  rintro Q ⟨i, label⟩ R step hQ
  rcases step.world_eq with ⟨a, x, -, ha⟩ | ⟨-, same⟩
  · exact ha.entryAt?_kept hQ
  · rw [same]
    exact hQ

/-- An atom that was performed is a deed of a call that ended or of a program in progress. -/
lemma Runs.mem_performed_iff (run : Runs B (start own clients) l P) {a : Atom σ} {x : a.Answer} :
    .acted a x ∈ performed l ↔
      (∃ e ∈ l, .acted a x ∈ e.2.deeds) ∨ ∃ f ∈ P.frames, .acted a x ∈ f.past := by
  classical
  have recorded := run.recorded (fun y => decide (y = .acted a x)) fun c z => by simp
  have left : .acted a x ∈ performed l ↔
      (performed l).countP (fun y => decide (y = .acted a x)) ≠ 0 := by
    rw [ne_eq, List.countP_eq_zero]
    simp
  have ended : (l.map fun e => e.2.deeds.countP fun y => decide (y = .acted a x)).sum ≠ 0 ↔
      ∃ e ∈ l, .acted a x ∈ e.2.deeds := by
    rw [ne_eq, List.sum_eq_zero_iff]
    simp [List.countP_eq_zero]
  have going : (P.frames.map fun f => f.past.countP fun y => decide (y = .acted a x)).sum ≠ 0 ↔
      ∃ f ∈ P.frames, .acted a x ∈ f.past := by
    rw [ne_eq, Multiset.sum_eq_zero_iff]
    simp [List.countP_eq_zero]
  rw [left, recorded, ← ended, ← going]
  omega

/-- The entries that were put to the table are those of the deeds that put one. -/
lemma mem_attempts_iff {e : DeviceEntry SessionId} :
    e ∈ attempts l ↔ ∃ y, .acted (.table (.insert e)) y ∈ performed l := by
  unfold attempts
  rw [List.mem_filterMap]
  constructor
  · rintro ⟨x, mem, he⟩
    obtain ⟨y, rfl⟩ := Deed.attempt?_eq_some_iff.mp he
    exact ⟨y, mem⟩
  · rintro ⟨y, mem⟩
    exact ⟨_, mem, rfl⟩

/-- What is recorded of a call was asked for by its program. -/
lemma Runs.follows_of_recorded (run : Runs B (start own clients) l P) {c : Call} {d : List (Deed σ)}
    (h : Recorded l P c d) : ∃ q, Follows (B.program c) d q := by
  rcases h with ⟨i, w, x, he⟩ | ⟨i, f, hf, owner, rfl⟩
  · exact ⟨_, run.follows_of_returned he⟩
  · obtain ⟨o, w₀, d, p⟩ := f
    obtain rfl : o = some c := owner
    exact (run.lawful i).exists_follows hf

/-- What is recorded of a call that uses the device table is the work of a registration. -/
lemma Runs.recorded_of_performed (run : Runs B (start own clients) l P)
    (board : B.Uses Service.LeavesTable)
    (keep : ∀ i, (clients i).Only (Use.Within Service.LeavesTable)) {e : DeviceEntry SessionId}
    {y : Except DeviceError Unit} (h : .acted (.table (.insert e)) y ∈ performed l) :
    ∃ r d, Recorded l P (.service (.register r)) d ∧ .acted (.table (.insert e)) y ∈ d := by
  rcases run.mem_performed_iff.mp h with ⟨⟨i, label⟩, he, mem⟩ | ⟨f, hf, mem⟩
  · cases label with
    | acted | called => cases mem
    | returned c w x d =>
      have asks := (run.follows_of_returned he).asked (B.program_asks c) _ mem
      obtain ⟨r, rfl⟩ := Call.attempt_of_asks asks fun c hc => by
        subst hc
        exact run.service_of_returned board keep he
      exact ⟨r, d, .inl ⟨i, w, x, he⟩, mem⟩
  · obtain ⟨i, hf⟩ := mem_frames_iff.mp hf
    have asks := run.asked hf _ mem
    cases owner : f.owner with
    | none =>
      rw [owner] at asks
      cases asks
    | some c =>
      rw [owner] at asks
      obtain ⟨r, rfl⟩ := Call.attempt_of_asks asks fun c hc => by
        subst hc
        exact run.service_of_frame board keep hf owner
      exact ⟨r, f.past, .inr ⟨i, f, hf, owner, rfl⟩, mem⟩

/-- The entries that were put to the table are those of the registrations that passed the checks. -/
theorem Runs.mem_attempts_iff (run : Runs B (start own clients) l P)
    (board : B.Uses Service.LeavesTable)
    (keep : ∀ i, (clients i).Only (Use.Within Service.LeavesTable)) {e : DeviceEntry SessionId} :
    e ∈ attempts l ↔ ∃ r s, Put l P r s ∧ e = r.entry s := by
  rw [Pool.mem_attempts_iff]
  constructor
  · rintro ⟨y, mem⟩
    obtain ⟨r, d, recorded, put⟩ := run.recorded_of_performed board keep mem
    obtain ⟨q, follows⟩ := run.follows_of_recorded recorded
    obtain ⟨own, valid, s, same, -⟩ := Registration.attempt_unique follows put
    cases same
    exact ⟨r, s, ⟨own, d, recorded, valid, y, put⟩, rfl⟩
  · rintro ⟨r, s, ⟨-, d, recorded, -, y, put⟩, rfl⟩
    refine ⟨y, run.mem_performed_iff.mpr ?_⟩
    rcases recorded with ⟨i, w, x, he⟩ | ⟨i, f, hf, -, rfl⟩
    · exact .inl ⟨_, he, put⟩
    · exact .inr ⟨f, Pool.mem_frames_iff.mpr ⟨i, hf⟩, put⟩

/-- A session is created at most once, and not before its number is issued. -/
lemma Runs.countP_creates (run : Runs B (start own clients) l P) (s : SessionId) :
    (performed l).countP (Deed.creates s) ≤ if s < P.world.issued then 1 else 0 := by
  induction run with
  | refl => simp [performed]
  | @tail Q R l e run step ih =>
    obtain ⟨i, e⟩ := e
    rw [performed_snoc, List.countP_append]
    rcases step.world_eq with ⟨a, x, rfl, ha⟩ | ⟨other, same⟩
    · have issued : (if s < Q.world.issued then 1 else 0) ≤
          if s < R.world.issued then 1 else 0 := by
        by_cases old : s < Q.world.issued
        · rw [if_pos old, if_pos (Nat.lt_of_lt_of_le old ha.issued_le.1)]
        · rw [if_neg old]
          exact Nat.zero_le _
      by_cases create : ∃ p, a = .create p ∧ Q.world.issued = s
      · obtain ⟨p, rfl, rfl⟩ := create
        obtain ⟨rfl, after⟩ := ha.create_issued
        simp [Label.performed, Deed.creates, after] at ih ⊢
        omega
      · have nothing : (Label.acted a x).performed.countP (Deed.creates s) = 0 := by
          rw [List.countP_eq_zero]
          intro y hy
          obtain rfl := List.mem_singleton.mp hy
          cases a with
          | create p =>
            obtain ⟨rfl, -⟩ := ha.create_issued
            simpa [Deed.creates] using fun same => create ⟨p, rfl, same⟩
          | _ => exact Bool.false_ne_true
        rw [nothing]
        exact ih.trans issued
    · have nothing : e.performed = [] := by
        cases e with
        | acted a x => exact absurd rfl (other a x)
        | called | returned => rfl
      rw [nothing, same]
      exact ih

/-- No session is put to the table twice. -/
theorem Runs.attempts_nodup (run : Runs B (start own clients) l P)
    (board : B.Uses Service.LeavesTable)
    (keep : ∀ i, (clients i).Only (Use.Within Service.LeavesTable)) :
    ((attempts l).map DeviceEntry.node).Nodup := by
  rw [List.nodup_iff_count_le_one]
  intro s
  have counted : ((attempts l).map DeviceEntry.node).count s =
      (performed l).countP (Deed.puts s) := by
    rw [attempts, List.count, List.countP_map, List.countP_filterMap]
    refine List.countP_congr fun x _ => ?_
    unfold Deed.puts
    cases x.attempt? <;> simp
  rw [counted]
  have one : (performed l).countP (Deed.creates s) ≤ 1 := by
    refine (run.countP_creates s).trans ?_
    split <;> decide
  refine le_trans ?_ one
  rw [run.recorded (Deed.puts s) fun _ _ => rfl, run.recorded (Deed.creates s) fun _ _ => rfl]
  refine Nat.add_le_add (List.sum_le_sum ?_) (Multiset.sum_map_le_sum_map _ _ ?_)
  · rintro ⟨i, e⟩ he
    cases e with
    | acted | called => exact Nat.le_refl _
    | returned c w x d =>
      refine Board.countP_puts_le (run.follows_of_returned he) ?_ s
      rintro c rfl
      exact run.service_of_returned board keep he
  · intro f hf
    obtain ⟨i, hf⟩ := Pool.mem_frames_iff.mp hf
    obtain ⟨o, w₀, d, p⟩ := f
    cases o with
    | none =>
      have nothing : d.countP (Deed.puts s) = 0 := by
        rw [List.countP_eq_zero]
        intro x hx puts
        obtain ⟨e, he, -⟩ := (Option.any_eq_true ..).mp puts
        obtain ⟨y, rfl⟩ := Deed.attempt?_eq_some_iff.mp he
        cases run.asked hf _ hx
      exact nothing ▸ Nat.zero_le _
    | some c =>
      obtain ⟨q, follows⟩ := (run.lawful i).exists_follows hf
      refine Board.countP_puts_le follows ?_ s
      rintro c rfl
      exact run.service_of_frame board keep hf rfl

/-! ## The table -/

/-- The device table. -/
def table (P : Pool n σ α) : DeviceTable SessionId := P.world.table.value

/-- What can be looked up at a path is the session that was the first one put to the table there. -/
lemma Runs.lookup_eq (run : Runs B (start own clients) l P) (p : String) :
    P.table.lookup p = ((attempts l).find? fun e => e.path == p).map DeviceEntry.node := by
  rw [table, run.table_eq, DeviceTable.lookup, DeviceTable.entryAt?_ofAttempts]

/-- The published paths are those at which something was put to the table. -/
lemma Runs.mem_paths_iff (run : Runs B (start own clients) l P)
    (board : B.Uses Service.LeavesTable)
    (keep : ∀ i, (clients i).Only (Use.Within Service.LeavesTable)) {p : String} :
    p ∈ P.table.paths ↔ ∃ r s, Put l P r s ∧ r.path = p := by
  rw [DeviceTable.mem_paths_iff, run.lookup_eq, Option.isSome_map, List.find?_isSome]
  constructor
  · rintro ⟨e, mem, path⟩
    obtain ⟨r, s, put, rfl⟩ := (run.mem_attempts_iff board keep).mp mem
    exact ⟨r, s, put, eq_of_beq path⟩
  · rintro ⟨r, s, put, rfl⟩
    exact ⟨r.entry s, (run.mem_attempts_iff board keep).mpr ⟨r, s, put, rfl⟩, beq_self_eq_true _⟩

/-- What can be looked up at a path stays. -/
lemma Runs.lookup_kept (run : Runs B P l Q) {p : String} {s : SessionId}
    (published : P.table.lookup p = some s) : Q.table.lookup p = some s := by
  obtain ⟨e, taken, rfl⟩ := Option.map_eq_some_iff.mp published
  exact Option.map_eq_some_iff.mpr ⟨e, run.entryAt?_kept taken, rfl⟩

/-- A path that was taken when a program began is taken for it. -/
lemma late_invariant : FrameInvariant (σ := σ) fun w w₀ d =>
    (∀ p e, w₀.table.value.entryAt? p = some e → w.table.value.entryAt? p = some e) ∧
      ∀ e y, .acted (.table (.insert e)) y ∈ d → (w₀.table.value.entryAt? e.path).isSome = true →
        y = .error .alreadyExists where
  start _ := ⟨fun _ _ taken => taken, fun _ _ mem => absurd mem List.not_mem_nil⟩
  others ha _ _ _ h := ⟨fun p e taken => ha.entryAt?_kept (h.1 p e taken), h.2⟩
  acted := by
    intro w a x w' ha _ w₀ d ⟨kept, refused⟩
    refine ⟨fun p e taken => ha.entryAt?_kept (kept p e taken), ?_⟩
    intro e y mem taken
    rcases List.mem_append.mp mem with mem | mem
    · exact refused e y mem taken
    · cases List.mem_singleton.mp mem
      obtain ⟨e', taken⟩ := Option.isSome_iff_exists.mp taken
      rcases ha.of_insert with ⟨-, -, rfl, -⟩ | ⟨free, -⟩
      · rfl
      · rw [kept _ _ taken] at free
        cases free
  received _ _ _ _ _ h := ⟨h.1, fun e y mem => h.2 e y (by simpa using mem)⟩

/-- A registration in the device table that ended is at fault if it did not pass the checks.
Otherwise its session is published, or another one was published at its path before. -/
lemma Runs.registered (run : Runs B (start own clients) l P) (board : B.Uses Service.LeavesTable)
    (keep : ∀ i, (clients i).Only (Use.Within Service.LeavesTable)) {i : Fin n}
    {r : RegistrationRequest} {w : World σ} {x : Registration} {d : List (Deed σ)}
    (he : (i, .returned (.service (.register r)) w x d) ∈ l) (registry : r.registry = none) :
    (¬ Registration.Validated r d ∧ ∃ cause, x = .fault cause) ∨
      (Registration.Validated r d ∧ ∃ s y, .acted (.table (.insert (r.entry s))) y ∈ d ∧
        ((x = .registered s ∧ P.table.lookup r.path = some s) ∨
          (x = .refused .alreadyExists ∧ ∃ u, u ≠ s ∧ P.table.lookup r.path = some u)) ∧
        ((w.table.value.lookup r.path).isSome = true → x = .refused .alreadyExists)) := by
  rcases Registration.of_complete (run.follows_of_returned he) with fault | ⟨valid, told⟩
  · exact .inl fault
  obtain ⟨s, y, put, rfl⟩ := told registry
  refine .inr ⟨valid, s, y, put, ?_, ?_⟩
  · have performed : .acted (.table (.insert (r.entry s))) y ∈ performed l :=
      run.mem_performed_iff.mpr (.inl ⟨_, he, put⟩)
    obtain ⟨⟨j, label⟩, mem, own⟩ := List.mem_flatMap.mp performed
    obtain rfl : label = .acted (.table (.insert (r.entry s))) y := by
      cases label with
      | acted a z =>
        cases List.mem_singleton.mp own
        rfl
      | called | returned => cases own
    obtain ⟨l₁, l₂, Q, R, rfl, before, step, after⟩ := run.exists_step mem
    rcases step.performs.of_insert with ⟨e, taken, rfl, -⟩ | ⟨-, rfl, taken⟩
    · -- The other session was put to the table before, and no session is put to it twice.
      have there : e ∈ attempts l₁ := by
        rw [before.table_eq, DeviceTable.entryAt?_ofAttempts] at taken
        exact List.mem_of_find?_eq_some taken
      have other : e.node ≠ s := by
        intro same
        have once := run.attempts_nodup board keep
        rw [attempts_append, List.map_append] at once
        refine List.disjoint_of_nodup_append once (List.mem_map_of_mem there) ?_
        rw [same]
        exact List.mem_map.mpr ⟨r.entry s, Pool.mem_attempts_iff.mpr ⟨_, .head _⟩, rfl⟩
      refine .inr ⟨rfl, e.node, other, ?_⟩
      exact (Runs.head step after).lookup_kept (Option.map_eq_some_iff.mpr ⟨e, taken, rfl⟩)
    · exact .inl ⟨rfl, after.lookup_kept (Option.map_eq_some_iff.mpr ⟨_, taken, rfl⟩)⟩
  · intro published
    obtain ⟨_, _, R, S, -, before, step, -⟩ := run.exists_step he
    obtain ⟨-, refused⟩ := before.frame_of_progress late_invariant (before.frame_of_return step).1
    rw [DeviceTable.lookup, Option.isSome_map] at published
    rw [refused _ y put published]

/-- Where no call is in progress, the published paths are those of the registrations that passed the
checks. -/
lemma Runs.mem_paths_iff_of_idle (run : Runs B (start own clients) l P)
    (board : B.Uses Service.LeavesTable)
    (keep : ∀ i, (clients i).Only (Use.Within Service.LeavesTable)) (idle : P.Idle) {p : String} :
    p ∈ P.table.paths ↔
      ∃ i r w x d, (i, .returned (.service (.register r)) w x d) ∈ l ∧ r.registry = none ∧
        r.path = p ∧ Registration.Validated r d := by
  rw [run.mem_paths_iff board keep]
  constructor
  · rintro ⟨r, s, ⟨registry, d, ⟨i, w, x, he⟩ | ⟨i, f, hf, owner, rfl⟩, valid, -⟩, path⟩
    · exact ⟨i, r, w, x, d, he, registry, path, valid⟩
    · have client := idle.owner_eq_none (Pool.mem_frames_iff.mpr ⟨i, hf⟩)
      rw [owner] at client
      cases client
  · rintro ⟨i, r, w, x, d, he, registry, path, valid⟩
    rcases run.registered board keep he registry with ⟨fault, -⟩ | ⟨-, s, y, put, -⟩
    · exact absurd valid fault
    · exact ⟨r, s, ⟨registry, d, .inl ⟨i, w, x, he⟩, valid, y, put⟩, path⟩

/-- The device table is append-only.  A path is published if a registration at it has passed the
checks and has put its session to the table; where no call is in progress, if any registration at it
has passed the checks.  What can be looked up at a path is the session that was put there first, and
it stays; each other session is turned away, and turning it away changes nothing.  So a registration
that passed the checks is registered and can be looked up, or it is refused because another session
was there first, as it is if the path was published when it began.  The paths stand in strictly
increasing byte order, and all have one mode. -/
theorem table_history (run : Runs B (start own clients) l P) (board : B.Uses Service.LeavesTable)
    (keep : ∀ i, (clients i).Only (Use.Within Service.LeavesTable)) :
    (∀ p, p ∈ P.table.paths ↔ ∃ r s, Put l P r s ∧ r.path = p) ∧
    (P.Idle → ∀ p, p ∈ P.table.paths ↔
      ∃ i r w x d, (i, .returned (.service (.register r)) w x d) ∈ l ∧ r.registry = none ∧
        r.path = p ∧ Registration.Validated r d) ∧
    (∀ p, P.table.lookup p = ((attempts l).find? fun e => e.path == p).map DeviceEntry.node) ∧
    (∀ e, e ∈ attempts l ↔ ∃ r s, Put l P r s ∧ e = r.entry s) ∧
    ((attempts l).map DeviceEntry.node).Nodup ∧
    (∀ l₁ l₂ Q, l = l₁ ++ l₂ → Runs B (start own clients) l₁ Q → ∀ p s,
      Q.table.lookup p = some s → P.table.lookup p = some s) ∧
    (∀ l₁ l₂ i e y, l = l₁ ++ (i, .acted (.table (.insert e)) y) :: l₂ → ∃ Q R,
      Runs B (start own clients) l₁ Q ∧ Step B Q (i, .acted (.table (.insert e)) y) R ∧
        Runs B R l₂ P ∧
        (((Q.table.lookup e.path).isSome = true ∧ y = .error .alreadyExists ∧ R.world = Q.world) ∨
          (Q.table.lookup e.path = none ∧ y = .ok () ∧
            P.table.lookup e.path = some e.node))) ∧
    (∀ i r w x d, (i, .returned (.service (.register r)) w x d) ∈ l → r.registry = none →
      (¬ Registration.Validated r d ∧ ∃ cause, x = .fault cause) ∨
        (Registration.Validated r d ∧ ∃ s y, .acted (.table (.insert (r.entry s))) y ∈ d ∧
          ((x = .registered s ∧ P.table.lookup r.path = some s) ∨
            (x = .refused .alreadyExists ∧ ∃ u, u ≠ s ∧ P.table.lookup r.path = some u)) ∧
          ((w.table.value.lookup r.path).isSome = true → x = .refused .alreadyExists))) ∧
    P.table.paths.Pairwise (fun p q => pathBytes p < pathBytes q) ∧
    P.table.size = P.table.paths.length ∧ (P.table.isEmpty = true ↔ P.table.paths = []) ∧
    (∀ p, P.table.mode p = (P.table.lookup p).map fun _ => FileMode.readAll) ∧
    ∀ p, p ∈ P.table.paths ↔ (P.table.lookup p).isSome = true := by
  refine ⟨fun p => run.mem_paths_iff board keep,
    fun idle p => run.mem_paths_iff_of_idle board keep idle, run.lookup_eq,
    fun e => run.mem_attempts_iff board keep, run.attempts_nodup board keep, ?_, ?_,
    fun i r w x d he => run.registered board keep he, ?_, DeviceTable.size_eq _,
    DeviceTable.isEmpty_iff, ?_, fun p => DeviceTable.mem_paths_iff⟩
  · rintro l₁ l₂ Q rfl before p s published
    rw [before.lookup_eq] at published
    obtain ⟨e, first, rfl⟩ := Option.map_eq_some_iff.mp published
    rw [run.lookup_eq, attempts_append, List.find?_append, first]
    rfl
  · rintro l₁ l₂ i e y rfl
    obtain ⟨Q, R, before, step, after⟩ := run.of_append_cons
    refine ⟨Q, R, before, step, after, ?_⟩
    rcases step.performs.of_insert with ⟨d, taken, rfl, same⟩ | ⟨free, rfl, taken⟩
    · exact .inl ⟨by rw [table, DeviceTable.lookup, taken]; rfl, rfl, same⟩
    · refine .inr ⟨by rw [table, DeviceTable.lookup, free]; rfl, rfl, ?_⟩
      exact after.lookup_kept (Option.map_eq_some_iff.mpr ⟨e, taken, rfl⟩)
  · rw [table, run.table_eq]
    exact DeviceTable.paths_increasing (DeviceTable.sorted_ofAttempts _)
  · intro p
    rw [table, run.table_eq]
    refine DeviceTable.mode_ofAttempts fun e mem => ?_
    obtain ⟨r, s, -, rfl⟩ := (run.mem_attempts_iff board keep).mp mem
    rfl

end Pool

/-- A board whose lower half stores what it is told to leaves the device table to registration. -/
lemma Board.obedient_leavesTable :
    (Board.obedient (pure (.ok ()) : Reaction σ _)).Uses Service.LeavesTable := by
  intro c
  cases c with
  | operate k h s o args =>
    cases o with
    | modeSet | limitsSet | paramsSet => exact ⟨trivial, fun _ => trivial⟩
    | setup | shutdown | start | stop | stateGet | faultSet | faultGet | faultClean | ioctl =>
      trivial
  | provided | discard | enter | leave | checkWait | relax | log | publish => trivial

namespace Pool

/-- Two clients that register devices at one path, the first of them also at another. -/
def registrants : Fin 2 → Reaction Unit Unit
  | 0 => Service.inTurn [.register ⟨"/dev/led", 0, 0, Config.default, none⟩,
      .register ⟨"/dev/a", 1, 0, Config.default, none⟩]
  | 1 => Service.inTurn [.register ⟨"/dev/led", 2, 0, Config.default, none⟩]

/-- The second client is first at the path for which they compete, though the first has a session
for it earlier. -/
theorem table_history_competing :
    ∃ (l : List (Fin 2 × Label Unit)) (P : Pool 2 Unit Unit),
      Runs (.obedient (pure (.ok ()))) (start () registrants) l P ∧ P.Idle ∧
        P.table.paths = ["/dev/a", "/dev/led"] ∧ P.table.lookup "/dev/led" = some 1 ∧
        (∃ i r w x d, (i, .returned (.service (.register r)) w x d) ∈ l ∧ r.registry = none ∧
          r.path = "/dev/led" ∧ Registration.Validated r d) ∧
        P.table.mode "/dev/a" = some FileMode.readAll := by
  have played : ((start () registrants : Pool 2 Unit Unit).play (.obedient (pure (.ok ())))
      (.replicate 4 0 ++ .replicate 10 1 ++ .replicate 16 0)).map (fun x => (x.2.table.paths,
        x.2.table.lookup "/dev/led", x.2.table.lookup "/dev/a", (x.2.parties 0).owner.isNone,
        (x.2.parties 1).owner.isNone)) =
      some (["/dev/a", "/dev/led"], some 1, some 2, true, true) := by decide +kernel
  obtain ⟨⟨l, P⟩, play, facts⟩ := Option.map_eq_some_iff.mp played
  have run := runs_of_play play
  simp only [Prod.mk.injEq, Option.isNone_iff_eq_none] at facts
  obtain ⟨paths, first, second, idle₀, idle₁⟩ := facts
  have idle : P.Idle := fun i => match i with
    | 0 => idle₀
    | 1 => idle₁
  have keep (i : Fin 2) : (registrants i).Only (Use.Within (σ := Unit) Service.LeavesTable) :=
    match i with
    | 0 => ⟨trivial, fun _ => ⟨trivial, fun _ => trivial⟩⟩
    | 1 => ⟨trivial, fun _ => trivial⟩
  obtain ⟨-, published, -, -, -, -, -, -, -, -, -, mode, -⟩ :=
    table_history run Board.obedient_leavesTable keep
  refine ⟨l, P, run, idle, paths, first, (published idle "/dev/led").mp ?_, ?_⟩
  · rw [paths]
    exact .tail _ (.head _)
  · rw [mode, second]
    rfl

end Pool

end LedDriver
