import LedDriver.Proofs.LowerHalf.Operations
import LedDriver.Proofs.System.Runs
import LedDriver.Proofs.System.Trees

/-!
# The outcome of a registration

What becomes of a request to register a device.  `Board.Registers` is the table of the outcomes, in
the order in which the request is checked: an empty path, no opens, a lower half that lacks
operations, a registry that refuses, a registry that accepts.  Each outcome has its calls and its
worlds, from the first to the last.  A registration is carried out as this table says, and in no
other way (`Board.perform_register_iff`).

A request at fault never reaches a registry.  Any other is published once, as a new session
(`Board.Registers.established`), and the outcome is what the registry answers.  A lower half is
discarded once on each way to a failure, and none of its operations is ever called
(`Board.Registers.exists_calls`).
-/

namespace LedDriver

variable {σ α : Type}

/-- A session that was just created has the memory of a new session, and what was to be fixed about
it. -/
lemma World.create_session (w : World σ) (p : Profile) :
    (w.create p).memory w.issued = Memory.new ∧ (w.create p).profile w.issued = p := by
  constructor
  · simp [memory, create, Memory.new]
  · simp [create]

/-- The lower half that a call discards. -/
def Call.discarded? : Call → Option LowerId
  | .peer (.discard h) => some h
  | _ => none

namespace RegistrationRequest

/-- What is fixed about the session of a request. -/
def profile (r : RegistrationRequest) : Profile := ⟨r.lower, r.platform, r.config⟩

/-- The entry of a request in the device table. -/
def entry (r : RegistrationRequest) (s : SessionId) : DeviceEntry SessionId :=
  ⟨r.path, s, FileMode.readAll⟩

/-- The call in which a session is published, if it is not published in the device table. -/
def publication (r : RegistrationRequest) (s : SessionId) : List Call :=
  match r.registry with
  | none => []
  | some k => [.peer (.publish k r.path s FileMode.readAll)]

/-- The calls that a registration makes for an outcome, if its session has a given number. -/
def calls (r : RegistrationRequest) (s : SessionId) : Registration → List Call
  | .fault .emptyPath | .fault .noOpens => [.peer (.discard r.lower)]
  | .fault (.incomplete path missing) =>
    [.peer (.provided r.lower), .peer (.log (.incomplete path missing)), .peer (.discard r.lower)]
  | .refused _ => .peer (.provided r.lower) :: r.publication s ++ [.peer (.discard r.lower)]
  | .registered _ =>
    .peer (.provided r.lower) :: r.publication s ++ [.peer (.log (.registered r.path))]

/-- A registration that fails discards its lower half once, and one that succeeds does not; the
operations of a lower half are never called. -/
lemma mem_calls {r : RegistrationRequest} {s : SessionId} {x : Registration} :
    (∀ c ∈ r.calls s x, ∀ k h t o a, c ≠ .peer (.operate k h t o a)) ∧
      (r.calls s x).filterMap Call.discarded? = match x with
        | .registered _ => []
        | .refused _ | .fault _ => [r.lower] := by
  have published : (∀ c ∈ r.publication s, ∀ k h t o a, c ≠ .peer (.operate k h t o a)) ∧
      (r.publication s).filterMap Call.discarded? = [] := by
    unfold publication
    split
    · exact ⟨List.forall_mem_nil _, rfl⟩
    · exact ⟨by simp, rfl⟩
  cases x with
  | fault cause => cases cause <;> exact ⟨by simp [calls], rfl⟩
  | refused e =>
    constructor
    · simpa [calls, or_imp, forall_and] using published.1
    · rw [calls, List.filterMap_append, List.filterMap_cons, published.2]
      rfl
  | registered s' =>
    constructor
    · simpa [calls, or_imp, forall_and] using published.1
    · rw [calls, List.filterMap_append, List.filterMap_cons, published.2]
      rfl

end RegistrationRequest

namespace Registration

/-- What is left of a registration when its lower half has told what it provides. -/
def examination (r : RegistrationRequest) (set : OpSet) : Action σ Registration :=
  if (OpSet.missing set).isEmpty then establish r
  else (Peer.log (.incomplete r.path (OpSet.missing set))).make >>= fun _ =>
    abandon r.lower (.fault (.incomplete r.path (OpSet.missing set)))

/-- What is left of a registration when the registry has answered. -/
def conclusion (r : RegistrationRequest) (s : SessionId) :
    Except DeviceError Unit → Action σ Registration
  | .error e => abandon r.lower (.refused e)
  | .ok () => (Peer.log (.registered r.path)).make >>= fun _ => pure (.registered s)

end Registration

namespace Board

variable {B : Board σ} {depth : Nat} {r : RegistrationRequest} {s : SessionId} {w : World σ}

/-! ## Calls and their trees -/

/-- A call is carried out just as a tree tells. -/
def Carries (B : Board σ) (depth : Nat) (t : CallTree σ) : Prop :=
  B.perform depth t.call t.before = .ok ⟨t.answer, t.after, [t]⟩

/-- A run that begins with a call goes on after the call, whose tree stands first. -/
lemma run_call_tree_iff {c : Call} {next : c.Answer → Action σ α} {x : Outcome σ α} :
    B.run depth (.ask (.call c) next) w = .ok x ↔
      ∃ a v inner z, B.Carries depth (.node c w a v inner) ∧ B.run depth (next a) v = .ok z ∧
        x = ⟨z.result, z.world, .node c w a v inner :: z.calls⟩ := by
  rw [run_call_iff]
  constructor
  · rintro ⟨y, z, hy, hz, rfl⟩
    obtain ⟨d, inner, -, -, calls⟩ := exists_of_perform hy
    have carried : B.Carries depth (.node c w y.result y.world inner) := by
      rw [Carries, ← calls]
      exact hy
    exact ⟨y.result, y.world, inner, z, carried, hz, by rw [calls]; rfl⟩
  · rintro ⟨a, v, inner, z, hy, hz, rfl⟩
    exact ⟨_, z, hy, hz, rfl⟩

/-! ## The table of the outcomes -/

/-- How a registry takes a session: the device table at once, if nobody holds it, and another
registry in a call of its own. -/
inductive Publishes (B : Board σ) (depth : Nat) (r : RegistrationRequest) (s : SessionId)
    (w : World σ) : Except DeviceError Unit → World σ → List (CallTree σ) → Prop
  | table (own : r.registry = none) (free : w.table.held = false) :
    B.Publishes depth r s w (w.table.value.insert (r.entry s)).1
      { w with table := w.table.store (w.table.value.insert (r.entry s)).2 } []
  | registry {k : RegistryId} {answer : Except DeviceError Unit} {v : World σ}
      {inner : List (CallTree σ)} (other : r.registry = some k)
      (asked : B.Carries depth
        (.node (.peer (.publish k r.path s FileMode.readAll)) w answer v inner)) :
    B.Publishes depth r s w answer v
      [.node (.peer (.publish k r.path s FileMode.readAll)) w answer v inner]

/-- What becomes of a request to register a device: its outcome, the world that is left, and the
calls made on the way. -/
inductive Registers (B : Board σ) (depth : Nat) (r : RegistrationRequest) (w : World σ) :
    Registration → World σ → List (CallTree σ) → Prop
  | emptyPath {w' : World σ} {i : List (CallTree σ)} (path : r.path = "")
      (discarded : B.Carries depth (.node (.peer (.discard r.lower)) w () w' i)) :
    B.Registers depth r w (.fault .emptyPath) w' [.node (.peer (.discard r.lower)) w () w' i]
  | noOpens {w' : World σ} {i : List (CallTree σ)} (path : r.path ≠ "")
      (opens : r.config.maxOpens = 0)
      (discarded : B.Carries depth (.node (.peer (.discard r.lower)) w () w' i)) :
    B.Registers depth r w (.fault .noOpens) w' [.node (.peer (.discard r.lower)) w () w' i]
  | incomplete {set : OpSet} {u v w' : World σ} {i j k : List (CallTree σ)} (path : r.path ≠ "")
      (opens : r.config.maxOpens ≠ 0)
      (provided : B.Carries depth (.node (.peer (.provided r.lower)) w set u i))
      (lacks : ¬ OpSet.Complete set)
      (noted : B.Carries depth
        (.node (.peer (.log (.incomplete r.path (OpSet.missing set)))) u () v j))
      (discarded : B.Carries depth (.node (.peer (.discard r.lower)) v () w' k)) :
    B.Registers depth r w (.fault (.incomplete r.path (OpSet.missing set))) w'
      [.node (.peer (.provided r.lower)) w set u i,
        .node (.peer (.log (.incomplete r.path (OpSet.missing set)))) u () v j,
        .node (.peer (.discard r.lower)) v () w' k]
  | refused {set : OpSet} {e : DeviceError} {u v w' : World σ} {i k ts : List (CallTree σ)}
      (path : r.path ≠ "") (opens : r.config.maxOpens ≠ 0)
      (provided : B.Carries depth (.node (.peer (.provided r.lower)) w set u i))
      (complete : OpSet.Complete set)
      (published : B.Publishes depth r u.issued (u.create r.profile) (.error e) v ts)
      (discarded : B.Carries depth (.node (.peer (.discard r.lower)) v () w' k)) :
    B.Registers depth r w (.refused e) w'
      (.node (.peer (.provided r.lower)) w set u i :: ts ++
        [.node (.peer (.discard r.lower)) v () w' k])
  | registered {set : OpSet} {u v w' : World σ} {i k ts : List (CallTree σ)} (path : r.path ≠ "")
      (opens : r.config.maxOpens ≠ 0)
      (provided : B.Carries depth (.node (.peer (.provided r.lower)) w set u i))
      (complete : OpSet.Complete set)
      (published : B.Publishes depth r u.issued (u.create r.profile) (.ok ()) v ts)
      (noted : B.Carries depth (.node (.peer (.log (.registered r.path))) v () w' k)) :
    B.Registers depth r w (.registered u.issued) w'
      (.node (.peer (.provided r.lower)) w set u i :: ts ++
        [.node (.peer (.log (.registered r.path))) v () w' k])

/-- A run that ends with a call, whatever the answer to that. -/
lemma run_last_call_iff {c : Call} {a : α} {x : Outcome σ α} :
    B.run depth (.ask (.call c) fun _ => .done a) w = .ok x ↔
      ∃ r v i, B.Carries depth (.node c w r v i) ∧ x = ⟨a, v, [.node c w r v i]⟩ := by
  refine run_call_tree_iff.trans ?_
  constructor
  · rintro ⟨r, v, i, z, carried, ended, rfl⟩
    cases run_done_iff.mp ended
    exact ⟨r, v, i, carried, rfl⟩
  · rintro ⟨r, v, i, carried, rfl⟩
    exact ⟨r, v, i, _, carried, rfl, rfl⟩

/-- A lower half is discarded when a registration is given up. -/
lemma run_abandon_iff {h : LowerId} {outcome : Registration} {x : Outcome σ Registration} :
    B.run depth (Registration.abandon h outcome) w = .ok x ↔
      ∃ v i, B.Carries depth (.node (.peer (.discard h)) w () v i) ∧
        x = ⟨outcome, v, [.node (.peer (.discard h)) w () v i]⟩ :=
  run_last_call_iff.trans ⟨fun ⟨_, told⟩ => told, fun told => ⟨(), told⟩⟩

/-- The journal is told of a success. -/
lemma run_noted_iff {n : Notice} {outcome : Registration} {x : Outcome σ Registration} :
    B.run depth ((Peer.log n).make >>= fun _ => pure outcome) w = .ok x ↔
      ∃ v i, B.Carries depth (.node (.peer (.log n)) w () v i) ∧
        x = ⟨outcome, v, [.node (.peer (.log n)) w () v i]⟩ :=
  run_last_call_iff.trans ⟨fun ⟨_, told⟩ => told, fun told => ⟨(), told⟩⟩

/-- The use of the device table by a party that runs alone. -/
lemma run_locked_table_iff {m : TableMethod SessionId} {x : Outcome σ m.Answer} :
    B.run depth (locked .table (.table m)) w = .ok x ↔ w.table.held = false ∧
      x = ⟨(m.apply w.table.value).1, { w with table := w.table.store (m.apply w.table.value).2 },
        []⟩ := by
  cases held : w.table.held with
  | true =>
    constructor
    · intro h
      obtain ⟨r, acquired, -⟩ := run_atom_iff.mp h
      simp [Atom.apply, Atom.session?, Atom.effect, SpinLock.acquire?, held] at acquired
    · rintro ⟨⟨⟩, -⟩
  | false =>
    let taken : World σ := { w with table := { w.table with held := true } }
    let used : World σ := { taken with table := taken.table.store (m.apply w.table.value).2 }
    have acquire : (Atom.acquire .table).apply w = .ok ((), taken) := by
      simp [Atom.apply, Atom.session?, Atom.effect, SpinLock.acquire?, held, taken]
    have use : (Atom.table m).apply taken = .ok ((m.apply w.table.value).1, used) := rfl
    have release : (Atom.release .table).apply used = .ok ((),
        { w with table := w.table.store (m.apply w.table.value).2 }) := by
      simp [Atom.apply, Atom.session?, Atom.effect, SpinLock.release, SpinLock.store, held, used,
        taken]
    have run : B.run depth (locked .table (.table m)) w =
        .ok ⟨(m.apply w.table.value).1, { w with table := w.table.store (m.apply w.table.value).2 },
          []⟩ := by
      refine (run_atom acquire).trans ?_
      refine (run_atom use).trans ?_
      exact run_atom release
    rw [run]
    simp [eq_comm]

/-- A session is published at a path as its registry takes it. -/
lemma run_publish_iff (path : r.path ≠ "") {answer : Except DeviceError Unit} {v : World σ}
    {ts : List (CallTree σ)} :
    B.run depth (Registration.publish r s) w = .ok ⟨answer, v, ts⟩ ↔
      B.Publishes depth r s w answer v ts := by
  cases registry : r.registry with
  | none =>
    have program : (Registration.publish r s : Action σ _) =
        locked .table (.table (.insert (r.entry s))) := by
      simp [Registration.publish, registry, DeviceTable.use, DeviceTable.settled?, path,
        RegistrationRequest.entry]
    rw [program, run_locked_table_iff]
    constructor
    · rintro ⟨free, ⟨⟩⟩
      exact .table registry free
    · intro h
      cases h with
      | table _ free => exact ⟨free, rfl⟩
      | registry other _ => cases registry.symm.trans other
  | some k =>
    have program : (Registration.publish r s : Action σ _) =
        (Peer.publish k r.path s FileMode.readAll).make := by
      simp only [Registration.publish, registry]
    rw [program]
    refine run_call_tree_iff.trans ?_
    constructor
    · rintro ⟨answer, v, i, z, carried, ended, whole⟩
      cases run_done_iff.mp ended
      cases whole
      exact .registry registry carried
    · intro h
      cases h with
      | table own _ => cases registry.symm.trans own
      | registry other carried =>
        cases Option.some.inj (registry.symm.trans other)
        exact ⟨_, _, _, _, carried, rfl, rfl⟩

/-- A complete lower half gets a session, which is published. -/
lemma run_establish_iff (path : r.path ≠ "") {x : Outcome σ Registration} :
    B.run depth (Registration.establish r) w = .ok x ↔
      ∃ answer v ts y, B.Publishes depth r w.issued (w.create r.profile) answer v ts ∧
        B.run depth (Registration.conclusion r w.issued answer) v = .ok y ∧
        x = ⟨y.result, y.world, ts ++ y.calls⟩ := by
  have created : (Atom.create r.profile).apply w = .ok (w.issued, w.create r.profile) := rfl
  have begun : B.run depth (Registration.establish r) w =
      B.run depth ((Registration.publish r w.issued).bind (Registration.conclusion r w.issued))
        (w.create r.profile) := run_atom created
  rw [begun, run_bind_iff]
  constructor
  · rintro ⟨⟨answer, v, ts⟩, y, published, rest, rfl⟩
    exact ⟨answer, v, ts, y, (run_publish_iff path).mp published, rest, rfl⟩
  · rintro ⟨answer, v, ts, y, published, rest, rfl⟩
    exact ⟨⟨answer, v, ts⟩, y, (run_publish_iff path).mpr published, rest, rfl⟩

/-- A lower half is examined when it has told what it provides. -/
lemma run_register_of_sound (path : r.path ≠ "") (opens : r.config.maxOpens ≠ 0)
    {x : Outcome σ Registration} :
    B.run depth (Registration.register r) w = .ok x ↔
      ∃ set u i z, B.Carries depth (.node (.peer (.provided r.lower)) w set u i) ∧
        B.run depth (Registration.examination r set) u = .ok z ∧
        x = ⟨z.result, z.world, .node (.peer (.provided r.lower)) w set u i :: z.calls⟩ := by
  unfold Registration.register
  rw [if_neg path, if_neg opens]
  exact run_call_tree_iff

/-- A registration is carried out as the table of the outcomes says. -/
lemma run_register_iff {outcome : Registration} {w' : World σ} {ts : List (CallTree σ)} :
    B.run depth (Registration.register r) w = .ok ⟨outcome, w', ts⟩ ↔
      B.Registers depth r w outcome w' ts := by
  by_cases path : r.path = ""
  · have program : (Registration.register r : Action σ _) =
        Registration.abandon r.lower (.fault .emptyPath) := if_pos path
    rw [program, run_abandon_iff]
    constructor
    · rintro ⟨v, i, discarded, ⟨⟩⟩
      exact .emptyPath path discarded
    · intro h
      cases h with
      | emptyPath _ discarded => exact ⟨_, _, discarded, rfl⟩
      | noOpens path' | incomplete path' | refused path' | registered path' =>
        exact absurd path path'
  by_cases opens : r.config.maxOpens = 0
  · have program : (Registration.register r : Action σ _) =
        Registration.abandon r.lower (.fault .noOpens) := (if_neg path).trans (if_pos opens)
    rw [program, run_abandon_iff]
    constructor
    · rintro ⟨v, i, discarded, ⟨⟩⟩
      exact .noOpens path opens discarded
    · intro h
      cases h with
      | emptyPath path' => exact absurd path' path
      | noOpens _ _ discarded => exact ⟨_, _, discarded, rfl⟩
      | incomplete _ opens' | refused _ opens' | registered _ opens' => exact absurd opens opens'
  rw [run_register_of_sound path opens]
  constructor
  · rintro ⟨set, u, i, z, provided, rest, whole⟩
    cases whole
    unfold Registration.examination at rest
    by_cases complete : OpSet.Complete set
    · rw [if_pos (OpSet.missing_isEmpty_iff.mpr complete), run_establish_iff path] at rest
      obtain ⟨answer, v, ts, y, published, rest, rfl⟩ := rest
      cases answer with
      | error e =>
        obtain ⟨w', k, discarded, rfl⟩ := run_abandon_iff.mp rest
        exact .refused path opens provided complete published discarded
      | ok _ =>
        obtain ⟨w', k, noted, rfl⟩ := run_noted_iff.mp rest
        exact .registered path opens provided complete published noted
    · rw [if_neg (mt OpSet.missing_isEmpty_iff.mp complete)] at rest
      obtain ⟨_, v, j, z', noted, left, rfl⟩ := run_call_tree_iff.mp rest
      obtain ⟨w', k, discarded, rfl⟩ := run_abandon_iff.mp left
      exact .incomplete path opens provided complete noted discarded
  · intro h
    cases h with
    | emptyPath path' => exact absurd path' path
    | noOpens _ opens' => exact absurd opens' opens
    | incomplete _ _ provided lacks noted discarded =>
      refine ⟨_, _, _, ⟨_, _, [_, _]⟩, provided, ?_, rfl⟩
      unfold Registration.examination
      rw [if_neg (mt OpSet.missing_isEmpty_iff.mp lacks)]
      refine run_call_tree_iff.mpr ⟨_, _, _, ⟨_, _, [_]⟩, noted, ?_, rfl⟩
      exact run_abandon_iff.mpr ⟨_, _, discarded, rfl⟩
    | refused _ _ provided complete published discarded =>
      refine ⟨_, _, _, ⟨_, _, _ ++ [_]⟩, provided, ?_, rfl⟩
      unfold Registration.examination
      rw [if_pos (OpSet.missing_isEmpty_iff.mpr complete), run_establish_iff path]
      exact ⟨_, _, _, _, published, run_abandon_iff.mpr ⟨_, _, discarded, rfl⟩, rfl⟩
    | registered _ _ provided complete published noted =>
      refine ⟨_, _, _, ⟨_, _, _ ++ [_]⟩, provided, ?_, rfl⟩
      unfold Registration.examination
      rw [if_pos (OpSet.missing_isEmpty_iff.mpr complete), run_establish_iff path]
      exact ⟨_, _, _, _, published, run_noted_iff.mpr ⟨_, _, noted, rfl⟩, rfl⟩

/-- A call to register a device is carried out as the table of the outcomes says. -/
lemma perform_register_iff {x : Outcome σ Registration} :
    B.perform (depth + 1) (.service (.register r)) w = .ok x ↔
      ∃ ts, B.Registers depth r w x.result x.world ts ∧
        x.calls = [.node (.service (.register r)) w x.result x.world ts] := by
  rw [perform_succ_iff]
  constructor
  · rintro ⟨⟨outcome, w', ts⟩, run, rfl⟩
    exact ⟨ts, run_register_iff.mp run, rfl⟩
  · obtain ⟨outcome, w', trees⟩ := x
    rintro ⟨ts, registers, calls⟩
    dsimp only at registers calls
    subst calls
    exact ⟨⟨outcome, w', ts⟩, run_register_iff.mpr registers, rfl⟩

/-! ## What the table says -/

/-- The calls in which a session is published. -/
lemma Publishes.calls_eq {answer : Except DeviceError Unit} {v : World σ} {ts : List (CallTree σ)}
    (h : B.Publishes depth r s w answer v ts) : ts.map CallTree.call = r.publication s := by
  unfold RegistrationRequest.publication
  cases h with
  | table own _ => rw [own]; rfl
  | registry other _ => rw [other]; rfl

namespace Registers

variable {x : Registration} {w' : World σ} {ts : List (CallTree σ)}

/-- A registration makes the calls of its outcome, in this order, and no others. -/
lemma exists_calls (h : B.Registers depth r w x w' ts) :
    ∃ s, ts.map CallTree.call = r.calls s x ∧ ∀ s', x = .registered s' → s' = s := by
  cases h with
  | emptyPath | noOpens | incomplete => exact ⟨0, rfl, nofun⟩
  | @refused _ _ u _ _ _ _ _ _ _ _ _ published _ =>
    refine ⟨u.issued, ?_, nofun⟩
    rw [RegistrationRequest.calls, ← published.calls_eq, List.map_append]
    rfl
  | @registered _ u _ _ _ _ _ _ _ _ _ published _ =>
    refine ⟨u.issued, ?_, fun s' same => (Registration.registered.inj same).symm⟩
    rw [RegistrationRequest.calls, ← published.calls_eq, List.map_append]
    rfl

/-- The empty path is the first thing that is checked. -/
lemma eq_emptyPath_iff (h : B.Registers depth r w x w' ts) :
    x = .fault .emptyPath ↔ r.path = "" := by
  cases h with
  | emptyPath path _ => exact iff_of_true rfl path
  | noOpens path | incomplete path | refused path | registered path =>
    exact iff_of_false nofun path

/-- The number of opens is the second thing that is checked. -/
lemma eq_noOpens_iff (h : B.Registers depth r w x w' ts) :
    x = .fault .noOpens ↔ r.path ≠ "" ∧ r.config.maxOpens = 0 := by
  cases h with
  | emptyPath path _ => exact iff_of_false nofun fun h => h.1 path
  | noOpens path opens _ => exact iff_of_true rfl ⟨path, opens⟩
  | incomplete _ opens | refused _ opens | registered _ opens =>
    exact iff_of_false nofun fun h => opens h.2

/-- The operations of the lower half are the third thing that is checked. -/
lemma eq_incomplete_iff (h : B.Registers depth r w x w' ts) {path : String} {missing : OpSet} :
    x = .fault (.incomplete path missing) ↔
      r.path ≠ "" ∧ r.config.maxOpens ≠ 0 ∧ path = r.path ∧ ∃ set u i rest,
        ts = .node (.peer (.provided r.lower)) w set u i :: rest ∧ ¬ OpSet.Complete set ∧
          missing = OpSet.missing set := by
  have told {set set' : OpSet} {u u' : World σ} {i i' rest rest' : List (CallTree σ)}
      (same : CallTree.node (.peer (.provided r.lower)) w set u i :: rest =
        .node (.peer (.provided r.lower)) w set' u' i' :: rest') : set = set' := by
    cases same
    rfl
  cases h with
  | emptyPath path _ => exact iff_of_false nofun fun h => h.1 path
  | noOpens _ opens _ => exact iff_of_false nofun fun h => h.2.1 opens
  | incomplete nonempty opens _ lacks _ _ =>
    constructor
    · intro same
      cases same
      exact ⟨nonempty, opens, rfl, _, _, _, _, rfl, lacks, rfl⟩
    · rintro ⟨-, -, rfl, set, u, i, rest, same, -, rfl⟩
      rw [told same]
  | refused _ _ _ complete _ _ | registered _ _ _ complete _ _ =>
    refine iff_of_false nofun ?_
    rintro ⟨-, -, -, set, u, i, rest, same, lacks, -⟩
    exact lacks (told same ▸ complete)

/-- A registration without a fault has a complete lower half, and has published a new session once;
its outcome is the answer of the registry. -/
lemma established (h : B.Registers depth r w x w' ts) (sound : ∀ cause, x ≠ .fault cause) :
    ∃ set u i answer v published last,
      ts = .node (.peer (.provided r.lower)) w set u i :: published ++ [last] ∧ last.before = v ∧
      OpSet.Complete set ∧ B.Publishes depth r u.issued (u.create r.profile) answer v published ∧
      x = match answer with
        | .ok () => .registered u.issued
        | .error e => .refused e := by
  cases h with
  | emptyPath | noOpens | incomplete => exact absurd rfl (sound _)
  | refused _ _ _ complete published _ =>
    exact ⟨_, _, _, _, _, _, _, rfl, rfl, complete, published, rfl⟩
  | registered _ _ _ complete published _ =>
    exact ⟨_, _, _, _, _, _, _, rfl, rfl, complete, published, rfl⟩

end Registers

/-- Registration is all or nothing.  It is carried out as the table of the outcomes says, so that it
returns whenever its calls do.  It faults exactly for an empty path, no opens, or an operation that
the lower half does not provide, whatever its other bits, in this order; in the last case the
journal is first told which operations are missing.  Without a fault the session is new and is
published once, and the outcome is what the registry answers.  The calls of each outcome are listed:
a request at fault reaches no registry, a failure discards the lower half once, and its operations
are not called. -/
theorem registration_all_or_nothing (B : Board σ) (depth : Nat) (r : RegistrationRequest)
    (w : World σ) :
    (∀ x, B.perform (depth + 1) (.service (.register r)) w = .ok x ↔
      ∃ ts, B.Registers depth r w x.result x.world ts ∧
        x.calls = [.node (.service (.register r)) w x.result x.world ts]) ∧
    ∀ x w' ts, B.Registers depth r w x w' ts →
      (x = .fault .emptyPath ↔ r.path = "") ∧
      (x = .fault .noOpens ↔ r.path ≠ "" ∧ r.config.maxOpens = 0) ∧
      (∀ path missing, x = .fault (.incomplete path missing) ↔
        r.path ≠ "" ∧ r.config.maxOpens ≠ 0 ∧ path = r.path ∧ ∃ set u i rest,
          ts = .node (.peer (.provided r.lower)) w set u i :: rest ∧ (∃ o, ¬ OpSet.Mem set o) ∧
            missing = OpSet.missing set ∧ (Notice.incomplete path missing).line =
              ⟨.fatal, "powerled: " ++ (r.path ++ ": lower half lacks " ++ Text.wrapped "OpSet"
                (" | ".intercalate ((OpSet.lacking set).map Operation.flagName)))⟩) ∧
      ((∀ cause, x ≠ .fault cause) → ∃ set u i answer v published last,
        ts = .node (.peer (.provided r.lower)) w set u i :: published ++ [last] ∧ last.before = v ∧
        (∀ o, OpSet.Mem set o) ∧
        (u.create r.profile).memory u.issued = Memory.new ∧
        (u.create r.profile).profile u.issued = ⟨r.lower, r.platform, r.config⟩ ∧
        B.Publishes depth r u.issued (u.create r.profile) answer v published ∧
        published.map CallTree.call = r.publication u.issued ∧
        x = match answer with
          | .ok () => .registered u.issued
          | .error e => .refused e) ∧
      (∃ s, ts.map CallTree.call = r.calls s x ∧ ∀ s', x = .registered s' → s' = s) ∧
      (∀ t ∈ ts, ∀ k h s o a, t.call ≠ .peer (.operate k h s o a)) ∧
      (ts.map CallTree.call).filterMap Call.discarded? = match x with
        | .registered _ => []
        | .refused _ | .fault _ => [r.lower] := by
  refine ⟨fun x => perform_register_iff, ?_⟩
  intro x w' ts registers
  obtain ⟨s, calls, number⟩ := registers.exists_calls
  obtain ⟨idle, discarded⟩ := RegistrationRequest.mem_calls (r := r) (s := s) (x := x)
  rw [← calls] at idle discarded
  refine ⟨registers.eq_emptyPath_iff, registers.eq_noOpens_iff, ?_, ?_, ⟨s, calls, number⟩, ?_,
    discarded⟩
  · intro path missing
    rw [registers.eq_incomplete_iff]
    constructor
    · rintro ⟨nonempty, opens, rfl, set, u, i, rest, tree, lacks, rfl⟩
      refine ⟨nonempty, opens, rfl, set, u, i, rest, tree, not_forall.mp lacks, rfl, ?_⟩
      rw [← OpSet.text_missing lacks]
      rfl
    · rintro ⟨nonempty, opens, rfl, set, u, i, rest, tree, lacks, rfl, -⟩
      exact ⟨nonempty, opens, rfl, set, u, i, rest, tree, not_forall.mpr lacks, rfl⟩
  · intro sound
    obtain ⟨set, u, i, answer, v, published, last, tree, before, complete, takes, outcome⟩ :=
      registers.established sound
    obtain ⟨memory, profile⟩ := u.create_session r.profile
    exact ⟨set, u, i, answer, v, published, last, tree, before, complete, memory, profile, takes,
      takes.calls_eq, outcome⟩
  · intro t ht
    exact idle t.call (List.mem_map_of_mem ht)

/-- Of two registrations at one path the first succeeds; the second discards its lower half. -/
theorem registration_all_or_nothing_twice :
    ∃ (B : Board Unit) (r : RegistrationRequest) (x y : Outcome Unit Registration)
      (ts us : List (CallTree Unit)),
      B.perform 3 (.service (.register r)) (World.initial ()) = .ok x ∧
      x.calls = [.node (.service (.register r)) (World.initial ()) x.result x.world ts] ∧
      x.result = .registered 0 ∧ ts.map CallTree.call =
        [.peer (.provided 0), .peer (.log (.registered "/dev/led"))] ∧
      B.perform 3 (.service (.register r)) x.world = .ok y ∧
      y.calls = [.node (.service (.register r)) x.world y.result y.world us] ∧
      y.result = .refused .alreadyExists ∧ us.map CallTree.call =
        [.peer (.provided 0), .peer (.discard 0)] := by
  let B : Board Unit := Board.obedient (pure (.ok ()))
  let r : RegistrationRequest := ⟨"/dev/led", 0, 0, Config.default, none⟩
  have both : (B.perform 3 (.service (.register r)) (World.initial ())).map (fun x =>
      (x.result, (B.perform 3 (.service (.register r)) x.world).map Outcome.result)) =
        .ok (.registered 0, .ok (.refused .alreadyExists)) := by decide +kernel
  cases hx : B.perform 3 (.service (.register r)) (World.initial ()) with
  | error e =>
    rw [hx] at both
    cases both
  | ok x =>
    rw [hx] at both
    obtain ⟨first, second⟩ := Prod.mk.inj (Except.ok.inj both)
    cases hy : B.perform 3 (.service (.register r)) x.world with
    | error e =>
      rw [hy] at second
      cases second
    | ok y =>
      rw [hy] at second
      have refused : y.result = .refused .alreadyExists := Except.ok.inj second
      obtain ⟨runs, told⟩ := registration_all_or_nothing B 2 r (World.initial ())
      obtain ⟨ts, registers, tree⟩ := (runs x).mp hx
      obtain ⟨-, -, -, -, ⟨s, calls, -⟩, -⟩ := told _ _ _ registers
      obtain ⟨runs', told'⟩ := registration_all_or_nothing B 2 r x.world
      obtain ⟨us, registers', tree'⟩ := (runs' y).mp hy
      obtain ⟨-, -, -, -, ⟨s', calls', -⟩, -⟩ := told' _ _ _ registers'
      rw [first] at calls
      rw [refused] at calls'
      exact ⟨B, r, x, y, ts, us, hx, tree, first, calls, hy, tree', refused, calls'⟩

end Board

end LedDriver
