import Mathlib.Tactic.Common
import LedDriver.Proofs.System.Memory
import LedDriver.Proofs.System.Scope

/-!
# Runs of one party

How to reason about a party that runs alone.  A run of a program is taken apart at its first
question (`Board.run_atom_iff`, `Board.run_call_iff`), and a call is the run of its program one
level deeper (`Board.perform_succ_iff`).  Every tree in the outcome of a run, at any depth, is
itself a call that was carried out (`Board.perform_of_within`), so that what holds of every call
holds of every call in a run.

A relation between worlds that holds of every atom holds of every call (`Board.perform_related`),
and one that holds of everything that a program asks for holds of its run (`Board.run_of_only`).
-/

namespace LedDriver

variable {σ α β : Type}

namespace CallTree

/-- The call that was carried out. -/
def call : CallTree σ → Call
  | node c _ _ _ _ => c

/-- The world before the call. -/
def before : CallTree σ → World σ
  | node _ w _ _ _ => w

/-- The answer to the call. -/
def answer : (t : CallTree σ) → t.call.Answer
  | node _ _ x _ _ => x

/-- The world after the call. -/
def after : CallTree σ → World σ
  | node _ _ _ w _ => w

/-- The calls made inside the call. -/
def inner : CallTree σ → List (CallTree σ)
  | node _ _ _ _ ts => ts

/-- The call is among the calls of a list or inside one of them, at any depth. -/
inductive Within (t : CallTree σ) : List (CallTree σ) → Prop
  | here {ts : List (CallTree σ)} (h : t ∈ ts) : Within t ts
  | inside {u : CallTree σ} {ts : List (CallTree σ)} (hu : u ∈ ts) (h : Within t u.inner) :
    Within t ts

/-- No call is within none. -/
lemma not_within_nil (t : CallTree σ) : ¬ t.Within [] := by
  intro h
  cases h with
  | here h => exact List.not_mem_nil h
  | inside hu _ => exact List.not_mem_nil hu

/-- No call of a list, at any depth, is one of some calls. -/
def Avoid (π : Call → Prop) (ts : List (CallTree σ)) : Prop :=
  ∀ t : CallTree σ, t.Within ts → ¬ π t.call

variable {π : Call → Prop} {ts us : List (CallTree σ)}

lemma avoid_nil : Avoid π ([] : List (CallTree σ)) := fun t ht => absurd ht t.not_within_nil

lemma Avoid.append (ht : Avoid π ts) (hu : Avoid π us) : Avoid π (ts ++ us) := by
  intro t h
  cases h with
  | here h =>
    rcases List.mem_append.mp h with h | h
    · exact ht t (.here h)
    · exact hu t (.here h)
  | inside hv h =>
    rcases List.mem_append.mp hv with hv | hv
    · exact ht t (.inside hv h)
    · exact hu t (.inside hv h)

lemma Avoid.node {c : Call} {w w' : World σ} {x : c.Answer} (hc : ¬ π c) (ht : Avoid π ts) :
    Avoid π [CallTree.node c w x w' ts] := by
  intro t h
  cases h with
  | here h =>
    obtain rfl := List.mem_singleton.mp h
    exact hc
  | inside hv h =>
    obtain rfl := List.mem_singleton.mp hv
    exact ht t h

end CallTree

/-- One run and then another, if both have an outcome. -/
lemma Run.bind_ok {m : Run σ α} {f : α → Run σ β} {w : World σ} {x : Outcome σ α}
    {y : Outcome σ β} (first : m w = .ok x) (second : f x.result x.world = .ok y) :
    m.bind f w = .ok ⟨y.result, y.world, x.calls ++ y.calls⟩ := by
  simp only [bind, first, second]

namespace Board

variable {B : Board σ} {depth : Nat} {w : World σ}

/-! ## Taking runs apart -/

/-- A run that begins with an atom goes on after its effect. -/
lemma run_atom_iff {a : Atom σ} {next : a.Answer → Action σ α} {x : Outcome σ α} :
    B.run depth (.ask (.atom a) next) w = .ok x ↔
      ∃ r, a.apply w = .ok r ∧ B.run depth (next r.1) r.2 = .ok x := by
  rw [run_ask]
  simp only [Run.bind, Request.run, Atom.run]
  cases a.apply w with
  | error o => simp
  | ok r =>
    simp only [List.nil_append, Except.ok.injEq, exists_eq_left']
    cases B.run depth (next r.1) r.2 <;> simp

/-- A run that begins with an atom whose effect is known. -/
lemma run_atom {a : Atom σ} {next : a.Answer → Action σ α} {r : a.Answer × World σ}
    (h : a.apply w = .ok r) :
    B.run depth (.ask (.atom a) next) w = B.run depth (next r.1) r.2 := by
  rw [run_ask]
  simp only [Run.bind, Request.run, Atom.run, h, List.nil_append]
  cases B.run depth (next r.1) r.2 <;> rfl

/-- A run that begins with an atom whose effect is known is the run after that. -/
lemma run_of_effect {a : Atom σ} {next : a.Answer → Action σ α} {x : Outcome σ α}
    {r : a.Answer × World σ} (h : B.run depth (.ask (.atom a) next) w = .ok x)
    (effect : a.effect w = .ok r) : B.run depth (next r.1) r.2 = .ok x := by
  obtain ⟨r', applied, rest⟩ := run_atom_iff.mp h
  obtain ⟨-, effect'⟩ := Atom.apply_eq_ok_iff.mp applied
  cases effect.symm.trans effect'
  exact rest

/-- A run that begins with a call goes on after the call. -/
lemma run_call_iff {c : Call} {next : c.Answer → Action σ α} {x : Outcome σ α} :
    B.run depth (.ask (.call c) next) w = .ok x ↔
      ∃ y z, B.perform depth c w = .ok y ∧ B.run depth (next y.result) y.world = .ok z ∧
        x = ⟨z.result, z.world, y.calls ++ z.calls⟩ := by
  rw [run_ask]
  simp only [Run.bind, Request.run]
  cases B.perform depth c w with
  | error e => simp
  | ok y =>
    simp only [Except.ok.injEq, exists_and_left, exists_eq_left']
    cases B.run depth (next y.result) y.world <;> simp [eq_comm]

/-- A reaction that begins with a change of its own state goes on after the change. -/
lemma run_own_iff {f : σ → σ} {next : σ → Reaction σ α} {x : Outcome σ α} :
    B.run depth (Reaction.action (.ask (.own f) next)) w = .ok x ↔
      B.run depth (Reaction.action (next w.own)) { w with own := f w.own } = .ok x :=
  Eq.congr_left (run_atom (a := .own f) rfl)

/-- A reaction that begins with the use of a service goes on after the service. -/
lemma run_use_iff {c : Service} {next : c.Answer → Reaction σ α} {x : Outcome σ α} :
    B.run depth (Reaction.action (.ask (.service c) next)) w = .ok x ↔
      ∃ y z, B.perform depth (.service c) w = .ok y ∧
        B.run depth (Reaction.action (next y.result)) y.world = .ok z ∧
        x = ⟨z.result, z.world, y.calls ++ z.calls⟩ :=
  run_call_iff

/-- A run of one program and then another. -/
lemma run_bind_iff {p : Action σ α} {f : α → Action σ β} {x : Outcome σ β} :
    B.run depth (p.bind f) w = .ok x ↔
      ∃ y z, B.run depth p w = .ok y ∧ B.run depth (f y.result) y.world = .ok z ∧
        x = ⟨z.result, z.world, y.calls ++ z.calls⟩ := by
  rw [run_bind]
  simp only [Run.bind]
  cases B.run depth p w with
  | error e => simp
  | ok y =>
    simp only [Except.ok.injEq, exists_and_left, exists_eq_left']
    cases B.run depth (f y.result) y.world <;> simp [eq_comm]

/-- A run of a program that is done. -/
lemma run_done_iff {a : α} {x : Outcome σ α} :
    B.run depth (.done a) w = .ok x ↔ x = ⟨a, w, []⟩ := by
  simp [eq_comm]

/-- A call that was carried out is the run of its program. -/
lemma perform_succ_iff {c : Call} {x : Outcome σ c.Answer} :
    B.perform (depth + 1) c w = .ok x ↔
      ∃ y, B.run depth (B.program c) w = .ok y ∧
        x = ⟨y.result, y.world, [.node c w y.result y.world y.calls]⟩ := by
  have unfolded : B.perform (depth + 1) c w = (B.run depth (B.program c)).asCall c w := rfl
  rw [unfolded]
  simp only [Run.asCall]
  cases B.run depth (B.program c) w <;> simp [eq_comm]

/-- At depth zero no call is carried out. -/
lemma perform_zero_ne {c : Call} {x : Outcome σ c.Answer} : B.perform 0 c w ≠ .ok x := nofun

/-- A call that was carried out has its own tree. -/
lemma exists_of_perform {c : Call} {x : Outcome σ c.Answer} (h : B.perform depth c w = .ok x) :
    ∃ d inner, depth = d + 1 ∧ B.run d (B.program c) w = .ok ⟨x.result, x.world, inner⟩ ∧
      x.calls = [.node c w x.result x.world inner] := by
  cases depth with
  | zero => exact absurd h perform_zero_ne
  | succ d =>
    obtain ⟨y, hy, rfl⟩ := perform_succ_iff.mp h
    exact ⟨d, y.calls, rfl, hy, rfl⟩

/-- What is carried out is carried out in the same way where calls may nest more deeply. -/
lemma perform_mono {deeper : Nat} (le : depth ≤ deeper) {c : Call} {x : Outcome σ c.Answer}
    (h : B.perform depth c w = .ok x) : B.perform deeper c w = .ok x := by
  induction depth generalizing deeper c w x with
  | zero => exact absurd h perform_zero_ne
  | succ depth ih =>
    obtain ⟨deeper, rfl⟩ := Nat.exists_eq_add_of_le' (Nat.le_trans (Nat.succ_pos depth) le)
    have programs {α : Type} (p : Action σ α) {w : World σ} {y : Outcome σ α}
        (hy : B.run depth p w = .ok y) : B.run deeper p w = .ok y := by
      induction p generalizing w y with
      | done a => exact hy
      | ask q next ihp =>
        cases q with
        | atom a =>
          obtain ⟨r, effect, rest⟩ := run_atom_iff.mp hy
          exact run_atom_iff.mpr ⟨r, effect, ihp _ rest⟩
        | call c =>
          obtain ⟨u, v, called, rest, rfl⟩ := run_call_iff.mp hy
          exact run_call_iff.mpr ⟨u, v, ih (Nat.le_of_succ_le_succ le) called, ihp _ rest, rfl⟩
    obtain ⟨y, hy, rfl⟩ := perform_succ_iff.mp h
    exact perform_succ_iff.mpr ⟨y, programs _ hy, rfl⟩

/-! ## Calls in a run -/

/-- A call that is made by a program is carried out. -/
lemma perform_of_mem {p : Action σ α} {x : Outcome σ α} {t : CallTree σ}
    (h : B.run depth p w = .ok x) (ht : t ∈ x.calls) :
    B.perform depth t.call t.before = .ok ⟨t.answer, t.after, [t]⟩ := by
  induction p generalizing w x with
  | done a =>
    obtain rfl := run_done_iff.mp h
    exact absurd ht List.not_mem_nil
  | ask q next ih =>
    cases q with
    | atom a =>
      obtain ⟨r, -, hr⟩ := run_atom_iff.mp h
      exact ih r.1 hr ht
    | call c =>
      obtain ⟨y, z, hy, hz, rfl⟩ := run_call_iff.mp h
      rcases List.mem_append.mp ht with ht | ht
      · obtain ⟨d, inner, rfl, -, hcalls⟩ := exists_of_perform hy
        rw [hcalls] at ht
        obtain rfl := List.mem_singleton.mp ht
        rw [← hcalls]
        exact hy
      · exact ih y.result hz ht

/-- A program makes only calls that it asks for. -/
lemma asked_of_mem {π : Request σ → Prop} {p : Action σ α} (hp : p.Only π) {x : Outcome σ α}
    (h : B.run depth p w = .ok x) {t : CallTree σ} (ht : t ∈ x.calls) : π (.call t.call) := by
  induction p generalizing w x with
  | done a =>
    obtain rfl := run_done_iff.mp h
    exact absurd ht List.not_mem_nil
  | ask q next ih =>
    cases q with
    | atom a =>
      obtain ⟨r, -, hr⟩ := run_atom_iff.mp h
      exact ih r.1 (hp.2 _) hr ht
    | call c =>
      obtain ⟨y, z, hy, hz, rfl⟩ := run_call_iff.mp h
      rcases List.mem_append.mp ht with ht | ht
      · obtain ⟨d, inner, -, -, hcalls⟩ := exists_of_perform hy
        rw [hcalls] at ht
        obtain rfl := List.mem_singleton.mp ht
        exact hp.1
      · exact ih y.result (hp.2 _) hz ht

/-- Every call in a run, at any depth, is a call that is carried out. -/
theorem perform_of_within {p : Action σ α} {x : Outcome σ α} {t : CallTree σ}
    (h : B.run depth p w = .ok x) (ht : t.Within x.calls) :
    ∃ d, B.perform d t.call t.before = .ok ⟨t.answer, t.after, [t]⟩ := by
  generalize hts : x.calls = ts at ht
  induction ht generalizing α depth p w x with
  | here mem =>
    subst hts
    exact ⟨depth, perform_of_mem h mem⟩
  | @inside u ts hu ht ih =>
    subst hts
    have performed := perform_of_mem h hu
    obtain ⟨d, inner, -, hrun, hcalls⟩ := exists_of_perform performed
    have own : u = .node u.call u.before u.answer u.after inner := List.singleton_inj.mp hcalls
    have nested : inner = u.inner := by rw [own]; rfl
    exact ih hrun nested

/-! ## What runs keep -/

variable {R : World σ → World σ → Prop}

/-- A relation between worlds that holds of everything that a program asks for holds of its run. -/
theorem run_of_only {π : Request σ → Prop} (refl : ∀ w, R w w)
    (trans : ∀ {u v w}, R u v → R v w → R u w)
    (atoms : ∀ a, π (.atom a) → ∀ w r, a.apply w = .ok r → R w r.2)
    (calls : ∀ c, π (.call c) → ∀ w x, B.perform depth c w = .ok x → R w x.world)
    {p : Action σ α} (hp : p.Only π) {x : Outcome σ α} (h : B.run depth p w = .ok x) :
    R w x.world := by
  induction p generalizing w x with
  | done a =>
    obtain rfl := run_done_iff.mp h
    exact refl w
  | ask q next ih =>
    cases q with
    | atom a =>
      obtain ⟨r, ha, hr⟩ := run_atom_iff.mp h
      exact trans (atoms a hp.1 w r ha) (ih r.1 (hp.2 _) hr)
    | call c =>
      obtain ⟨y, z, hy, hz, rfl⟩ := run_call_iff.mp h
      have later : R y.world z.world := ih y.result (hp.2 _) hz
      exact trans (calls c hp.1 w y hy) later

/-- A relation between worlds that holds of every atom holds of every call. -/
theorem perform_related (refl : ∀ w, R w w) (trans : ∀ {u v w}, R u v → R v w → R u w)
    (atoms : ∀ (a : Atom σ) w r, a.apply w = .ok r → R w r.2) {c : Call} {x : Outcome σ c.Answer}
    (h : B.perform depth c w = .ok x) : R w x.world := by
  induction depth generalizing c w with
  | zero => exact absurd h perform_zero_ne
  | succ depth ih =>
    obtain ⟨y, hy, rfl⟩ := perform_succ_iff.mp h
    have inside : R w y.world :=
      run_of_only refl trans (fun a _ => atoms a) (fun c _ w x => ih) (B.program_asks c) hy
    exact inside

/-- Sessions are created one after the other, and what was fixed about a session stays. -/
lemma issued_le_of_perform {c : Call} {x : Outcome σ c.Answer} (h : B.perform depth c w = .ok x) :
    w.issued ≤ x.world.issued ∧ ∀ s < w.issued, x.world.profile s = w.profile s := by
  refine perform_related (R := fun v w => v.issued ≤ w.issued ∧
    ∀ s < v.issued, w.profile s = v.profile s) ?_ ?_ ?_ h
  · intro w
    exact ⟨Nat.le_refl _, fun _ _ => rfl⟩
  · intro u v w huv hvw
    refine ⟨Nat.le_trans huv.1 hvw.1, fun s hs => ?_⟩
    rw [hvw.2 s (Nat.lt_of_lt_of_le hs huv.1), huv.2 s hs]
  · intro a w r ha
    exact (Atom.Performs.effect ha).issued_le

/-! ## Clients of services -/

end Board

/-- A client that uses services one after the other. -/
def Service.inTurn : List Service → Reaction σ Unit
  | [] => pure ()
  | c :: cs => do
    let _ ← c.use
    inTurn cs

namespace Board

variable {B : Board σ} {depth : Nat} {w : World σ}

/-- The run of a client that uses one service and then others. -/
lemma run_inTurn_cons_iff {c : Service} {cs : List Service} {x : Outcome σ Unit} :
    B.run depth (Service.inTurn (c :: cs)).action w = .ok x ↔
      ∃ y z, B.perform depth (.service c) w = .ok y ∧
        B.run depth (Service.inTurn cs).action y.world = .ok z ∧
        x = ⟨(), z.world, y.calls ++ z.calls⟩ :=
  run_call_iff

end Board

end LedDriver
