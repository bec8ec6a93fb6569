import Mathlib.Tactic.Common
import LedDriver.Command.Policy
import LedDriver.Proofs.ControlBlock.Latch

/-!
# Settings

The limits and the parameters of a device are set by a command each, on the same way: the upper half
reads what is set and refuses the command if that is locked or if the new value is out of range, and
the lower half stores the new value, which is denied if the old one is locked.  A `Setting` is a new
value for the one or the other, and `Setting.carryOut` is the command as a single action, for a
lower half that stores the value or fails with an error of its own.

A store does what the command as a whole would do at that time (`Setting.carryOut_of_inRange`).
Among commands that are carried out in order, one that sets a lock is the last of its kind that
succeeds (`Setting.locked_inOrder`).
-/

namespace LedDriver

/-- What is set in a control block. -/
structure Settings where
  limits : Limits
  params : Params
deriving DecidableEq

/-- What is set in a control block. -/
def ControlBlock.settings (b : ControlBlock) : Settings := ⟨b.limits, b.params⟩

/-- New limits or new parameters. -/
inductive Setting where
  | limits (new : Limits)
  | params (new : Params)
deriving DecidableEq

/-- What is set in one of the two places. -/
def Settings.get (S : Settings) : Latch → Setting
  | .limits => .limits S.limits
  | .params => .params S.params

/-- The settings with a new value in its place. -/
def Settings.set (S : Settings) : Setting → Settings
  | .limits new => { S with limits := new }
  | .params new => { S with params := new }

/-- Why new limits or parameters are refused, if they are. -/
def Settings.refusal? (S : Settings) : Setting → Option Refusal
  | .limits _ => S.limits.changeRefusal?
  | .params new => S.params.changeRefusal? new

namespace Setting

/-- The place of a setting. -/
def latch : Setting → Latch
  | limits _ => .limits
  | params _ => .params

/-- The value has its lock set. -/
def locks : Setting → Bool
  | limits new => new.lock
  | params new => new.lock

/-- The value may be set if nothing is locked. -/
def InRange : Setting → Prop
  | limits _ => True
  | params new => new.inRange = true

/-- The command that sets a value. -/
@[reducible]
def command : Setting → Command
  | limits new => .setLimits new
  | params new => .setParams new

/-- The method with which the upper half reads what is set. -/
@[reducible]
def look : Setting → ControlMethod
  | limits _ => .limits
  | params _ => .params

/-- The method with which the lower half stores the value. -/
@[reducible]
def store : Setting → ControlMethod
  | limits new => .storeLimits new
  | params new => .storeParams new

/-- The result of the store. -/
def stored : (x : Setting) → x.store.Answer → Except DeviceError Unit
  | limits _, r | params _, r => r

/-- The result of the operation of the lower half. -/
def reported : (x : Setting) → x.command.operation.Answer → Except DeviceError Unit
  | limits _, r | params _, r => r

/-- Why the upper half refuses the command when it has read what is set. -/
def refusedBy : (x : Setting) → x.look.Answer → Option Refusal
  | limits _, old => old.changeRefusal?
  | params new, old => old.changeRefusal? new

/-- The answer that a client receives. -/
def answer (x : Setting) (r : Except DeviceError Unit) : CommandAnswer :=
  ⟨r.map fun _ => 0, x.command⟩

/-- The command as a single action: its result and what is set then.  If it is admitted, the lower
half stores the value or fails with an error of its own. -/
def carryOut (x : Setting) (failure : Option DeviceError) (S : Settings) :
    Except DeviceError Unit × Settings :=
  match S.refusal? x, failure with
  | some r, _ => (.error r.error, S)
  | none, some e => (.error e, S)
  | none, none => (.ok (), S.set x)

/-- Commands that are carried out one after the other: their results and what is set then. -/
def inOrder : List (Setting × Option DeviceError) → Settings →
    List (Except DeviceError Unit) × Settings
  | [], S => ([], S)
  | (x, failure) :: xs, S =>
    let first := x.carryOut failure S
    let rest := inOrder xs first.2
    (first.1 :: rest.1, rest.2)

/-! ## The command and its parts -/

variable {x : Setting} {S : Settings} {b : ControlBlock} {failure : Option DeviceError}

/-- The policy is that of the command. -/
lemma refusal?_settings (x : Setting) (b : ControlBlock) :
    b.settings.refusal? x = x.command.refusal? b := by
  cases x <;> rfl

/-- The answer tells what the lower half reported. -/
lemma concluded_eq (x : Setting) (z : x.command.operation.Answer) :
    x.command.concluded z = x.answer (x.reported z) := by
  cases x <;> rfl

/-- What the upper half reads tells it whether to refuse the command, and is not changed. -/
lemma look_apply (x : Setting) (b : ControlBlock) :
    x.refusedBy (x.look.apply b).1 = b.settings.refusal? x ∧ (x.look.apply b).2 = b := by
  cases x <;> exact ⟨rfl, rfl⟩

/-- A setting is refused if there is a lock or if it is out of range. -/
lemma refusal?_eq_none_iff : S.refusal? x = none ↔ (S.get x.latch).locks = false ∧ x.InRange := by
  cases x with
  | limits new =>
    simp only [Settings.refusal?, Limits.changeRefusal?, Settings.get, latch, locks, InRange]
    split <;> simp_all
  | params new =>
    exact Params.changeRefusal?_eq_none_iff

/-- A command that was not refused is in range. -/
lemma inRange_of_refusedBy {old : x.look.Answer} (admitted : x.refusedBy old = none) :
    x.InRange := by
  cases x with
  | limits => trivial
  | params new =>
    exact (Params.changeRefusal?_eq_none_iff.mp admitted).2

/-- A setting that is refused is denied. -/
lemma error_of_refusal? {r : Refusal} (h : S.refusal? x = some r) :
    r.error = .permissionDenied := by
  cases x with
  | limits new =>
    simp only [Settings.refusal?, Limits.changeRefusal?] at h
    split at h <;> cases h
    rfl
  | params new =>
    simp only [Settings.refusal?, Params.changeRefusal?] at h
    split at h
    · cases h
      rfl
    · split at h <;> cases h
      rfl

lemma carryOut_of_refusal? {r : Refusal} (h : S.refusal? x = some r) :
    x.carryOut failure S = (.error .permissionDenied, S) := by
  rw [← error_of_refusal? h]
  simp [carryOut, h]

lemma carryOut_of_admitted (h : S.refusal? x = none) :
    x.carryOut none S = (.ok (), S.set x) := by simp [carryOut, h]

lemma carryOut_of_failure {e : DeviceError} (h : S.refusal? x = none) :
    x.carryOut (some e) S = (.error e, S) := by simp [carryOut, h]

/-- The store does what the command as a whole would do, if the value is in range. -/
lemma carryOut_of_inRange (h : x.InRange) (b : ControlBlock) :
    x.carryOut none b.settings = (x.stored (x.store.apply b).1, (x.store.apply b).2.settings) := by
  cases refused : b.settings.refusal? x with
  | none =>
    have free := (refusal?_eq_none_iff.mp refused).1
    rw [carryOut_of_admitted refused]
    cases x <;> simp_all [Settings.get, latch, locks, ControlMethod.apply, stored, Settings.set,
      ControlBlock.settings]
  | some r =>
    have locked : (b.settings.get x.latch).locks = true := by
      by_contra free
      rw [refusal?_eq_none_iff.mpr ⟨Bool.eq_false_of_not_eq_true free, h⟩] at refused
      cases refused
    rw [carryOut_of_refusal? refused]
    cases x <;> simp_all [Settings.get, latch, locks, ControlMethod.apply, stored,
      ControlBlock.settings]

/-- A method that stores neither limits nor parameters leaves both as they are. -/
lemma settings_apply {m : ControlMethod} (h : ∀ x : Setting, m ≠ x.store) (b : ControlBlock) :
    (m.apply b).2.settings = b.settings := by
  cases m with
  | storeLimits new => exact absurd rfl (h (.limits new))
  | storeParams new => exact absurd rfl (h (.params new))
  | _ => rfl

/-! ## Locks -/

/-- Where there is a lock, a command is denied. -/
lemma carryOut_of_locked (h : (S.get x.latch).locks = true) :
    x.carryOut failure S = (.error .permissionDenied, S) := by
  cases refused : S.refusal? x with
  | none =>
    have free := (refusal?_eq_none_iff.mp refused).1
    rw [h] at free
    cases free
  | some r => exact carryOut_of_refusal? refused

/-- A command that succeeds sets its value. -/
lemma carryOut_of_ok (h : (x.carryOut failure S).1 = .ok ()) :
    (x.carryOut failure S).2 = S.set x := by
  unfold carryOut at h ⊢
  split at h <;> first | rfl | cases h

/-- What is locked stays. -/
lemma get_carryOut {k : Latch} (h : (S.get k).locks = true) :
    (x.carryOut failure S).2.get k = S.get k := by
  by_cases same : k = x.latch
  · subst same
    rw [carryOut_of_locked h]
  · have other : (S.set x).get k = S.get k := by
      cases x <;> cases k <;> first | rfl | exact absurd rfl same
    unfold carryOut
    split <;> first | rfl | exact other

/-- Where a value was set, it is. -/
@[simp] lemma get_set (S : Settings) (x : Setting) : (S.set x).get x.latch = x := by
  cases x <;> rfl

/-! ## Commands in order -/

/-- One more command. -/
lemma inOrder_snoc (xs : List (Setting × Option DeviceError)) (x : Setting)
    (failure : Option DeviceError) (S : Settings) :
    inOrder (xs ++ [(x, failure)]) S =
      ((inOrder xs S).1 ++ [(x.carryOut failure (inOrder xs S).2).1],
        (x.carryOut failure (inOrder xs S).2).2) := by
  induction xs generalizing S with
  | nil => rfl
  | cons y xs ih => simp only [List.cons_append, inOrder, ih]

section Results

variable {δ : Type} {issue : δ → Setting × Option DeviceError}
  {result : δ → Except DeviceError Unit} {es : List δ} {S' : Settings}

/-- The first of some commands that are carried out in order, and the others. -/
lemma inOrder_cons_iff {e : δ} : inOrder ((e :: es).map issue) S = ((e :: es).map result, S') ↔
    (issue e).1.carryOut (issue e).2 S = (result e, ((issue e).1.carryOut (issue e).2 S).2) ∧
      inOrder (es.map issue) ((issue e).1.carryOut (issue e).2 S).2 = (es.map result, S') := by
  simp only [List.map_cons, inOrder, Prod.ext_iff, List.cons.injEq]
  tauto

/-- What is locked stays, and all commands for its place are denied. -/
lemma denied_inOrder {k : Latch} (locked : (S.get k).locks = true)
    (h : inOrder (es.map issue) S = (es.map result, S')) :
    S'.get k = S.get k ∧ ∀ e ∈ es, (issue e).1.latch = k → result e = .error .permissionDenied := by
  induction es generalizing S with
  | nil =>
    cases h
    exact ⟨rfl, nofun⟩
  | cons e es ih =>
    obtain ⟨first, rest⟩ := inOrder_cons_iff.mp h
    have kept : ((issue e).1.carryOut (issue e).2 S).2.get k = S.get k := get_carryOut locked
    obtain ⟨final, denied⟩ := ih (kept ▸ locked) rest
    refine ⟨final.trans kept, List.forall_mem_cons.mpr ⟨fun place => ?_, denied⟩⟩
    subst place
    rw [carryOut_of_locked locked] at first
    exact (congrArg Prod.fst first).symm

/-- A command that sets a lock and succeeds is the last of its kind that succeeds, and what it sets
stays. -/
theorem locked_inOrder (h : inOrder (es.map issue) S = (es.map result, S')) :
    es.Pairwise (fun e e' => (issue e).1.locks = true → result e = .ok () →
      (issue e').1.latch = (issue e).1.latch → result e' = .error .permissionDenied) ∧
    ∀ e ∈ es, (issue e).1.locks = true → result e = .ok () →
      S'.get (issue e).1.latch = (issue e).1 := by
  induction es generalizing S with
  | nil => exact ⟨.nil, nofun⟩
  | cons e es ih =>
    obtain ⟨first, rest⟩ := inOrder_cons_iff.mp h
    obtain ⟨pairs, values⟩ := ih rest
    have set (done : result e = .ok ()) :
        ((issue e).1.carryOut (issue e).2 S).2.get (issue e).1.latch = (issue e).1 := by
      rw [carryOut_of_ok ((congrArg Prod.fst first).trans done), get_set]
    have after (locks : (issue e).1.locks = true) (done : result e = .ok ()) :=
      denied_inOrder (k := (issue e).1.latch) (by rwa [set done]) rest
    refine ⟨.cons (fun e' he' locks done place => (after locks done).2 e' he' place) pairs,
      List.forall_mem_cons.mpr ⟨fun locks done => ?_, values⟩⟩
    rw [(after locks done).1, set done]

end Results

end Setting

end LedDriver
