import LedDriver.Proofs.Nesting.Mask
import LedDriver.Proofs.Registration.Outcome

/-!
# The record of a registration

What the deeds of a registration tell.  It puts an entry to the device table at most once, when its
request has passed the checks and its session is created, and the entry is its own
(`Registration.of_attempt`).  When it ends, its outcome is a fault if the request did not pass;
otherwise it is the answer to its entry (`Registration.of_complete`).
-/

namespace LedDriver

variable {σ α : Type}

/-- A program that has done several things has done the first of them first. -/
lemma Follows.of_append {p q : Action σ α} {d d' : List (Deed σ)} (h : Follows p (d ++ d') q) :
    ∃ m, Follows p d m ∧ Follows m d' q := by
  induction d generalizing p with
  | nil => exact ⟨p, .nil p, h⟩
  | cons x d ih =>
    cases h with
    | acted h =>
      obtain ⟨m, before, after⟩ := ih h
      exact ⟨m, .acted before, after⟩
    | received h =>
      obtain ⟨m, before, after⟩ := ih h
      exact ⟨m, .received before, after⟩

namespace Registration

variable {r : RegistrationRequest} {d d' : List (Deed σ)}

/-- A request has passed the checks, as the deeds of its registration tell: its path is not empty,
it allows opens, and its lower half has answered that it provides all operations. -/
def Validated (r : RegistrationRequest) (d : List (Deed σ)) : Prop :=
  r.path ≠ "" ∧ r.config.maxOpens ≠ 0 ∧
    ∃ set, .received (.peer (.provided r.lower)) set ∈ d ∧ OpSet.Complete set

/-- A request that has passed the checks has passed them for good. -/
lemma Validated.append (h : Validated r d) : Validated r (d ++ d') := by
  obtain ⟨path, opens, set, told, complete⟩ := h
  exact ⟨path, opens, set, List.mem_append_left _ told, complete⟩

/-- Nothing was put to the device table. -/
def Apart (d : List (Deed σ)) : Prop := ∀ m y, .acted (.table m) y ∉ d

/-- A registration creates its own session, once its request has passed the checks.  It uses the
device table only to put its own entry to it, once, when its session is created. -/
def Allows (r : RegistrationRequest) (d : List (Deed σ)) : Request σ → Prop
  | .atom (.create p) => p = r.profile ∧ Validated r d
  | .atom (.table m) => r.registry = none ∧ Validated r d ∧ Apart d ∧
      ∃ s, m = .insert (r.entry s) ∧ .acted (.create r.profile) s ∈ d
  | _ => True

/-- The outcome of a registration is told by its deeds. -/
def Told (r : RegistrationRequest) (x : Registration) (d : List (Deed σ)) : Prop :=
  (¬ Validated r d ∧ ∃ cause, x = .fault cause) ∨
    (Validated r d ∧ (r.registry = none → ∃ s y, .acted (.table (.insert (r.entry s))) y ∈ d ∧
      x = match y with
        | .ok () => .registered s
        | .error e => .refused e))

/-- What is left of a registration that is given up. -/
lemma abandon_obeys {x : Registration}
    (told : Told r x (d ++ [.received (.peer (.discard r.lower)) ()])) :
    (abandon r.lower x).Obeys (fun d x => d ++ [x]) (Allows r) (Told r) d :=
  ⟨trivial, fun _ => told⟩

/-- What is left of a registration when its registry has answered. -/
lemma conclusion_obeys {s : SessionId} {y : Except DeviceError Unit} (valid : Validated r d)
    (put : r.registry = none → .acted (.table (.insert (r.entry s))) y ∈ d) :
    (conclusion r s y).Obeys (fun d x => d ++ [x]) (Allows r) (Told r) d := by
  cases y with
  | error e =>
    refine abandon_obeys (.inr ⟨valid.append, fun own => ?_⟩)
    exact ⟨s, .error e, List.mem_append_left _ (put own), rfl⟩
  | ok _ =>
    refine ⟨trivial, fun _ => .inr ⟨valid.append, fun own => ?_⟩⟩
    exact ⟨s, .ok (), List.mem_append_left _ (put own), rfl⟩

/-- What is left of a registration whose request has passed the checks. -/
lemma establish_obeys (valid : Validated r d) (apart : Apart d) :
    (establish r).Obeys (fun d x => d ++ [x]) (Allows r) (Told r) d := by
  refine ⟨⟨rfl, valid⟩, fun s => ?_⟩
  have published : (publish r s : Action σ _).Obeys (fun d x => d ++ [x]) (Allows r)
      (fun y d => Validated r d ∧
        (r.registry = none → .acted (.table (.insert (r.entry s))) y ∈ d))
      (d ++ [.acted (.create r.profile) s]) := by
    cases registry : r.registry with
    | none =>
      have program : (publish r s : Action σ _) =
          locked .table (.table (.insert (r.entry s))) := by
        simp [publish, registry, DeviceTable.use, DeviceTable.settled?, valid.1,
          RegistrationRequest.entry]
      rw [program]
      refine ⟨trivial, fun _ => ⟨?_, fun y => ⟨trivial, fun _ => ⟨?_, fun _ => ?_⟩⟩⟩⟩
      · refine ⟨registry, valid.append.append, ?_, s, rfl, ?_⟩
        · intro m y
          simpa [Request.deed] using apart m y
        · exact List.mem_append_left _ (List.mem_append_right _ (.head _))
      · exact valid.append.append.append.append
      · exact List.mem_append_left _ (List.mem_append_right _ (.head _))
    | some k =>
      have program : (publish r s : Action σ _) =
          (Peer.publish k r.path s FileMode.readAll).make := by
        simp only [publish, registry]
      rw [program]
      exact ⟨trivial, fun y => ⟨valid.append.append, by rintro ⟨⟩⟩⟩
  exact published.bind fun y d h => conclusion_obeys h.1 h.2

/-- A registration keeps to what it is allowed, and its outcome is told by its deeds. -/
lemma register_obeys (r : RegistrationRequest) :
    (register r : Action σ _).Obeys (fun d x => d ++ [x]) (Allows r) (Told r) [] := by
  by_cases path : r.path = ""
  · have program : (register r : Action σ _) = abandon r.lower (.fault .emptyPath) := if_pos path
    rw [program]
    exact abandon_obeys (.inl ⟨fun valid => valid.1 path, _, rfl⟩)
  by_cases opens : r.config.maxOpens = 0
  · have program : (register r : Action σ _) = abandon r.lower (.fault .noOpens) :=
      (if_neg path).trans (if_pos opens)
    rw [program]
    exact abandon_obeys (.inl ⟨fun valid => valid.2.1 opens, _, rfl⟩)
  have program : (register r : Action σ _) =
      .ask (.call (.peer (.provided r.lower))) (examination r) := by
    unfold register
    rw [if_neg path, if_neg opens]
    rfl
  rw [program]
  refine ⟨trivial, fun set => ?_⟩
  unfold examination
  split
  · next complete =>
    have valid : Validated r ([.received (.peer (.provided r.lower)) set] : List (Deed σ)) :=
      ⟨path, opens, set, List.mem_singleton_self _, OpSet.missing_isEmpty_iff.mp complete⟩
    exact establish_obeys valid fun m y => by simp [Request.deed]
  · next lacks =>
    refine ⟨trivial, fun _ => abandon_obeys (.inl ⟨?_, _, rfl⟩)⟩
    rintro ⟨-, -, set', told, complete⟩
    have same : set' = set := by simpa [Request.deed] using told
    exact lacks (OpSet.missing_isEmpty_iff.mpr (same ▸ complete))

/-- Deeds that are added at the end are the deeds. -/
lemma foldl_append (d d' : List (Deed σ)) : d'.foldl (fun d x => d ++ [x]) d = d ++ d' := by
  induction d' generalizing d with
  | nil => simp
  | cons x d' ih => simp [ih]

/-- A registration that puts an entry to the table has passed the checks and has created a session
before, the entry is its own, and it has put nothing to the table before. -/
theorem of_attempt {q : Action σ Registration} {m : TableMethod SessionId} {y : m.Answer}
    (h : Follows (register r) (d ++ .acted (.table m) y :: d') q) :
    r.registry = none ∧ Validated r d ∧ Apart d ∧
      ∃ s, m = .insert (r.entry s) ∧ .acted (.create r.profile) s ∈ d := by
  obtain ⟨p, before, after⟩ := h.of_append
  have obeys := (register_obeys r).of_follows before
  rw [foldl_append, List.nil_append] at obeys
  cases after with
  | acted _ => exact obeys.1

/-- A registration that creates a session has passed the checks, and what is fixed about the session
is what was requested. -/
theorem of_create {p : Profile} {next : SessionId → Action σ Registration}
    (h : Follows (register r) d (.ask (.atom (.create p)) next)) :
    p = r.profile ∧ Validated r d := by
  have obeys := (register_obeys r).of_follows h
  rw [foldl_append, List.nil_append] at obeys
  exact obeys.1

/-- The outcome of a registration that ended is told by its deeds. -/
theorem of_complete {x : Registration} (h : Follows (register r) d (.done x)) : Told r x d := by
  have obeys := (register_obeys r).of_follows h
  rw [foldl_append, List.nil_append] at obeys
  exact obeys

/-- A registration that has put an entry to the table has put one entry and no other. -/
lemma attempt_unique {q : Action σ Registration} (h : Follows (register r) d q)
    {m : TableMethod SessionId} {y : m.Answer} (put : .acted (.table m) y ∈ d) :
    r.registry = none ∧ Validated r d ∧ ∃ s, m = .insert (r.entry s) ∧
      .acted (.create r.profile) s ∈ d ∧ ∀ p : Deed σ → Bool, (∀ x, p x = true →
        ∃ m y, x = .acted (.table m) y) → d.countP p ≤ 1 := by
  obtain ⟨d₁, d₂, rfl⟩ := List.append_of_mem put
  obtain ⟨own, valid, before, s, rfl, created⟩ := of_attempt h
  refine ⟨own, valid.append, s, rfl, List.mem_append_left _ created, ?_⟩
  have after : Apart d₂ := by
    intro m' y' put'
    obtain ⟨d₃, d₄, rfl⟩ := List.append_of_mem put'
    rw [← List.cons_append, ← List.append_assoc] at h
    obtain ⟨-, -, apart, -⟩ := of_attempt h
    exact apart _ _ (List.mem_append_right _ (.head _))
  intro p only
  have none {d : List (Deed σ)} (apart : Apart d) : d.countP p = 0 := by
    rw [List.countP_eq_zero]
    intro x hx holds
    obtain ⟨m, y, rfl⟩ := only x holds
    exact apart m y hx
  rw [List.countP_append, List.countP_cons, none before, none after]
  split <;> decide

end Registration

end LedDriver
