import LedDriver.Proofs.Lifecycle.Accounting

/-!
# Records of opens and closes

What an open or a close that ended has done, one case for every way through its program
(`Session.openDevice_record`, `Session.closeDevice_deeds`), and what this means for the hardware and
for the open count (`OpenRecord.facts`, `CloseRecord.facts`).  Whatever else is to be known of such
a call is read off its deeds, and the programs are not followed again.  An open or a close in
progress stores the open count once, and changes it by one with that (`Session.openDevice_gain`,
`Session.closeDevice_gain`).
-/

namespace LedDriver

variable {σ α : Type} {n : Nat}

/-- The call in a deed sets up the hardware of a session, whatever the result. -/
@[simp]
def Deed.isSetup (s : SessionId) : Deed σ → Bool
  | .received c _ => c.isSetup s
  | .acted _ _ => false

/-- The deed is an attempt to set up the hardware of a session that failed. -/
@[simp]
def Deed.isFailedSetup (s : SessionId) : Deed σ → Bool
  | .received (.peer (.operate .driver _ u .setup _)) (.error _) => u == s
  | _ => false

/-- The call in a deed puts the hardware of a session to rest, whatever the result. -/
@[simp]
def Deed.isShutdown (s : SessionId) : Deed σ → Bool
  | .received c _ => c.isShutdown s
  | .acted _ _ => false

/-- The deed obtains the permit of the guard of a session. -/
@[simp]
def Deed.isEntry (s : SessionId) : Deed σ → Bool
  | .received (.routine (.wait g _)) (.ok _) => g == .guard s
  | _ => false

/-- The open count of a session that a deed reads. -/
@[simp]
def Deed.found? (s : SessionId) : Deed σ → Option UInt8
  | .acted (.count u) n => if u = s then some n else none
  | _ => none

lemma Deed.eq_of_found? {s : SessionId} {x : Deed σ} {m : UInt8} (h : x.found? s = some m) :
    x = .acted (.count s) m := by
  unfold found? at h
  split at h
  · split at h
    · next hu =>
      subst hu
      cases h
      rfl
    · cases h
  · cases h

/-- The open count of a session that a program found. -/
def found (s : SessionId) (d : List (Deed σ)) : Option UInt8 := d.findSome? (Deed.found? s)

@[simp] lemma found_cons_profile (s u : SessionId) (p : Profile) (d : List (Deed σ)) :
    found s (.acted (.profile u) p :: d) = found s d := rfl

@[simp] lemma found_cons_received (s : SessionId) (c : Call) (x : c.Answer) (d : List (Deed σ)) :
    found s (.received c x :: d) = found s d := rfl

@[simp] lemma found_cons_count (s : SessionId) (n : UInt8) (d : List (Deed σ)) :
    found s (.acted (.count s) n :: d) = some n := by
  simp [found]

/-- The deed that writes a line. -/
abbrev Deed.wrote (n : Notice) : Deed σ := .received (.peer (.log n)) ()

/-- The deed stores the open count of a session. -/
@[simp]
def Deed.isStore (s : SessionId) : Deed σ → Bool
  | .acted (.setCount u _) _ => u == s
  | _ => false

lemma found_snoc (s : SessionId) (d : List (Deed σ)) (x : Deed σ) :
    found s (d ++ [x]) = (found s d).or (x.found? s) := by
  simp [found, List.findSome?_append]

/-- The question is not a store of the open count of a session. -/
def Request.StoresNot (s : SessionId) : Request σ → Prop
  | .atom (.setCount u _) => u ≠ s
  | _ => True

lemma Deed.isStore_eq_false_iff {s : SessionId} {x : Deed σ} :
    x.isStore s = false ↔ x.request.StoresNot s := by
  cases x with
  | received c y => exact iff_of_true rfl trivial
  | acted a y =>
    cases a <;> try exact iff_of_true rfl trivial
    simp [Deed.request, Request.StoresNot]

namespace Standing

variable {s : SessionId}

/-- Only a stored count is a change of the open count. -/
lemma next_same (t : Standing) {d : Deed σ} (hd : d.isStore s = false) :
    (t.next s d).gain = t.gain ∧ (t.next s d).ended = t.ended := by
  unfold next
  split <;> try exact ⟨rfl, rfl⟩
  case h_6 => exact receive_same s t _ _
  case h_5 u v _ =>
    rw [if_neg (by simpa using hd)]
    exact ⟨rfl, rfl⟩
  all_goals
    split
    · simp [enter_same, leave_same, look_same]
    · exact ⟨rfl, rfl⟩

/-- Deeds that store no count change none. -/
lemma of_append_same {d' : List (Deed σ)} (h : ∀ x ∈ d', x.isStore s = false)
    (d : List (Deed σ)) :
    (of s (d ++ d')).gain = (of s d).gain ∧ (of s (d ++ d')).ended = (of s d).ended := by
  induction d' using List.reverseRecOn with
  | nil => simp
  | append_singleton d' x ih =>
    rw [List.forall_mem_append, List.forall_mem_singleton] at h
    obtain ⟨gain, ended⟩ := ih h.1
    obtain ⟨gain', ended'⟩ := (of s (d ++ d')).next_same h.2
    rw [← List.append_assoc, of_snoc]
    exact ⟨gain'.trans gain, ended'.trans ended⟩

/-- A program that went astray stays astray. -/
lemma of_append_astray (d d' : List (Deed σ)) (h : (of s d).stage = .astray) :
    (of s (d ++ d')).stage = .astray := by
  induction d' using List.reverseRecOn with
  | nil => simpa using h
  | append_singleton d' x ih =>
    rw [← List.append_assoc, of_snoc]
    exact next_astray _ ih x

/-- Only an attempt to set up the hardware leads to a reference that is not counted yet. -/
lemma next_stage_ne_ready {t : Standing} (ht : t.stage ≠ .ready) {d : Deed σ}
    (hd : d.isSetup s = false) : (t.next s d).stage ≠ .ready := by
  unfold next
  split <;> try exact ht
  case h_6 =>
    unfold receive
    split <;> try exact ht
    all_goals
      split <;> try exact ht
    case h_4.isTrue h => simp [Call.isSetup, h] at hd
    all_goals
      simp only [enter, rest]
      split <;> simp_all
  all_goals
    split <;> try exact ht
  all_goals
    simp only [enter, leave, look, store]
    repeat' split
    all_goals simp_all

/-- Without an attempt to set up the hardware there is no reference that is not counted yet. -/
lemma of_stage_ne_ready {d : List (Deed σ)} (h : ∀ x ∈ d, x.isSetup s = false) :
    (of s d).stage ≠ .ready := by
  induction d using List.reverseRecOn with
  | nil => exact nofun
  | append_singleton d x ih =>
    rw [List.forall_mem_append, List.forall_mem_singleton] at h
    rw [of_snoc]
    exact next_stage_ne_ready (ih h.1) h.2

end Standing

/-- What an open has done after it read the profile of its session, and what it answers. -/
inductive OpenRecord (s : SessionId) (p : Profile) :
    List (Deed σ) → Except DeviceError Unit → Prop
  /-- It gave up waiting for the permit. -/
  | abandoned (e : DeviceError) :
    OpenRecord s p [.received (.routine (.wait (.guard s) p.platform)) (.error e)] (.error e)
  /-- It found the greatest count admitted. -/
  | limit (n : UInt8) (full : p.config.maxOpens.toNat ≤ n.toNat) :
    OpenRecord s p
      [.received (.routine (.wait (.guard s) p.platform)) (.ok ()), .acted (.count s) n,
        .received (.peer (.log (.openLimit p.config.maxOpens))) (), .acted (.post (.guard s)) ()]
      (.error .tooManyOpens)
  /-- It found no reference and could not set up the hardware. -/
  | failed (k : UInt64) (e : DeviceError) :
    OpenRecord s p
      [.received (.routine (.wait (.guard s) p.platform)) (.ok ()), .acted (.count s) 0,
        .received (.peer (.enter p.platform)) k,
        .received (.peer (.operate .driver p.lower s .setup ())) (.error e),
        .received (.peer (.leave p.platform k)) (), .received (.peer (.log (.setupFailed e))) (),
        .acted (.post (.guard s)) ()]
      (p.config.setupFailure.report? e)
  /-- It found no reference and set up the hardware. -/
  | first (k : UInt64) :
    OpenRecord s p
      [.received (.routine (.wait (.guard s) p.platform)) (.ok ()), .acted (.count s) 0,
        .received (.peer (.enter p.platform)) k,
        .received (.peer (.operate .driver p.lower s .setup ())) (.ok ()),
        .received (.peer (.leave p.platform k)) (), .acted (.setCount s 1) (),
        .acted (.post (.guard s)) ()]
      (.ok ())
  /-- It found other references. -/
  | further (n v : UInt8) (pos : 0 < n.toNat) (raised : v.toNat = n.toNat + 1) :
    OpenRecord s p
      [.received (.routine (.wait (.guard s) p.platform)) (.ok ()), .acted (.count s) n,
        .acted (.setCount s v) (), .acted (.post (.guard s)) ()]
      (.ok ())

/-- What a close has done after it read the profile of its session, and what it answers. -/
inductive CloseRecord (s : SessionId) (p : Profile) :
    List (Deed σ) → Except DeviceError Unit → Prop
  /-- It gave up waiting for the permit. -/
  | abandoned (e : DeviceError) :
    CloseRecord s p [.received (.routine (.wait (.guard s) p.platform)) (.error e)] (.error e)
  /-- It found other references. -/
  | lowered (n m v : UInt8) (many : 1 < n.toNat) (less : v.toNat = m.toNat - 1) :
    CloseRecord s p
      [.received (.routine (.wait (.guard s) p.platform)) (.ok ()), .acted (.count s) n,
        .acted (.count s) m, .acted (.setCount s v) (), .acted (.post (.guard s)) ()]
      (.ok ())
  /-- It found at most its own reference, and put the hardware to rest. -/
  | last (n : UInt8) (few : n.toNat ≤ 1) (k : UInt64) (x : Except DeviceError Unit)
      (noted failed : List Notice) :
    CloseRecord s p
      ([.received (.routine (.wait (.guard s) p.platform)) (.ok ()), .acted (.count s) n] ++
        noted.map (fun m => .received (.peer (.log m)) ()) ++
        [.acted (.setCount s 0) (), .received (.peer (.enter p.platform)) k,
          .received (.peer (.operate .driver p.lower s .shutdown ())) x,
          .received (.peer (.leave p.platform k)) ()] ++
        failed.map (fun m => .received (.peer (.log m)) ()) ++ [.acted (.post (.guard s)) ()])
      (.ok ())

namespace Session

variable {s : SessionId} {d : List (Deed σ)} {r : Except DeviceError Unit}

/-- An open that ended has gone one of these ways, and writes that the greatest count is reached
exactly if it found it. -/
theorem openDevice_record (h : Follows (openDevice s) d (.done r)) :
    ∃ p d', d = .acted (.profile s) p :: d' ∧ OpenRecord s p d' r ∧
      ∀ n, found s d' = some n →
        (p.config.maxOpens ≤ n ↔ Deed.wrote (.openLimit p.config.maxOpens) ∈ d') := by
  obtain ⟨p, d₁, rfl, h₁⟩ := h.of_atom
  refine ⟨p, d₁, rfl, ?_⟩
  obtain ⟨x, d₂, rfl, h₂⟩ := h₁.of_call
  cases x with
  | error e =>
    obtain ⟨rfl, rfl⟩ := h₂.of_done
    exact ⟨.abandoned e, nofun⟩
  | ok _ =>
    obtain ⟨n, d₃, rfl, h₃⟩ := h₂.of_atom
    simp only [found_cons_received, found_cons_count, Option.some.injEq, forall_eq',
      Program.bind_done] at h₃ ⊢
    split at h₃
    · next hn =>
      obtain ⟨full, rfl⟩ := ReferenceCount.raised_eq_error_iff.mp hn
      obtain ⟨_, d₄, rfl, h₄⟩ := h₃.of_call
      obtain ⟨_, d₅, rfl, h₅⟩ := h₄.of_atom
      obtain ⟨rfl, rfl⟩ := h₅.of_done
      exact ⟨.limit n full, by simpa [UInt8.le_iff_toNat_le] using full⟩
    · next v hn =>
      obtain ⟨raised, bound⟩ := ReferenceCount.raised_eq_ok_iff.mp hn
      obtain ⟨-, only⟩ := ReferenceCount.raised_eq_one_iff hn
      simp only at raised bound only
      have room : ¬ p.config.maxOpens ≤ n := by
        rw [UInt8.le_iff_toNat_le]
        omega
      split at h₃
      · next first =>
        obtain rfl := only.mp first
        subst first
        obtain ⟨k, d₄, rfl, h₄⟩ := h₃.of_call
        obtain ⟨x, d₅, rfl, h₅⟩ := h₄.of_call
        obtain ⟨_, d₆, rfl, h₆⟩ := h₅.of_call
        cases x with
        | error e =>
          obtain ⟨_, d₇, rfl, h₇⟩ := h₆.of_call
          obtain ⟨_, d₈, rfl, h₈⟩ := h₇.of_atom
          obtain ⟨rfl, rfl⟩ := h₈.of_done
          exact ⟨.failed k e, by simp [room]⟩
        | ok _ =>
          obtain ⟨_, d₇, rfl, h₇⟩ := h₆.of_atom
          obtain ⟨_, d₈, rfl, h₈⟩ := h₇.of_atom
          obtain ⟨rfl, rfl⟩ := h₈.of_done
          exact ⟨.first k, by simp [room]⟩
      · next later =>
        have pos : 0 < n.toNat :=
          Nat.pos_of_ne_zero fun none => later (only.mpr (UInt8.toNat_inj.mp none))
        obtain ⟨_, d₄, rfl, h₄⟩ := h₃.of_atom
        obtain ⟨_, d₅, rfl, h₅⟩ := h₄.of_atom
        obtain ⟨rfl, rfl⟩ := h₅.of_done
        exact ⟨.further n v pos raised, by simp [room]⟩

/-- A program that asks for no store of the open count has not stored it. -/
lemma forall_isStore_of_only {p q : Action σ α} (h : Follows p d q)
    (hp : p.Only (Request.StoresNot s)) : ∀ x ∈ d, x.isStore s = false := fun x hx =>
  Deed.isStore_eq_false_iff.mpr (h.asked hp x hx)

/-- Giving the permit back is no store. -/
lemma post_only (s : SessionId) (r : Except DeviceError Unit) :
    ((Atom.post (.guard s)).act >>= fun _ => pure r : Action σ _).Only (Request.StoresNot s) :=
  Program.only_ask trivial fun _ => trivial

/-- Putting the hardware to rest is no store. -/
lemma operateMasked_only (s : SessionId) (p : Profile) :
    (operateMasked s p .shutdown () : Action σ _).Only (Request.StoresNot s) :=
  inCriticalSection_only trivial (Program.only_query trivial) fun _ => trivial

/-- An open in progress that has stored the open count has raised it by one. -/
theorem openDevice_gain {q : Action σ (Except DeviceError Unit)} (h : Follows (openDevice s) d q)
    (stored : d.any (Deed.isStore s) = true) : (Standing.of s d).gain = 1 := by
  obtain ⟨p, d₁, rfl, h₁⟩ := h.of_atom_any stored
  obtain ⟨x, d₂, rfl, h₂⟩ := h₁.of_call_any stored
  cases x with
  | error e =>
    obtain ⟨rfl, -⟩ := follows_done_iff.mp h₂
    cases stored
  | ok _ =>
    obtain ⟨n, d₃, rfl, h₃⟩ := h₂.of_atom_any stored
    simp only [Program.bind_done] at h₃
    split at h₃
    · obtain ⟨_, d₄, rfl, h₄⟩ := h₃.of_call_any stored
      obtain ⟨_, d₅, rfl, h₅⟩ := h₄.of_atom_any stored
      obtain ⟨rfl, -⟩ := follows_done_iff.mp h₅
      cases stored
    · next v hn =>
      obtain ⟨raised, -⟩ := ReferenceCount.raised_eq_ok_iff.mp hn
      obtain ⟨nonzero, -⟩ := ReferenceCount.raised_eq_one_iff hn
      simp only at raised
      split at h₃
      · next first =>
        obtain ⟨k, d₄, rfl, h₄⟩ := h₃.of_call_any stored
        obtain ⟨x, d₅, rfl, h₅⟩ := h₄.of_call_any stored
        obtain ⟨_, d₆, rfl, h₆⟩ := h₅.of_call_any stored
        cases x with
        | error e =>
          obtain ⟨_, d₇, rfl, h₇⟩ := h₆.of_call_any stored
          obtain ⟨_, d₈, rfl, h₈⟩ := h₇.of_atom_any stored
          obtain ⟨rfl, -⟩ := follows_done_iff.mp h₈
          cases stored
        | ok _ =>
          obtain ⟨_, d₇, rfl, h₇⟩ := h₆.of_atom_any stored
          have rest := forall_isStore_of_only h₇ (post_only s _)
          refine (Standing.of_append_same rest [_, _, _, _, _, _, _]).1.trans ?_
          simp [Standing.of, Standing.next, Standing.receive, Standing.initial, Standing.enter,
            Standing.look, Standing.setUp, Standing.store]
      · next later =>
        obtain ⟨_, d₄, rfl, h₄⟩ := h₃.of_atom_any stored
        have rest := forall_isStore_of_only h₄ (post_only s _)
        refine (Standing.of_append_same rest [_, _, _, _]).1.trans ?_
        simp [Standing.of, Standing.next, Standing.receive, Standing.initial, Standing.enter,
          Standing.look, Standing.store, nonzero, raised]

/-- A close in progress that has stored the open count has found a count, and has lowered it by one
unless it found none. -/
theorem closeDevice_gain {q : Action σ (Except DeviceError Unit)} (h : Follows (closeDevice s) d q)
    (stored : d.any (Deed.isStore s) = true) (sane : (Standing.of s d).stage ≠ .astray) :
    ∃ n, found s d = some n ∧ (n ≠ 0 → (Standing.of s d).gain = -1) := by
  obtain ⟨p, d₁, rfl, h₁⟩ := h.of_atom_any stored
  obtain ⟨x, d₂, rfl, h₂⟩ := h₁.of_call_any stored
  cases x with
  | error e =>
    obtain ⟨rfl, -⟩ := follows_done_iff.mp h₂
    cases stored
  | ok _ =>
    obtain ⟨n, d₃, rfl, h₃⟩ := h₂.of_atom_any stored
    refine ⟨n, by simp [found, List.findSome?_cons], fun some => ?_⟩
    simp only [Program.bind_done] at h₃
    split at h₃
    · next many =>
      have many : 1 < n.toNat := by simpa using UInt8.lt_iff_toNat_lt.mp many
      obtain ⟨m, d₄, rfl, h₄⟩ := h₃.of_atom_any stored
      obtain ⟨_, d₅, rfl, h₅⟩ := h₄.of_atom_any stored
      have rest := forall_isStore_of_only h₅ (post_only s _)
      have same : m = n := by
        by_contra differ
        refine sane (Standing.of_append_astray [_, _, _, _, _] d₅ ?_)
        simp [Standing.of, Standing.next, Standing.receive, Standing.initial, Standing.enter,
          Standing.look, Standing.store, differ]
      subst same
      have lowered := ReferenceCount.toNat_lowered ⟨m, p.config.maxOpens⟩
      simp only at lowered
      have nonzero : (ReferenceCount.mk m p.config.maxOpens).lowered ≠ 0 :=
        ReferenceCount.lowered_ne_zero many
      refine (Standing.of_append_same rest [_, _, _, _, _]).1.trans ?_
      simp [Standing.of, Standing.next, Standing.receive, Standing.initial, Standing.enter,
        Standing.look, Standing.store, nonzero]
      omega
    · next few =>
      have one : n = 1 := by
        have least : n.toNat ≠ 0 := fun h => some (UInt8.toNat_inj.mp h)
        have most := mt UInt8.lt_iff_toNat_lt.mpr few
        apply UInt8.toNat_inj.mp
        simp at most ⊢
        omega
      subst one
      obtain ⟨_, d₄, rfl, h₄⟩ := Follows.of_atom_any h₃ stored
      have rest : ∀ x ∈ d₄, x.isStore s = false := by
        refine forall_isStore_of_only h₄ (Program.Only.bind ?_ (post_only s))
        refine (operateMasked_only s p).bind fun r => ?_
        cases r with
        | error e => exact Program.only_ask trivial fun _ => trivial
        | ok _ => trivial
      refine (Standing.of_append_same rest [_, _, _, _]).1.trans ?_
      simp [Standing.of, Standing.next, Standing.receive, Standing.initial, Standing.enter,
        Standing.look, Standing.store]

/-- The deeds of a close that puts the hardware to rest, from the time that it gives its reference
back. -/
def closing (s : SessionId) (p : Profile) (k : UInt64) (y : Except DeviceError Unit) :
    List (Deed σ) :=
  [.acted (.setCount s 0) (), .received (.peer (.enter p.platform)) k,
    .received (.peer (.operate .driver p.lower s .shutdown ())) y,
    .received (.peer (.leave p.platform k)) ()] ++
  (match y with
    | .ok _ => []
    | .error e => [.wrote (.shutdownFailed e)]) ++
  [.acted (.post (.guard s)) ()]

/-- What a close that puts the hardware to rest has done with it. -/
lemma shutDown_deeds {p : Profile}
    (h : Follows ((shutDown s p).bind fun r => (Atom.post (.guard s)).act >>= fun _ => pure r) d
      (.done r)) : ∃ k y, d = closing s p k y ∧ r = .ok () := by
  obtain ⟨_, d₁, rfl, h₁⟩ := h.of_atom
  obtain ⟨k, d₂, rfl, h₂⟩ := h₁.of_call
  obtain ⟨y, d₃, rfl, h₃⟩ := h₂.of_call
  obtain ⟨_, d₄, rfl, h₄⟩ := h₃.of_call
  refine ⟨k, y, ?_⟩
  cases y with
  | error e =>
    obtain ⟨_, d₅, rfl, h₅⟩ := h₄.of_call
    obtain ⟨_, d₆, rfl, h₆⟩ := h₅.of_atom
    exact ⟨by rw [h₆.of_done.1]; rfl, h₆.of_done.2⟩
  | ok _ =>
    obtain ⟨_, d₅, rfl, h₅⟩ := h₄.of_atom
    exact ⟨by rw [h₅.of_done.1]; rfl, h₅.of_done.2⟩

/-- A close that ended gave up waiting for the permit, or counted one reference less, or put the
hardware to rest and wrote of it if it had found no reference. -/
theorem closeDevice_deeds (h : Follows (closeDevice s) d (.done r)) :
    ∃ p d', d = .acted (.profile s) p :: d' ∧
      ((∃ e, r = .error e ∧ d' = [.received (.routine (.wait (.guard s) p.platform)) (.error e)]) ∨
        (∃ n m, r = .ok () ∧ 1 < n ∧
          d' = [.received (.routine (.wait (.guard s) p.platform)) (.ok ()), .acted (.count s) n,
            .acted (.count s) m,
            .acted (.setCount s (ReferenceCount.mk m p.config.maxOpens).lowered) (),
            .acted (.post (.guard s)) ()]) ∨
        ∃ n k y, r = .ok () ∧ ¬ 1 < n ∧
          d' = .received (.routine (.wait (.guard s) p.platform)) (.ok ()) :: .acted (.count s) n ::
            ((if n = 0 then [.wrote .spuriousClose] else []) ++ closing s p k y)) := by
  obtain ⟨p, d₁, rfl, h₁⟩ := h.of_atom
  refine ⟨p, d₁, rfl, ?_⟩
  obtain ⟨x, d₂, rfl, h₂⟩ := h₁.of_call
  cases x with
  | error e =>
    obtain ⟨rfl, rfl⟩ := h₂.of_done
    exact .inl ⟨e, rfl, rfl⟩
  | ok _ =>
    right
    obtain ⟨n, d₃, rfl, h₃⟩ := h₂.of_atom
    simp only [Program.bind_done] at h₃
    split at h₃
    · next many =>
      obtain ⟨m, d₄, rfl, h₄⟩ := h₃.of_atom
      obtain ⟨_, d₅, rfl, h₅⟩ := h₄.of_atom
      obtain ⟨_, d₆, rfl, h₆⟩ := h₅.of_atom
      obtain ⟨rfl, rfl⟩ := h₆.of_done
      exact .inl ⟨n, m, rfl, many, rfl⟩
    · next few =>
      split at h₃
      · next none =>
        obtain ⟨_, d₄, rfl, h₄⟩ := h₃.of_call
        obtain ⟨k, y, rfl, rfl⟩ := shutDown_deeds h₄
        exact .inr ⟨n, k, y, rfl, few, by rw [if_pos none]; rfl⟩
      · next some =>
        obtain ⟨k, y, rfl, rfl⟩ := shutDown_deeds h₃
        exact .inr ⟨n, k, y, rfl, few, by rw [if_neg some]; rfl⟩

/-- A close that ended has gone one of these ways. -/
theorem closeDevice_record (h : Follows (closeDevice s) d (.done r)) :
    ∃ p d', d = .acted (.profile s) p :: d' ∧ CloseRecord s p d' r := by
  obtain ⟨p, d', rfl, ⟨e, rfl, rfl⟩ | ⟨n, m, rfl, many, rfl⟩ | ⟨n, k, y, rfl, few, rfl⟩⟩ :=
    closeDevice_deeds h
  · exact ⟨p, _, rfl, .abandoned e⟩
  · have many : 1 < n.toNat := by simpa using UInt8.lt_iff_toNat_lt.mp many
    exact ⟨p, _, rfl, .lowered n m _ many (ReferenceCount.toNat_lowered _)⟩
  · have few : n.toNat ≤ 1 := by
      have := mt UInt8.lt_iff_toNat_lt.mpr few
      simp at this
      omega
    refine ⟨p, _, rfl, ?_⟩
    have last := CloseRecord.last (s := s) (p := p) (σ := σ) n few k y
      (if n = 0 then [.spuriousClose] else [])
    cases y with
    | ok _ => by_cases none : n = 0 <;> simpa [closing, none] using last []
    | error e => by_cases none : n = 0 <;> simpa [closing, none] using last [.shutdownFailed e]

end Session

variable {s : SessionId} {p : Profile} {d : List (Deed σ)} {r : Except DeviceError Unit}

/-- Lines of the journal change no standing. -/
lemma foldl_logs (s : SessionId) (logs : List Notice) (t : Standing) :
    (logs.map fun m => (.received (.peer (.log m)) () : Deed σ)).foldl (Standing.next s) t = t := by
  induction logs with
  | nil => rfl
  | cons m logs ih => exact ih

/-- An open sets up the hardware once if it found no reference, and not at all otherwise; it finds a
count if it got the permit; and it raises the count by one if it succeeds without a failed
attempt. -/
lemma OpenRecord.facts (h : OpenRecord s p d r) (max : 0 < p.config.maxOpens.toNat) :
    d.countP (Deed.isSetup s) = (if found s d = some 0 then 1 else 0) ∧
      (found s d).isSome = d.any (Deed.isEntry s) ∧
      (Standing.of s (.acted (.profile s) p :: d)).gain =
        (if r.isOk && !d.any (Deed.isFailedSetup s) then 1 else 0) ∧
      (Standing.of s (.acted (.profile s) p :: d)).ended = 0 := by
  cases h
  case limit n full =>
    have some : n ≠ 0 := by
      rintro rfl
      simp at full
      omega
    simp [found, List.findSome?_cons, Call.isSetup, Standing.of, Standing.next, Standing.receive,
      Standing.initial, Standing.enter, Standing.look, Standing.leave, some]
  case further n v pos raised =>
    have some : n ≠ 0 ∧ v ≠ 0 := by
      constructor
      · rintro rfl
        simp at pos
      · rintro rfl
        simp at raised
    simp [found, List.findSome?_cons, Call.isSetup, Standing.of, Standing.next, Standing.receive,
      Standing.initial, Standing.enter, Standing.look, Standing.store, Standing.leave, some, raised]
  all_goals
    simp [found, List.findSome?_cons, Call.isSetup, Standing.of, Standing.next, Standing.receive,
      Standing.initial, Standing.enter, Standing.look, Standing.setUp, Standing.store,
      Standing.leave]

/-- Where failures are reported, an open that succeeds has not failed to set up the hardware. -/
lemma OpenRecord.not_isFailedSetup (h : OpenRecord s p d r)
    (report : p.config.setupFailure = .report) (ok : r.isOk = true) :
    d.any (Deed.isFailedSetup s) = false := by
  cases h
  case failed k e =>
    rw [report] at ok
    cases ok
  all_goals simp

/-- A close puts the hardware to rest once if it found at most one reference, and not at all
otherwise; it finds a count if it got the permit; and unless it goes astray it lowers the count by
one if it found one. -/
lemma CloseRecord.facts (h : CloseRecord s p d r) :
    d.countP (Deed.isShutdown s) = (if found s d = some 0 ∨ found s d = some 1 then 1 else 0) ∧
      (found s d).isSome = d.any (Deed.isEntry s) ∧
      ((Standing.of s (.acted (.profile s) p :: d)).stage ≠ .astray →
        (Standing.of s (.acted (.profile s) p :: d)).gain =
            (if r.isOk && (found s d).any fun n => 0 < n.toNat then -1 else 0) ∧
          (Standing.of s (.acted (.profile s) p :: d)).ended =
            if r.isOk && (found s d).any fun n => n.toNat = 1 then 1 else 0) := by
  cases h with
  | abandoned e =>
    simp [found, List.findSome?_cons, Call.isShutdown, Standing.of, Standing.next, Standing.receive,
      Standing.initial]
  | lowered n m v many less =>
    have several : n ≠ 0 ∧ n ≠ 1 := by
      constructor <;> rintro rfl <;> simp at many
    refine ⟨by simp [found, List.findSome?_cons, Call.isShutdown, several], ?_, fun sane => ?_⟩
    · simp [found, List.findSome?_cons]
    have same : m = n := by
      by_contra differ
      refine sane ?_
      simp [Standing.of, Standing.next, Standing.receive, Standing.initial, Standing.enter,
        Standing.look, Standing.store, Standing.leave, differ]
    subst same
    have nonzero : v ≠ 0 := by
      rintro rfl
      simp at less
      omega
    have gain : (v.toNat : Int) - m.toNat = -1 := by omega
    have pos : 0 < m.toNat ∧ m.toNat ≠ 1 := by omega
    simp [found, List.findSome?_cons, Standing.of, Standing.next, Standing.receive,
      Standing.initial, Standing.enter, Standing.look, Standing.store, Standing.leave, nonzero,
      gain, pos]
  | last n few k x noted failed =>
    have one : n = 0 ∨ n = 1 := by
      rcases Nat.le_one_iff_eq_zero_or_eq_one.mp few with h | h
      · exact .inl (UInt8.toNat_inj.mp h)
      · exact .inr (UInt8.toNat_inj.mp h)
    have silent (logs : List Notice) : (logs.map fun m =>
        (.received (.peer (.log m)) () : Deed σ)).countP (Deed.isShutdown s) = 0 := by
      simp [List.countP_eq_zero, Call.isShutdown]
    rcases one with rfl | rfl <;>
      simp [found, List.findSome?_cons, Call.isShutdown, Standing.of, Standing.next,
        Standing.receive, Standing.initial, Standing.enter, Standing.look, Standing.store,
        Standing.rest, Standing.leave, foldl_logs, silent]

/-- A close succeeds exactly if it gets the permit. -/
lemma CloseRecord.isOk_eq (h : CloseRecord s p d r) : r.isOk = d.any (Deed.isEntry s) := by
  cases h <;> simp

end LedDriver
