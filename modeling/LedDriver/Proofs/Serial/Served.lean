import LedDriver.Proofs.Serial.History

/-!
# Calls that got the permit

What one open or close does that gets the permit, as a step from one open count and one state of the
hardware to another (`Served`).  Every open and every close of a run under any schedule that got the
permit has taken such a step (`Session.openDevice_served`, `Session.closeDevice_served`), if its
deeds are part of an account of the count and of the hardware.
-/

namespace LedDriver

variable {σ τ : Type}

/-- An open or a close of a session gets the permit: the count that it finds and the state of the
hardware then, the answer to it, the work of the hardware, and the count and the state that it
leaves. -/
inductive Served (B : Board σ) (s : SessionId) (p : Profile) (view : σ → τ) :
    UInt8 → τ → Deed σ → List (Deed σ) → UInt8 → τ → Prop
  /-- An open that finds the greatest count admitted. -/
  | refused {k : UInt8} {t : τ} {e : DeviceError}
    (full : (ReferenceCount.mk k p.config.maxOpens).raised = .error e) :
    Served B s p view k t (.received (.service (.openDevice s)) (.error e)) [] k t
  /-- An open that finds other references. -/
  | further {k v : UInt8} {t : τ} (raised : (ReferenceCount.mk k p.config.maxOpens).raised = .ok v)
    (more : v ≠ 1) :
    Served B s p view k t (.received (.service (.openDevice s)) (.ok ())) [] v t
  /-- An open that finds no reference and cannot set up the hardware. -/
  | failed {k : UInt8} {t t' : τ} {e : DeviceError}
    (raised : (ReferenceCount.mk k p.config.maxOpens).raised = .ok 1)
    (drives : B.Drives view t
      (.received (.peer (.operate .driver p.lower s .setup ())) (.error e)) t') :
    Served B s p view k t
      (.received (.service (.openDevice s)) (p.config.setupFailure.report? e))
      [.received (.peer (.operate .driver p.lower s .setup ())) (.error e)] k t'
  /-- An open that finds no reference and sets up the hardware. -/
  | first {k : UInt8} {t t' : τ} (raised : (ReferenceCount.mk k p.config.maxOpens).raised = .ok 1)
    (drives : B.Drives view t
      (.received (.peer (.operate .driver p.lower s .setup ())) (.ok ())) t') :
    Served B s p view k t (.received (.service (.openDevice s)) (.ok ()))
      [.received (.peer (.operate .driver p.lower s .setup ())) (.ok ())] 1 t'
  /-- A close that finds other references. -/
  | lowered {k : UInt8} {t : τ} (many : 1 < k) :
    Served B s p view k t (.received (.service (.closeDevice s)) (.ok ())) []
      (ReferenceCount.mk k p.config.maxOpens).lowered t
  /-- A close that finds at most its own reference puts the hardware to rest. -/
  | last {k : UInt8} {t t' : τ} {x : Except DeviceError Unit} (few : ¬ 1 < k)
    (drives : B.Drives view t
      (.received (.peer (.operate .driver p.lower s .shutdown ())) x) t') :
    Served B s p view k t (.received (.service (.closeDevice s)) (.ok ()))
      [.received (.peer (.operate .driver p.lower s .shutdown ())) x] 0 t'

/-! ## What the calls of a concurrent run have done -/

section Deeds

variable {s u : SessionId} {k m v : UInt8} {d : List (Deed σ)}

@[simp] lemma counts_received_iff {c : Call} {x : c.Answer} :
    Deed.Counts s k (.received c x : Deed σ) m ↔ m = k := Iff.rfl

@[simp] lemma counts_profile_iff {p : Profile} :
    Deed.Counts s k (.acted (.profile u) p : Deed σ) m ↔ m = k := Iff.rfl

@[simp] lemma counts_post_iff {g : SemaphoreId} {x : Unit} :
    Deed.Counts s k (.acted (.post g) x : Deed σ) m ↔ m = k := Iff.rfl

@[simp] lemma counts_count_iff :
    Deed.Counts s k (.acted (.count s) v : Deed σ) m ↔ m = k ∧ v = k := by
  simp [Deed.Counts]

@[simp] lemma counts_setCount_iff {x : Unit} :
    Deed.Counts s k (.acted (.setCount s v) x : Deed σ) m ↔ m = v := by
  simp [Deed.Counts]

@[simp] lemma isWork_acted (a : Atom σ) (x : a.Answer) : (Deed.acted a x).isWork s = false := rfl

@[simp] lemma isWork_received (c : Call) (x : c.Answer) :
    (Deed.received c x : Deed σ).isWork s = c.isWork s := rfl

@[simp] lemma isWork_routine (c : Routine) : (Call.routine c).isWork s = false := rfl

@[simp] lemma isWork_log (m : Notice) : (Call.peer (.log m)).isWork s = false := rfl

@[simp] lemma isWork_enter (p : PlatformId) : (Call.peer (.enter p)).isWork s = false := rfl

@[simp] lemma isWork_leave (p : PlatformId) (x : UInt64) :
    (Call.peer (.leave p x)).isWork s = false := rfl

@[simp] lemma isWork_setup (h : LowerId) (x : Unit) :
    (Call.peer (.operate .driver h s .setup x)).isWork s = true :=
  Call.isWork_iff.mpr ⟨h, .inl rfl⟩

@[simp] lemma isWork_shutdown (h : LowerId) (x : Unit) :
    (Call.peer (.operate .driver h s .shutdown x)).isWork s = true :=
  Call.isWork_iff.mpr ⟨h, .inr rfl⟩

end Deeds

/-- A count below the greatest one admitted can be raised. -/
lemma ReferenceCount.raised_of_lt {n v max : UInt8} (room : ¬ max ≤ n)
    (sum : v.toNat = n.toNat + 1) :
    (ReferenceCount.mk n max).raised = .ok v := by
  rw [UInt8.le_iff_toNat_le] at room
  exact raised_eq_ok_iff.mpr ⟨sum, by simp only; omega⟩

namespace Session

variable {B : Board σ} {s : SessionId} {p : Profile} {view : σ → τ} {d : List (Deed σ)}
  {r : Except DeviceError Unit} {k m : UInt8} {t t' : τ}

/-- An open that got the permit. -/
theorem openDevice_served (h : Follows (openDevice s) d (.done r))
    (entered : d.any (Deed.isEntry s) = true) (known : ∀ q, Deed.acted (.profile s) q ∈ d → q = p)
    (counts : Path (Deed.Counts s) k d m)
    (drives : Path (B.Drives view) t (d.filter (Deed.isWork s)) t') :
    Served B s p view k t (.received (.service (.openDevice s)) r)
      (d.filter (Deed.isWork s)) m t' := by
  obtain ⟨q, d', rfl, record, limit⟩ := openDevice_record h
  obtain rfl : q = p := known q (List.mem_cons_self ..)
  cases record with
  | abandoned e => simp at entered
  | limit n full =>
    obtain ⟨rfl, rfl⟩ : m = k ∧ n = k := by simpa using counts
    obtain rfl : t' = t := by simpa using drives
    simpa using Served.refused (ReferenceCount.raised_eq_error_iff.mpr ⟨full, rfl⟩)
  | failed i e =>
    obtain ⟨rfl, rfl⟩ : m = k ∧ 0 = k := by simpa using counts
    have drives : B.Drives view t
        (.received (.peer (.operate .driver q.lower s .setup ())) (.error e)) t' := by
      simpa using drives
    simpa using Served.failed
      (ReferenceCount.raised_of_lt ((limit 0 (by simp)).not.mpr (by simp)) rfl) drives
  | first i =>
    obtain ⟨rfl, rfl⟩ : 0 = k ∧ m = 1 := by simpa using counts
    have drives : B.Drives view t
        (.received (.peer (.operate .driver q.lower s .setup ())) (.ok ())) t' := by
      simpa using drives
    simpa using Served.first
      (ReferenceCount.raised_of_lt ((limit 0 (by simp)).not.mpr (by simp)) rfl) drives
  | further n v pos raised =>
    obtain ⟨rfl, rfl⟩ : n = k ∧ m = v := by simpa using counts
    obtain rfl : t' = t := by simpa using drives
    have more : m ≠ 1 := by
      rintro rfl
      simp at raised
      omega
    simpa using Served.further
      (ReferenceCount.raised_of_lt ((limit n (by simp)).not.mpr (by simp)) raised) more

/-- A close that got the permit. -/
theorem closeDevice_served (h : Follows (closeDevice s) d (.done r))
    (entered : d.any (Deed.isEntry s) = true) (known : ∀ q, Deed.acted (.profile s) q ∈ d → q = p)
    (counts : Path (Deed.Counts s) k d m)
    (drives : Path (B.Drives view) t (d.filter (Deed.isWork s)) t') :
    Served B s p view k t (.received (.service (.closeDevice s)) r)
      (d.filter (Deed.isWork s)) m t' := by
  obtain ⟨q, d', rfl, ways⟩ := closeDevice_deeds h
  obtain rfl : q = p := known q (List.mem_cons_self ..)
  rcases ways with ⟨e, rfl, rfl⟩ | ⟨n, i, rfl, many, rfl⟩ | ⟨n, i, x, rfl, few, rfl⟩
  · simp at entered
  · obtain ⟨rfl, rfl, rfl⟩ : n = k ∧ i = k ∧
        m = (ReferenceCount.mk i q.config.maxOpens).lowered := by
      simpa using counts
    obtain rfl : t' = t := by simpa using drives
    simpa using Served.lowered many
  · obtain ⟨rfl, rfl⟩ : n = k ∧ m = 0 := by
      by_cases none : n = 0 <;> cases x <;> simpa [closing, none] using counts
    have work : ((.acted (.profile s) q ::
        .received (.routine (.wait (.guard s) q.platform)) (.ok ()) :: .acted (.count s) n ::
          ((if n = 0 then [.wrote .spuriousClose] else []) ++ closing s q i x) :
          List (Deed σ))).filter (Deed.isWork s) =
        [.received (.peer (.operate .driver q.lower s .shutdown ())) x] := by
      by_cases none : n = 0 <;> cases x <;> simp [closing, none]
    rw [work] at drives ⊢
    exact .last few (by simpa using drives)

end Session

end LedDriver
