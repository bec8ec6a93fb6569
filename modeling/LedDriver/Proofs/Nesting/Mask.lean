import LedDriver.Proofs.Lifecycle.References

/-!
# Masks

How far an open or a close is with its critical section.  It masks the interrupts only while it has
the permit of its guard, makes one call of the lower half, and restores the interrupts as it found
them before it does anything else.  The `Mask` of a program is a function of its deeds (`Mask.of`),
`Mask.Allows` lists what a program may ask for behind a mask, and every program in progress keeps to
this list (`Board.Continues.mask_allows`).

A program that masks interrupts has the permit (`Mask.stage_ne_away`).
-/

namespace LedDriver

variable {σ α β S : Type}

/-! ## Programs that keep to a list -/

/-- Begun in a state, a program asks only for what its state allows, and the state in which it is
done has a property. -/
def Program.Obeys (next : S → Deed σ → S) (allows : S → Request σ → Prop) (post : α → S → Prop) :
    Action σ α → S → Prop
  | .done a, t => post a t
  | .ask q cont, t => allows t q ∧ ∀ x, (cont x).Obeys next allows post (next t (q.deed x))

namespace Program.Obeys

variable {next : S → Deed σ → S} {allows : S → Request σ → Prop} {post : α → S → Prop} {t : S}
  {p q : Action σ α}

/-- What is left of such a program is such a program. -/
lemma of_follows {d : List (Deed σ)} (h : Follows p d q) (hp : p.Obeys next allows post t) :
    q.Obeys next allows post (d.foldl next t) := by
  induction h generalizing t with
  | nil => exact hp
  | acted _ ih | received _ ih => exact ih (hp.2 _)

lemma bind {post' : β → S → Prop} {f : α → Action σ β} (hp : p.Obeys next allows post t)
    (hf : ∀ a t, post a t → (f a).Obeys next allows post' t) :
    (p.bind f).Obeys next allows post' t := by
  induction p generalizing t with
  | done a => exact hf a t hp
  | ask q cont ih => exact ⟨hp.1, fun x => ih x (hp.2 x)⟩

end Program.Obeys

/-! ## The mask of a program -/

/-- The session that a call opens or closes. -/
def Call.session? : Call → Option SessionId
  | .service (.openDevice s) | .service (.closeDevice s) => some s
  | _ => none

lemma Call.counts_iff {s : SessionId} {c : Call} : c.Counts s ↔ c.session? = some s := by
  constructor
  · rintro (rfl | rfl) <;> rfl
  · intro h
    cases c with
    | service c =>
      cases c with
      | openDevice u =>
        cases h
        exact .inl rfl
      | closeDevice u =>
        cases h
        exact .inr rfl
      | _ => cases h
    | routine c => cases h
    | peer c => cases h

/-- How far an open or a close is with its critical section. -/
inductive Mask where
  /-- It does not have the permit. -/
  | away
  /-- It has the permit, and has not masked the interrupts or has restored them. -/
  | holding
  /-- It has masked the interrupts of a platform and is to call the lower half. -/
  | inside (p : PlatformId) (saved : UInt64)
  /-- The lower half has answered, and it is to restore the interrupts. -/
  | worked (p : PlatformId) (saved : UInt64)
deriving DecidableEq

namespace Mask

/-- The mask after the permit was received. -/
def take : Mask → Mask
  | away => holding
  | m => m

/-- The mask after the interrupts were masked. -/
def enter (p : PlatformId) (saved : UInt64) : Mask → Mask
  | holding => inside p saved
  | m => m

/-- The mask after the lower half answered. -/
def work : Mask → Mask
  | inside p saved => worked p saved
  | m => m

/-- The mask after the interrupts were restored. -/
def leave : Mask → Mask
  | worked _ _ => holding
  | m => m

/-- The mask of a call that opens or closes a session, after one more deed. -/
def next (u : Option SessionId) (m : Mask) : Deed σ → Mask
  | .acted (.post g) _ => if u.map .guard = some g then away else m
  | .received (.routine (.wait g _)) r => if u.map .guard = some g ∧ r.isOk then m.take else m
  | .received (.peer (.enter p)) saved => m.enter p saved
  | .received (.peer (.operate .driver _ _ .setup _)) _
  | .received (.peer (.operate .driver _ _ .shutdown _)) _ => m.work
  | .received (.peer (.leave _ _)) _ => m.leave
  | _ => m

/-- The mask of the program of a call, by its deeds. -/
def of (o : Option Call) (d : List (Deed σ)) : Mask := d.foldl (next (o.bind Call.session?)) away

@[simp] lemma of_nil (o : Option Call) : of o ([] : List (Deed σ)) = away := rfl

@[simp] lemma of_snoc (o : Option Call) (d : List (Deed σ)) (x : Deed σ) :
    of o (d ++ [x]) = (of o d).next (o.bind Call.session?) x := by
  simp [of]

/-- What a program may ask for behind a mask: while it masks the interrupts, to set up the hardware
or to put it to rest, and then to restore the interrupts as they were. -/
def Allows (m : Mask) : Request σ → Prop
  | .call (.peer (.enter _)) => m = holding
  | .call (.peer (.operate .driver _ _ .setup _))
  | .call (.peer (.operate .driver _ _ .shutdown _)) => ∃ p saved, m = inside p saved
  | .call (.peer (.leave p saved)) => m = worked p saved
  | _ => m = away ∨ m = holding

/-- A program that opens or closes nothing has nothing to do with masks. -/
lemma of_eq_away {o : Option Call} (h : o.bind Call.session? = none) (d : List (Deed σ)) :
    of o d = away := by
  induction d using List.reverseRecOn with
  | nil => rfl
  | append_singleton d x ih =>
    rw [of_snoc, ih, h]
    unfold next
    split <;> rfl

end Mask

/-! ## The programs one by one -/

/-- Begun behind one mask, a program of an open or a close does what its mask allows, and is done
behind another. -/
def Program.Masked (s : SessionId) (p : Action σ α) (m m' : Mask) : Prop :=
  p.Obeys (Mask.next (some s)) Mask.Allows (fun _ t => t = m') m

namespace Session

variable {s : SessionId} {p : Profile}

/-- A call of the lower half in a critical section begins and ends without a mask. -/
lemma operateMasked_masked {o : Operation} {args : o.Args}
    (ho : o = .setup ∨ o = .shutdown) :
    (operateMasked s p o args : Action σ _).Masked s .holding .holding := by
  refine ⟨rfl, fun saved => ?_⟩
  rcases ho with rfl | rfl
  · exact ⟨⟨_, _, rfl⟩, fun _ => ⟨rfl, fun _ => rfl⟩⟩
  · exact ⟨⟨_, _, rfl⟩, fun _ => ⟨rfl, fun _ => rfl⟩⟩

/-- The work of an open begins and ends without a mask. -/
lemma openHolding_masked : (openHolding s p : Action σ _).Masked s .holding .holding := by
  refine ⟨.inr rfl, fun n => ?_⟩
  simp only [Program.bind_done]
  split
  · exact ⟨.inr rfl, fun _ => rfl⟩
  · split
    · refine (operateMasked_masked (.inl rfl)).bind fun r m hm => ?_
      subst hm
      cases r with
      | error e => exact ⟨.inr rfl, fun _ => rfl⟩
      | ok _ => exact ⟨.inr rfl, fun _ => rfl⟩
    · exact ⟨.inr rfl, fun _ => rfl⟩

/-- Putting the hardware to rest begins and ends without a mask. -/
lemma shutDown_masked : (shutDown s p : Action σ _).Masked s .holding .holding := by
  refine ⟨.inr rfl, fun _ => (operateMasked_masked (.inr rfl)).bind fun r m hm => ?_⟩
  subst hm
  cases r with
  | error e => exact ⟨.inr rfl, fun _ => rfl⟩
  | ok _ => exact rfl

/-- The work of a close begins and ends without a mask. -/
lemma closeHolding_masked : (closeHolding s p : Action σ _).Masked s .holding .holding := by
  refine ⟨.inr rfl, fun n => ?_⟩
  simp only [Program.bind_done]
  split
  · exact ⟨.inr rfl, fun _ => ⟨.inr rfl, fun _ => rfl⟩⟩
  · split
    · exact ⟨.inr rfl, fun _ => shutDown_masked⟩
    · exact shutDown_masked

/-- An open or a close begins and ends without the permit. -/
lemma withPermit_masked {body : Profile → Action σ (Except DeviceError Unit)}
    (hb : ∀ p, (body p).Masked s .holding .holding) :
    ((Atom.profile s).act >>= fun p =>
      Semaphore.withPermit (.guard s) p.platform (body p)).Masked s .away .away := by
  refine ⟨.inl rfl, fun p => ⟨.inl rfl, fun r => ?_⟩⟩
  cases r with
  | error e => simp [Program.Obeys, Request.deed, Mask.next]
  | ok _ =>
    have taken : Mask.next (some s) (Mask.next (some s) .away (.acted (.profile s) p : Deed σ))
        (.received (.routine (.wait (.guard s) p.platform)) (.ok ()) : Deed σ) = .holding := by
      simp [Mask.next, Mask.take]
    simp only [Request.deed]
    rw [taken]
    refine (hb p).bind fun r m hm => ?_
    subst hm
    exact ⟨.inr rfl, fun _ => by simp [Program.Obeys, Request.deed, Mask.next]⟩

end Session

/-- Calls that open or close nothing have nothing to do with masks. -/
lemma Call.Asks.unmasked {c : Call} {q : Request σ} (h : c.Asks q) (hc : c.session? = none) :
    Mask.away.Allows q := by
  cases h
  case command_operate s c h => cases c <;> exact .inl rfl
  all_goals first | exact .inl rfl | cases hc

/-- An open or a close does what its mask allows, and gives the permit back. -/
theorem Board.program_masked (B : Board σ) {c : Call} {s : SessionId} (hc : c.session? = some s) :
    (B.program c).Masked s .away .away := by
  rcases Call.counts_iff.mpr hc with rfl | rfl
  · exact Session.withPermit_masked fun p => Session.openHolding_masked
  · exact Session.withPermit_masked fun p => Session.closeHolding_masked

/-- The deeds of an open or a close lead to its mask. -/
lemma Mask.of_some {c : Call} {s : SessionId} (hc : c.session? = some s) (d : List (Deed σ)) :
    Mask.of (some c) d = d.foldl (Mask.next (some s)) .away := by
  unfold Mask.of
  rw [Option.bind_some, hc]

/-- A program in progress may ask for what it asks for, behind its mask. -/
theorem Board.Continues.mask_allows {B : Board σ} {o : Option Call} {d : List (Deed σ)}
    {q : Request σ} (h : B.Continues o d q) : (Mask.of o d).Allows q := by
  cases o with
  | none =>
    rw [Mask.of_eq_away rfl]
    cases h <;> exact .inl rfl
  | some c =>
    cases hc : c.session? with
    | none =>
      rw [Mask.of_eq_away (o := some c) hc]
      exact h.allows.unmasked hc
    | some s =>
      obtain ⟨next, follows⟩ := h
      have rest := (B.program_masked hc).of_follows follows
      rw [Mask.of_some hc]
      exact rest.1

/-- A call that ended has restored the interrupts and given the permit back. -/
theorem Board.mask_of_complete (B : Board σ) {c : Call} {d : List (Deed σ)} {x : c.Answer}
    (h : Follows (B.program c) d (.done x)) : Mask.of (some c) d = .away := by
  cases hc : c.session? with
  | none => exact Mask.of_eq_away (o := some c) hc d
  | some s =>
    rw [Mask.of_some hc]
    exact (B.program_masked hc).of_follows h

/-! ## Masks and permits -/

/-- Only giving the permit back takes it from a program. -/
lemma Standing.next_stage_ne_away {s : SessionId} {t : Standing} {x : Deed σ}
    (ht : t.stage ≠ .away) (hx : ∀ y, x ≠ .acted (.post (.guard s)) y) :
    (t.next s x).stage ≠ .away := by
  unfold next
  split <;> try exact ht
  case h_6 =>
    unfold receive
    split <;> try exact ht
    all_goals
      split <;> try exact ht
      simp only [enter, setUp, rest]
      split <;> simp_all
  case h_3 g _ =>
    split
    · next hg =>
      subst hg
      exact absurd rfl (hx _)
    · exact ht
  case h_2 | h_4 | h_5 =>
    split <;> try exact ht
    simp only [enter, look, store]
    repeat' split
    all_goals simp_all
  case h_1 => split <;> exact ht

/-- A program that masks interrupts, or is about to or did, has the permit of its guard. -/
lemma Mask.stage_ne_away {s : SessionId} {o : Option Call} (ho : o.bind Call.session? = some s)
    {d : List (Deed σ)} (h : Mask.of o d ≠ .away) : (Standing.of s d).stage ≠ .away := by
  induction d using List.reverseRecOn with
  | nil => exact absurd rfl h
  | append_singleton d x ih =>
    rw [of_snoc, ho] at h
    rw [Standing.of_snoc]
    by_cases posts : ∃ y, x = .acted (.post (.guard s)) y
    · obtain ⟨y, rfl⟩ := posts
      simp [next] at h
    · by_cases before : Mask.of o d = .away
      · -- Only the answer to its wait takes the program to its permit.
        rw [before] at h
        unfold next at h
        split at h
        · split at h <;> exact absurd rfl h
        · split at h
          · next g p r got =>
            obtain ⟨guard, ok⟩ := got
            obtain rfl : SemaphoreId.guard s = g := by simpa using guard
            simp only [Standing.next, Standing.receive, ok, and_self, if_true, Standing.enter]
            split <;> simp_all
          · exact absurd rfl h
        all_goals exact absurd rfl h
      · exact Standing.next_stage_ne_away (ih before) fun y hy => posts ⟨y, hy⟩

end LedDriver
