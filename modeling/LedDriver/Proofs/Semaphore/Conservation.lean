import LedDriver.Proofs.Semaphore.Attempts

/-!
# Conservation of permits

Any number of parties take permits of a lone semaphore and give them back, under all schedules and
from any number of permits.  Every permit is in exactly one place: it is free, it is carried by a
call in progress that has taken it and has not answered yet, or it was granted and is not posted
yet.

`Runs.custody` follows the permits that were taken, from call to call, to the parties that they were
granted to.  A party gives a permit back by a call that posts once (`Runs.released_eq`).  Where
permits are released only after they were granted (`Backed`), each post follows an exchange of its
own, and the counter is a number of permits at all times (`Runs.counted`).
-/

namespace LedDriver

variable {σ α : Type} {n : Nat}

/-! ## Permits on their way -/

/-- An inner procedure hands a permit of a semaphore on with its answer. -/
def Routine.hands (g : SemaphoreId) : (c : Routine) → c.Answer → Bool
  | .tryWait g', x | .claim g' _, x => g' = g && x
  | .wait g' _, x => g' = g && x.isOk

/-- A service grants a permit of a lone semaphore with its answer. -/
def Service.grants (i : Nat) : (c : Service) → c.Answer → Bool
  | .tryWait j, x => j = i && x
  | .wait j _, x => j = i && x.isOk
  | _, _ => false

/-- A call answers with a permit of a lone semaphore. -/
def Call.hands (i : Nat) : (c : Call) → c.Answer → Bool
  | .routine c, x => c.hands (.alone i) x
  | .service c, x => c.grants i x
  | .peer _, _ => false

/-- A program of the driver gets a permit of a lone semaphore, by an exchange or from an inner
procedure. -/
def Deed.gets (i : Nat) : Deed σ → Bool
  | .acted a x => (Label.acted a x).takes (.alone i)
  | .received (.routine c) x => c.hands (.alone i) x
  | .received (.service _) _ | .received (.peer _) _ => false

/-- A permit is granted in a step. -/
def Label.grants (i : Nat) : Label σ → Bool
  | .returned (.service c) _ x _ => c.grants i x
  | _ => false

/-- The release of a permit. -/
def Call.isRelease (i : Nat) : Call → Bool
  | .service (.post j) => j = i
  | _ => false

/-- The release of a permit begins in a step. -/
def Label.releases (i : Nat) : Label σ → Bool
  | .called c => c.isRelease i
  | _ => false

/-- A permit is posted in a step. -/
def Label.posts (i : Nat) : Label σ → Bool
  | .acted (.post g) _ => g = .alone i
  | _ => false

/-- The release of a permit has begun and has not posted yet. -/
def Frame.releases (i : Nat) (f : Frame σ) : Bool :=
  f.owner.any (Call.isRelease i) && f.past.isEmpty

lemma Call.isRelease_iff {i : Nat} {c : Call} : c.isRelease i = true ↔ c = .service (.post i) := by
  unfold isRelease
  split
  · next j => simp
  · next other =>
    constructor
    · exact nofun
    · rintro rfl
      exact absurd rfl (other i)

/-- A call that has to do with taking permits. -/
def Call.isAttempt : Call → Bool
  | .routine _ | .service (.tryWait _) | .service (.wait _ _) => true
  | _ => false

/-- Other calls get no permit of a lone semaphore. -/
lemma Call.Asks.not_gets {c : Call} {x : Deed σ} {i : Nat} (h : c.Asks x.request)
    (other : c.isAttempt = false) : x.gets i = false := by
  cases x with
  | acted a y =>
    cases a with
    | exchange g seen =>
      cases h
      cases other
    | acquire | release | control | table | permits | post | count | setCount | profile | create
    | own => rfl
  | received c' y =>
    cases c' with
    | service c | peer c => rfl
    | routine c =>
      cases h with
      | open_wait | close_wait => simp [Deed.gets, Routine.hands]
      | tryWait_alone | wait_alone | claim_claim | tryWait_claim | wait_tryWait | wait_wait =>
        cases other

section Programs

variable {g : SemaphoreId} {i : Nat} {d : List (Deed σ)}

lemma Semaphore.gets_of_claim {seen : UInt32} {x : Bool}
    (h : Follows (Semaphore.claim g seen) d (.done x)) :
    d.countP (Deed.gets i) = if (Routine.claim g seen).hands (.alone i) x = true then 1 else 0 := by
  unfold Semaphore.claim at h
  split at h
  · obtain ⟨rfl, rfl⟩ := h.of_done
    simp [Routine.hands]
  · obtain ⟨y, d, rfl, rest⟩ := h.of_atom
    cases y with
    | ok y =>
      obtain ⟨rfl, rfl⟩ := rest.of_done
      by_cases hg : g = .alone i <;> simp [Deed.gets, Label.takes, Routine.hands, hg]
    | error v =>
      obtain ⟨y, d, rfl, last⟩ := rest.of_call
      obtain ⟨rfl, rfl⟩ := last.of_done
      by_cases hg : g = .alone i <;> cases x <;> simp [Deed.gets, Label.takes, Routine.hands, hg]

lemma Semaphore.gets_of_tryWait {x : Bool} (h : Follows (Semaphore.tryWait g) d (.done x)) :
    d.countP (Deed.gets i) = if (Routine.tryWait g).hands (.alone i) x = true then 1 else 0 := by
  obtain ⟨seen, d, rfl, rest⟩ := h.of_atom
  obtain ⟨y, d, rfl, last⟩ := rest.of_call
  obtain ⟨rfl, rfl⟩ := last.of_done
  by_cases hg : g = .alone i <;> cases x <;> simp [Deed.gets, Label.takes, Routine.hands, hg]

lemma Semaphore.gets_of_wait {p : PlatformId} {x : Except DeviceError Unit}
    (h : Follows (Semaphore.wait g p) d (.done x)) :
    d.countP (Deed.gets i) = if (Routine.wait g p).hands (.alone i) x = true then 1 else 0 := by
  obtain ⟨y, d, rfl, rest⟩ := h.of_call
  cases y with
  | true =>
    obtain ⟨rfl, rfl⟩ := rest.of_done
    by_cases hg : g = .alone i <;>
      simp [Deed.gets, Routine.hands, hg, Except.isOk, Except.toBool]
  | false =>
    obtain ⟨r, d, rfl, told⟩ := rest.of_call
    cases r with
    | error e =>
      obtain ⟨rfl, rfl⟩ := told.of_done
      simp [Deed.gets, Routine.hands, Except.isOk, Except.toBool]
    | ok y =>
      obtain ⟨y, d, rfl, relaxed⟩ := told.of_call
      obtain ⟨y, d, rfl, last⟩ := relaxed.of_call
      obtain ⟨rfl, rfl⟩ := last.of_done
      by_cases hg : g = .alone i <;> cases x <;>
        simp [Deed.gets, Routine.hands, hg, Except.isOk, Except.toBool]

/-- A call that has ended got as many permits as it hands on: one if its answer comes with a permit,
and none otherwise. -/
theorem Board.gets_of_follows {B : Board σ} {c : Call} {x : c.Answer}
    (h : Follows (B.program c) d (.done x)) :
    d.countP (Deed.gets i) = if c.hands i x = true then 1 else 0 := by
  have others (other : c.isAttempt = false) (none : c.hands i x = false) :
      d.countP (Deed.gets i) = if c.hands i x = true then 1 else 0 := by
    rw [none, if_neg Bool.false_ne_true, List.countP_eq_zero]
    intro y hy
    rw [(h.asked (B.program_asks c) y hy).not_gets other]
    exact Bool.false_ne_true
  cases c with
  | peer c => exact others rfl rfl
  | routine c =>
    cases c with
    | claim g seen => exact Semaphore.gets_of_claim h
    | tryWait g => exact Semaphore.gets_of_tryWait h
    | wait g p => exact Semaphore.gets_of_wait h
  | service c =>
    cases c with
    | tryWait j =>
      obtain ⟨y, d, rfl, rest⟩ := Follows.of_call h
      obtain ⟨rfl, rfl⟩ := rest.of_done
      by_cases hj : j = i <;> cases x <;>
        simp [Deed.gets, Call.hands, Routine.hands, Service.grants, hj]
    | wait j p =>
      obtain ⟨y, d, rfl, rest⟩ := Follows.of_call h
      obtain ⟨rfl, rfl⟩ := rest.of_done
      by_cases hj : j = i <;> cases x <;>
        simp [Deed.gets, Call.hands, Routine.hands, Service.grants, hj, Except.isOk, Except.toBool]
    | openDevice | closeDevice | command | control | operate | provided | openCount | config
    | register | table | post => exact others rfl rfl

end Programs

/-! ## Counting permits -/

namespace Pool

/-- How many permits were taken. -/
def obtained (i : Nat) (l : List (Fin n × Label σ)) : Nat := l.countP fun e => e.2.takes (.alone i)

/-- How many permits were granted. -/
def granted (i : Nat) (l : List (Fin n × Label σ)) : Nat := l.countP fun e => e.2.grants i

/-- How many releases of permits have begun. -/
def released (i : Nat) (l : List (Fin n × Label σ)) : Nat := l.countP fun e => e.2.releases i

/-- How many permits were posted. -/
def posted (i : Nat) (l : List (Fin n × Label σ)) : Nat := l.countP fun e => e.2.posts i

/-- How many permits are carried by calls in progress, which have not answered with them yet. -/
def carried (P : Pool n σ α) (i : Nat) : Nat :=
  (P.frames.map fun f => f.past.countP (Deed.gets i)).sum

/-- The permits held: those that were granted and not posted yet, and those carried by calls in
progress. -/
def permitsHeld (P : Pool n σ α) (i : Nat) (l : List (Fin n × Label σ)) : Int :=
  (granted i l : Int) - posted i l + P.carried i

/-- How many releases are in progress that have not posted yet. -/
def releasing (P : Pool n σ α) (i : Nat) : Nat := P.frames.countP fun f => f.releases i = true

variable {B : Board σ} {P Q : Pool n σ α} {l l' : List (Fin n × Label σ)} {base : World σ}
  {clients : Fin n → Reaction σ α} {i : Nat}

/-- A call hands its permits on to the program that waits for it, or they are granted. -/
lemma handed (i : Nat) (c : Call) (w : World σ) (x : c.Answer) (d : List (Deed σ)) :
    ((if (Deed.received c x : Deed σ).gets i = true then 1 else 0) +
        if (Label.returned c w x d).grants i = true then 1 else 0) =
      if c.hands i x = true then 1 else 0 := by
  cases c with
  | service c => exact Nat.zero_add _
  | routine c => exact Nat.add_zero _
  | peer c => rfl

/-- Every permit that was taken was granted or is carried by a call in progress. -/
theorem Runs.custody (run : Runs B (startIn base clients) l P) (i : Nat) :
    obtained i l = granted i l + P.carried i := by
  induction run with
  | refl =>
    have none : (startIn base clients).carried i = 0 := by
      refine Multiset.sum_eq_zero fun m hm => ?_
      obtain ⟨f, hf, rfl⟩ := Multiset.mem_map.mp hm
      obtain ⟨j, hf⟩ := mem_frames_iff.mp hf
      obtain rfl := List.mem_singleton.mp hf
      rfl
    rw [none]
    rfl
  | @tail Q R l e run step ih =>
    obtain ⟨j, e⟩ := e
    obtain ⟨old, new, rest, hold, hnew, turn⟩ := run.turn_frames step
    unfold carried at ih ⊢
    rw [hold] at ih
    rw [hnew, obtained, granted, List.countP_append, List.countP_append, ← obtained, ← granted]
    generalize R.world = w at turn
    cases turn with
    | @act _ _ _ _ a x _ _ =>
      have same : (Deed.acted a x).gets i = (Label.acted a x).takes (.alone i) := rfl
      simp [Label.grants, same] at ih ⊢
      omega
    | call _ =>
      simp [Label.takes, Label.grants] at ih ⊢
      omega
    | @«return» _ _ w₁ _ d c x _ complete =>
      have got := Board.gets_of_follows (i := i) complete
      have handed := handed i c w₁ x d
      simp [Label.takes, got] at ih ⊢
      omega

/-! ## Releases -/

end Pool

/-- A release posts once, and does nothing else. -/
lemma Board.follows_release {B : Board σ} {i : Nat} {d : List (Deed σ)} {q : Action σ Unit}
    (h : Follows (B.program (.service (.post i))) d q) :
    (d = [] ∧ q = (Atom.post (.alone i)).act) ∨
      (d = [.acted (.post (.alone i)) ()] ∧ q = .done ()) := by
  obtain ⟨rfl, rfl⟩ | ⟨y, d, rfl, rest⟩ := follows_atom_iff.mp (h : Follows (.ask (.atom _) _) d q)
  · exact .inl ⟨rfl, rfl⟩
  · obtain ⟨rfl, rfl⟩ := follows_done_iff.mp rest
    exact .inr ⟨rfl, rfl⟩

namespace Board.Continues

variable {B : Board σ} {o : Option Call} {d : List (Deed σ)} {w : World σ} {p : Option Call}
  {i : Nat}

/-- A release posts in its first step, and nothing else posts a permit of a lone semaphore. -/
lemma posts_eq {a : Atom σ} (h : B.Continues o d (.atom a)) (x : a.Answer) :
    (Label.acted a x).posts i = (⟨o, w, d, p⟩ : Frame σ).releases i := by
  by_cases release : o = some (.service (.post i))
  · subst release
    obtain ⟨next, h⟩ := h
    obtain ⟨rfl, e⟩ | ⟨-, e⟩ := Board.follows_release h
    · cases e
      simp [Label.posts, Frame.releases, Call.isRelease]
    · cases e
  · have none : (⟨o, w, d, p⟩ : Frame σ).releases i = false := by
      have other : o.any (Call.isRelease i) = false := by
        cases o with
        | none => rfl
        | some c => simpa [← Call.isRelease_iff] using release
      simp only [Frame.releases, other, Bool.false_and]
    rw [none]
    unfold Label.posts
    split
    · next g _ e =>
      cases e
      refine decide_eq_false ?_
      rintro rfl
      have allowed := h.allows
      cases o with
      | none => cases allowed
      | some c =>
        cases allowed
        exact release rfl
    · rfl

/-- A release makes no call. -/
lemma not_releases {c : Call} (h : B.Continues o d (.call c)) :
    (⟨o, w, d, p⟩ : Frame σ).releases i = false := by
  have other : o.any (Call.isRelease i) = false := by
    cases o with
    | none => rfl
    | some c =>
      rw [Option.any_some, ← Bool.not_eq_true, Call.isRelease_iff]
      rintro rfl
      cases h.allows
  simp only [Frame.releases, other, Bool.false_and]

end Board.Continues

namespace Pool

variable {B : Board σ} {P Q : Pool n σ α} {l l' : List (Fin n × Label σ)} {base : World σ}
  {clients : Fin n → Reaction σ α} {i : Nat}

/-- Every release that has begun has posted once or is in progress and will post. -/
theorem Runs.released_eq (run : Runs B (startIn base clients) l P) (i : Nat) :
    released i l = posted i l + P.releasing i := by
  induction run with
  | refl =>
    have none : (startIn base clients).releasing i = 0 := by
      refine Multiset.countP_eq_zero.mpr fun f hf => ?_
      obtain ⟨j, hf⟩ := mem_frames_iff.mp hf
      obtain rfl := List.mem_singleton.mp hf
      exact Bool.false_ne_true
    rw [none]
    rfl
  | @tail Q R l e run step ih =>
    obtain ⟨j, e⟩ := e
    obtain ⟨old, new, rest, hold, hnew, turn⟩ := run.turn_frames step
    unfold releasing at ih ⊢
    rw [hold] at ih
    rw [hnew, released, posted, List.countP_append, List.countP_append, ← released, ← posted]
    generalize R.world = w at turn
    cases turn with
    | @act o w₀ _ d a x ask _ =>
      have posts := ask.posts_eq (w := w₀) (p := none) (i := i) x
      have silent : (⟨o, w₀, d ++ [.acted a x], none⟩ : Frame σ).releases i = false := by
        simp [Frame.releases]
      simp [Multiset.countP_cons, Label.releases, posts, silent] at ih ⊢
      omega
    | @call o w₀ d c ask =>
      have before := ask.not_releases (w := w₀) (p := none) (i := i)
      have after := ask.not_releases (w := w₀) (p := some c) (i := i)
      have begins (w : World σ) : (⟨some c, w, [], none⟩ : Frame σ).releases i =
          (Label.called c : Label σ).releases i := by
        simp [Frame.releases, Label.releases]
      simp [List.countP_cons, Label.posts, before, after, begins] at ih ⊢
      omega
    | @«return» o w₀ w₁ d deeds c x ask complete =>
      have before := ask.not_releases (w := w₀) (p := some c) (i := i)
      have after : (⟨o, w₀, d ++ [.received c x], none⟩ : Frame σ).releases i = false := by
        simp [Frame.releases]
      have silent : (⟨some c, w₁, deeds, none⟩ : Frame σ).releases i = false := by
        by_cases release : c = .service (.post i)
        · subst release
          obtain ⟨rfl, e⟩ | ⟨rfl, -⟩ := Board.follows_release complete
          · cases e
          · exact Bool.and_false _
        · rw [← Call.isRelease_iff] at release
          simp [Frame.releases, release]
      simpa [Multiset.countP_cons, List.countP_cons, Label.releases, Label.posts, before,
        after, silent] using ih

end Pool

/-! ## The counter -/

/-- Only an exchange that takes effect and a post change the counter of a lone semaphore. -/
lemma Atom.Performs.alone_eq {w w' : World σ} {a : Atom σ} {x : a.Answer} {i : Nat}
    (h : a.Performs w x w') (keeps : (Label.acted a x).takes (.alone i) = false)
    (other : (Label.acted a x).posts i = false) :
    w'.semaphore (.alone i) = w.semaphore (.alone i) := by
  cases h with
  | spurious => rfl
  | effect h =>
    obtain ⟨-, h⟩ := apply_eq_ok_iff.mp h
    cases a with
    | acquire l => cases l <;> simp only [Atom.effect] at h <;> split at h <;> cases h <;> rfl
    | release l => cases l <;> cases h <;> rfl
    | exchange g seen =>
      simp only [Atom.effect] at h
      split at h <;> cases h
      · have off : g ≠ .alone i := of_decide_eq_false keeps
        exact update_of_ne _ _ off.symm
      · rfl
    | post g =>
      cases h
      have off : g ≠ .alone i := of_decide_eq_false other
      exact update_of_ne _ _ off.symm
    | create p =>
      cases h
      have off : SemaphoreId.alone i ≠ .guard w.issued := by simp
      exact update_of_ne w.semaphore ⟨1⟩ off
    | control | table | permits | count | setCount | profile | own =>
      cases h
      rfl

namespace Pool

variable {B : Board σ} {P Q : Pool n σ α} {l l' : List (Fin n × Label σ)} {base : World σ}
  {clients : Fin n → Reaction σ α} {i : Nat}

/-- Permits are released only after they were granted: after some steps were made, whenever a
release begins, more permits were granted than releases began.  The party that releases a permit may
have it from another one. -/
def Backed (i : Nat) : List (Fin n × Label σ) → List (Fin n × Label σ) → Prop
  | _, [] => True
  | past, e :: l =>
    (e.2.releases i = true → released i past < granted i past) ∧ Backed i (past ++ [e]) l

instance decidableBacked (i : Nat) : (past l : List (Fin n × Label σ)) → Decidable (Backed i past l)
  | _, [] => .isTrue trivial
  | past, e :: l =>
    have := decidableBacked i (past ++ [e]) l
    inferInstanceAs (Decidable ((_ → _) ∧ _))

lemma backed_snoc {past : List (Fin n × Label σ)} {e : Fin n × Label σ} :
    Backed i past (l ++ [e]) ↔
      Backed i past l ∧
        (e.2.releases i = true → released i (past ++ l) < granted i (past ++ l)) := by
  induction l generalizing past with
  | nil => simp [Backed]
  | cons x l ih => simp [Backed, ih, and_assoc]

/-- Where permits are released only after they were granted, no more are released than granted. -/
lemma Backed.le (h : Backed i [] l) : released i l ≤ granted i l := by
  induction l using List.reverseRecOn with
  | nil => exact Nat.le_refl _
  | append_singleton l e ih =>
    obtain ⟨before, backed⟩ := backed_snoc.mp h
    have least := ih before
    have grants : granted i l ≤ granted i (l ++ [e]) := by
      simp [granted]
    by_cases release : e.2.releases i = true
    · have more : released i l < granted i l := backed release
      simp only [released, List.countP_append, List.countP_singleton, if_pos release] at more ⊢
      omega
    · simp only [released, List.countP_append, List.countP_singleton, if_neg release] at least ⊢
      omega

/-- A step takes a permit off the counter if it takes one, puts one on it if it posts one, and
leaves the counter as it is otherwise. -/
lemma Runs.counter_step (run : Runs B (startIn base clients) l P) {j : Fin n} {e : Label σ}
    (step : Step B P (j, e) Q) (room : e.posts i = true →
      (P.world.semaphore (.alone i)).permits.toNat + 1 < UInt32.size) :
    (Q.world.semaphore (.alone i)).permits.toNat + (if e.takes (.alone i) = true then 1 else 0) =
      (P.world.semaphore (.alone i)).permits.toNat + if e.posts i = true then 1 else 0 := by
  rcases step.world_eq with ⟨a, x, rfl, performs⟩ | ⟨other, same⟩
  · by_cases posts : (Label.acted a x).posts i = true
    · have post : a = .post (.alone i) := by
        unfold Label.posts at posts
        split at posts
        · next g y e =>
          cases e
          rw [of_decide_eq_true posts]
        · cases posts
      subst post
      have small := room posts
      rw [performs.of_post.1, UInt32.toNat_add, UInt32.toNat_one, Nat.mod_eq_of_lt small,
        if_pos posts]
      rfl
    · by_cases takes : (Label.acted a x).takes (.alone i) = true
      · obtain ⟨seen, rfl⟩ : ∃ seen, a = .exchange (.alone i) seen := by
          unfold Label.takes at takes
          split at takes
          · next g seen e =>
            cases e
            rw [of_decide_eq_true takes]
            exact ⟨_, rfl⟩
          · cases takes
        have some := run.seen_ne_zero step
        rcases performs.of_exchange with ⟨-, before, after, -⟩ | ⟨⟨v, rfl⟩, -⟩
        · have pos : (1 : UInt32).toNat ≤ seen.toNat :=
            Nat.pos_of_ne_zero fun zero => some (UInt32.toNat_inj.mp zero)
          rw [before, after, UInt32.toNat_sub_of_le _ _ (UInt32.le_iff_toNat_le.mpr pos),
            if_pos takes, if_neg posts]
          exact Nat.sub_add_cancel pos
        · cases takes
      · rw [performs.alone_eq (by simpa using takes) (by simpa using posts), if_neg takes,
          if_neg posts]
  · have none : e.takes (.alone i) = false ∧ e.posts i = false := by
      cases e with
      | acted a x => exact absurd rfl (other a x)
      | called c | returned c w x d => exact ⟨rfl, rfl⟩
    simp [same, none.1, none.2]

/-- A permit is posted by a release that has begun and has not posted yet. -/
lemma Runs.posted_lt (run : Runs B (startIn base clients) l P) {j : Fin n} {e : Label σ}
    (step : Step B P (j, e) Q) (posts : e.posts i = true) : posted i l < released i l := by
  obtain ⟨f, hf, ask⟩ := run.exists_asking step
  have releases : f.releases i = true := by
    cases e with
    | acted a x => rw [← posts, ask.posts_eq (w := f.before) (p := f.pending) x]
    | called c | returned c w x d => cases posts
  have pending : 0 < P.releasing i :=
    Multiset.countP_pos.mpr ⟨f, mem_frames_iff.mpr ⟨j, hf⟩, releases⟩
  have released := run.released_eq i
  omega

/-- Where permits are released only after they were granted, the counter and the permits that were
taken add up to the permits at the beginning and those that were posted. -/
theorem Runs.counted (run : Runs B (startIn base clients) l P) (backed : Backed i [] l) :
    (P.world.semaphore (.alone i)).permits.toNat + obtained i l =
      (base.semaphore (.alone i)).permits.toNat + posted i l := by
  induction run with
  | refl => rfl
  | @tail Q R l e run step ih =>
    obtain ⟨j, e⟩ := e
    obtain ⟨backed, -⟩ := backed_snoc.mp backed
    have count := ih backed
    have custody := run.custody i
    have least := backed.le
    have room (posts : e.posts i = true) :
        (Q.world.semaphore (.alone i)).permits.toNat + 1 < UInt32.size := by
      have more := run.posted_lt step posts
      have bound := (base.semaphore (.alone i)).permits.toNat_lt_size
      omega
    have next := run.counter_step step room
    simp only [obtained, posted, List.countP_append, List.countP_singleton] at count ⊢
    omega

/-- Permits are conserved.  Let any number of parties, from any number of permits, try to take
permits of a lone semaphore, wait for them and release them, each release being for a permit that
was granted.  In every state that they can reach the permits in the counter and the permits held add
up to the permits at the beginning, so that neither number falls below zero or exceeds these.  In
every step that is possible there, the counter loses one if a permit is taken and gains one if a
permit is posted, without wrapping.  No more permits are posted than were granted, and each release
posts once.  An attempt that was refused, by the service or on behalf of one that waits, found the
counter at zero at some time between its beginning and its end. -/
theorem Runs.permits_conserved (run : Runs B (startIn base clients) l P) (backed : Backed i [] l) :
    ((P.world.semaphore (.alone i)).permits.toNat : Int) + P.permitsHeld i l =
      (base.semaphore (.alone i)).permits.toNat ∧
    0 ≤ P.permitsHeld i l ∧
    P.permitsHeld i l ≤ (base.semaphore (.alone i)).permits.toNat ∧
    (∀ j e Q, Step B P (j, e) Q →
      (Q.world.semaphore (.alone i)).permits.toNat + (if e.takes (.alone i) = true then 1 else 0) =
        (P.world.semaphore (.alone i)).permits.toNat + if e.posts i = true then 1 else 0) ∧
    posted i l ≤ granted i l ∧
    (∀ j w x d, (j, .returned (.service (.post i)) w x d) ∈ l →
      d = [.acted (.post (.alone i)) ()]) ∧
    (∀ j k t S w d,
      ⟨t, (k, .service (.tryWait i)) :: S, .returned (.service (.tryWait i)) w false d⟩ ∈
        moments j l → Exhausted B base clients l (.alone i) k t) ∧
    (∀ j k t S w d,
      ⟨t, (k, .routine (.tryWait (.alone i))) :: S,
        .returned (.routine (.tryWait (.alone i))) w false d⟩ ∈
        moments j l → Exhausted B base clients l (.alone i) k t) := by
  have count := run.counted backed
  have custody := run.custody i
  have released := run.released_eq i
  have least := backed.le
  have posted : posted i l ≤ granted i l := by omega
  have bound := (base.semaphore (.alone i)).permits.toNat_lt_size
  refine ⟨?_, ?_, ?_, fun j e Q step => ?_, posted, fun j w x d ended => ?_,
    fun j k t S w d => run.exhausted_of_refused, fun j k t S w d => run.exhausted_of_failed⟩
  · unfold permitsHeld
    omega
  · unfold permitsHeld
    omega
  · unfold permitsHeld
    omega
  · refine run.counter_step step fun posts => ?_
    have more := run.posted_lt step posts
    omega
  · obtain ⟨-, e⟩ | ⟨once, -⟩ := Board.follows_release (run.follows_of_returned ended)
    · cases e
    · exact once

/-- Two clients that take a permit; the first releases it again. -/
def passing : Fin 2 → Reaction Unit Unit
  | 0 => do
    let _ ← (Service.tryWait 0).use
    let _ ← (Service.post 0).use
    pure ()
  | 1 => do
    let _ ← (Service.tryWait 0).use
    pure ()

/-- A permit that the first client holds is refused to the second and is free again when it was
released. -/
theorem permits_conserved_passing :
    ∃ (l : List (Fin 2 × Label Unit)) (P : Pool 2 Unit Unit),
      Runs (.obedient (pure (.ok ()))) (startIn (World.initial ()) passing) l P ∧ Backed 0 [] l ∧
        obtained 0 l = 1 ∧ posted 0 l = 1 ∧
        ((P.world.semaphore (.alone 0)).permits.toNat : Int) + P.permitsHeld 0 l = 1 ∧
        Exhausted (.obedient (pure (.ok ()))) (World.initial ()) passing l (.alone 0) 8 14 := by
  have h : ((startIn (World.initial ()) passing : Pool 2 Unit Unit).play (.obedient (pure (.ok ())))
      (.replicate 8 0 ++ .replicate 7 1 ++ .replicate 3 0)).isSome := rfl
  obtain ⟨l, P, run, backed, taken, posted, refused⟩ :
      ∃ (l : List (Fin 2 × Label Unit)) (P : Pool 2 Unit Unit),
        Runs (.obedient (pure (.ok ()))) (startIn (World.initial ()) passing) l P ∧ Backed 0 [] l ∧
          obtained 0 l = 1 ∧ posted 0 l = 1 ∧
          ∃ m ∈ moments 1 l, ∃ w d, m = ⟨14, [(8, .service (.tryWait 0))],
            .returned (.service (.tryWait 0)) w false d⟩ :=
    ⟨_, _, runs_of_isSome h, of_decide_eq_true rfl, rfl, rfl, _, List.mem_of_getLast? rfl,
      _, _, rfl⟩
  obtain ⟨sum, -, -, -, -, -, exhausted, -⟩ := run.permits_conserved backed
  obtain ⟨m, hm, w, d, rfl⟩ := refused
  exact ⟨l, P, run, backed, taken, posted, sum, exhausted _ _ _ _ _ _ hm⟩

end Pool

end LedDriver
