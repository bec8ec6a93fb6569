import Mathlib.Algebra.Order.BigOperators.Group.Finset
import LedDriver.Proofs.Lifecycle.References

/-!
# Ownership

Many clients share a session, and each of them closes only references that it got by an open of its
own (`Orderly`).  An open gives a reference if it counts: it answered success and did not conceal
that the hardware could not be set up.  Then the open count is the sum of what the clients have
added to it (`Runs.sum_balance`), no client has taken off more than it added (`Runs.held_nonneg`),
and no close finds a count of zero (`Runs.unspurious`).  Hence the close that puts the hardware to
rest does so when no client has a reference any more (`Runs.ownership`).

Without the word about concealment this is wrong: an open that conceals a failure answers success,
and the close for it takes the reference of another client (`concealed_open_closes_another`).

All calls that are made in the course of a client's program count as calls of the client.
-/

namespace LedDriver

variable {σ α : Type} {n : Nat}

/-- A close of a session. -/
def Call.isClose (s : SessionId) : Call → Bool
  | .service (.closeDevice u) => u == s
  | _ => false

lemma Call.eq_of_isClose {s : SessionId} {c : Call} (h : c.isClose s = true) :
    c = .service (.closeDevice s) := by
  unfold isClose at h
  split at h
  · rw [eq_of_beq h]
  · cases h

/-- An open of a session. -/
def Call.isOpen (s : SessionId) : Call → Bool
  | .service (.openDevice u) => u == s
  | _ => false

/-- An open ended with success. -/
def Label.isGranted (s : SessionId) : Label σ → Bool
  | .returned (.service (.openDevice u)) _ r _ => u == s && r.isOk
  | _ => false

/-- A close begins. -/
def Label.isCloseCall (s : SessionId) : Label σ → Bool
  | .called c => c.isClose s
  | _ => false

/-- A close ended, with success or without. -/
def Label.isCloseEnd (s : SessionId) (success : Bool) : Label σ → Bool
  | .returned (.service (.closeDevice u)) _ r _ => u == s && r.isOk == success
  | _ => false

/-- The end of a close is one with success or one without. -/
lemma Label.isCloseEnd_add (s : SessionId) (c : Call) (before : World σ) (x : c.Answer)
    (d : List (Deed σ)) :
    ((if (Label.returned c before x d).isCloseEnd s true = true then 1 else 0) +
        if (Label.returned c before x d).isCloseEnd s false = true then 1 else 0) =
      if c.isClose s = true then 1 else 0 := by
  by_cases close : ∃ u, c = .service (.closeDevice u)
  · obtain ⟨u, rfl⟩ := close
    by_cases hu : u = s <;> cases x <;>
      simp [isCloseEnd, Call.isClose, hu]
  · have call : c.isClose s = false := by
      unfold Call.isClose
      split
      · next u => exact absurd ⟨u, rfl⟩ close
      · rfl
    have ended (success : Bool) : (Label.returned c before x d).isCloseEnd s success = false := by
      unfold isCloseEnd
      split
      · next u _ _ _ h =>
        cases h
        exact absurd ⟨u, rfl⟩ close
      · rfl
    simp [call, ended]

/-- A close that took a reference ended with success. -/
lemma Label.isCloseEnd_of_isClosed {s : SessionId} {p : UInt8 → Bool} {e : Label σ}
    (h : e.isClosed s p = true) : e.isCloseEnd s true = true := by
  unfold isClosed at h
  split at h
  · simp only [Bool.and_eq_true] at h
    simp [isCloseEnd, h.1.1, h.1.2]
  · cases h

/-- An open in progress has raised the open count. -/
def Frame.hasOpened (s : SessionId) (f : Frame σ) : Bool :=
  f.owner.any (Call.isOpen s) && f.past.any (Deed.isStore s)

/-- A close in progress has not lowered the open count yet. -/
def Frame.isClosing (s : SessionId) (f : Frame σ) : Bool :=
  f.owner.any (Call.isClose s) && !f.past.any (Deed.isStore s)

/-- A close in progress has lowered the open count. -/
def Frame.hasClosed (s : SessionId) (f : Frame σ) : Bool :=
  f.owner.any (Call.isClose s) && f.past.any (Deed.isStore s)

namespace Pool

/-- How often a client made steps of a kind. -/
def tally (i : Fin n) (p : Label σ → Bool) (l : List (Fin n × Label σ)) : Nat :=
  (l.filter fun e => e.1 = i).countP fun e => p e.2

/-- A client has a reference that none of its closes is for.  References are given by opens of some
kind; a close is for a reference unless it was refused. -/
def Entitled (s : SessionId) (grants : Label σ → Bool) (l : List (Fin n × Label σ))
    (i : Fin n) : Prop :=
  tally i (Label.isCloseCall s) l < tally i grants l + tally i (Label.isCloseEnd s false) l

instance (s : SessionId) (grants : Label σ → Bool) (l : List (Fin n × Label σ)) (i : Fin n) :
    Decidable (Entitled s grants l i) := inferInstanceAs (Decidable (_ < _))

/-- After some steps were made, each client begins a close only where it has a reference for it. -/
def Orderly (s : SessionId) (grants : Label σ → Bool) :
    List (Fin n × Label σ) → List (Fin n × Label σ) → Prop
  | _, [] => True
  | past, e :: l =>
    (e.2.isCloseCall s = true → Entitled s grants past e.1) ∧ Orderly s grants (past ++ [e]) l

instance decidableOrderly (s : SessionId) (grants : Label σ → Bool) :
    (past l : List (Fin n × Label σ)) → Decidable (Orderly s grants past l)
  | _, [] => .isTrue trivial
  | past, e :: l =>
    have := decidableOrderly s grants (past ++ [e]) l
    inferInstanceAs (Decidable ((_ → _) ∧ _))

/-- The references of a client: the opens that counted, less the closes that ended with success and
those in progress that have lowered the open count. -/
def held (P : Pool n σ α) (s : SessionId) (l : List (Fin n × Label σ)) (i : Fin n) : Int :=
  tally i (Label.isOpened s) l - tally i (Label.isCloseEnd s true) l -
    (P.parties i).frames.countP (Frame.hasClosed s)

/-- What a client has added to the open count of a session. -/
def balance (P : Pool n σ α) (s : SessionId) (l : List (Fin n × Label σ)) (i : Fin n) : Int :=
  ((l.filter fun e => e.1 = i).map fun e => (Standing.of s e.2.deeds).gain).sum +
    ((P.parties i).frames.map fun f => (Standing.of s f.past).gain).sum

variable {B : Board σ} {P Q : Pool n σ α} {l l' : List (Fin n × Label σ)} {own : σ}
  {clients : Fin n → Reaction σ α} {s : SessionId}

/-! ## Tallies -/

lemma tally_snoc (i j : Fin n) (p : Label σ → Bool) (l : List (Fin n × Label σ)) (e : Label σ) :
    tally i p (l ++ [(j, e)]) = tally i p l + if j = i ∧ p e = true then 1 else 0 := by
  by_cases hj : j = i
  · simp [tally, hj, List.countP_cons]
  · simp [tally, hj]

lemma orderly_snoc {grants : Label σ → Bool} {past : List (Fin n × Label σ)} {i : Fin n}
    {e : Label σ} : Orderly s grants past (l ++ [(i, e)]) ↔
      Orderly s grants past l ∧ (e.isCloseCall s = true → Entitled s grants (past ++ l) i) := by
  induction l generalizing past with
  | nil => simp [Orderly]
  | cons x l ih => simp [Orderly, ih, and_assoc]

lemma Orderly.of_append {grants : Label σ → Bool} {past : List (Fin n × Label σ)}
    (h : Orderly s grants past (l ++ l')) : Orderly s grants past l := by
  induction l' using List.reverseRecOn with
  | nil => simpa using h
  | append_singleton l' x ih =>
    obtain ⟨j, e⟩ := x
    rw [← List.append_assoc] at h
    exact ih (orderly_snoc.mp h).1

/-- In an orderly run, the closes that a client began are at most the references that it got and the
closes that were refused. -/
lemma Orderly.le {grants : Label σ → Bool} (h : Orderly s grants [] l) (i : Fin n) :
    tally i (Label.isCloseCall s) l ≤ tally i grants l + tally i (Label.isCloseEnd s false) l := by
  induction l using List.reverseRecOn with
  | nil => exact Nat.le_refl _
  | append_singleton l x ih =>
    obtain ⟨j, e⟩ := x
    obtain ⟨before, entitled⟩ := orderly_snoc.mp h
    have least := ih before
    simp only [tally_snoc]
    by_cases close : j = i ∧ e.isCloseCall s = true
    · obtain ⟨rfl, close⟩ := close
      have more : tally j (Label.isCloseCall s) l <
          tally j grants l + tally j (Label.isCloseEnd s false) l := entitled close
      simp only [close, and_self, if_true]
      omega
    · rw [if_neg close]
      omega

/-- A close that a client began has ended or is in progress. -/
lemma Runs.tally_isCloseCall (run : Runs B (start own clients) l P) (s : SessionId) (i : Fin n) :
    tally i (Label.isCloseCall s) l =
      tally i (Label.isCloseEnd s true) l + tally i (Label.isCloseEnd s false) l +
        (P.parties i).frames.countP fun f => f.owner.any (Call.isClose s) := by
  induction run with
  | refl => rfl
  | @tail Q R l e run step ih =>
    obtain ⟨j, e⟩ := e
    obtain ⟨old, new, rest, hold, hnew, others, turn⟩ := run.turn step
    simp only [tally_snoc]
    by_cases hj : j = i
    · subst hj
      rw [hold, List.countP_append] at ih
      rw [hnew, List.countP_append, ih]
      generalize R.world = w at turn
      cases turn with
      | act _ _ => simp [Label.isCloseCall, Label.isCloseEnd]
      | @call _ _ _ c _ =>
        simp [Label.isCloseCall, Label.isCloseEnd, List.countP_cons]
        omega
      | @«return» _ _ w₁ _ d c x _ _ =>
        have ends := Label.isCloseEnd_add s c w₁ x d
        simp [Label.isCloseCall, List.countP_cons]
        omega
    · rw [others i (Ne.symm hj)]
      simpa [hj] using ih

/-! ## Balances -/

/-- A sum over a run is the sum of the sums over the steps of each client. -/
lemma sum_filter (g : Fin n × Label σ → Int) (l : List (Fin n × Label σ)) :
    ∑ i, ((l.filter fun e => e.1 = i).map g).sum = (l.map g).sum := by
  induction l with
  | nil => simp
  | cons e l ih =>
    have one (i : Fin n) : (((e :: l).filter fun e => e.1 = i).map g).sum =
        (if e.1 = i then g e else 0) + ((l.filter fun e => e.1 = i).map g).sum := by
      by_cases h : e.1 = i <;> simp [h]
    simp only [one, Finset.sum_add_distrib, ih, List.map_cons, List.sum_cons]
    simp

/-- The open count is what the clients have added to it. -/
theorem Runs.sum_balance (run : Runs B (start own clients) l P) (s : SessionId) :
    ∑ i, P.balance s l i = (P.world.count s).toNat := by
  have count := (run.sound s).count
  simp only [ledger, Multiset.map_map] at count
  rw [count, ← sum_filter, sum_map_frames, ← Finset.sum_add_distrib]
  rfl

/-- What programs of a client in progress have done to the open count. -/
lemma Runs.gain_of_progress (run : Runs B (start own clients) l P) {i : Fin n} {f : Frame σ}
    (hf : f ∈ (P.parties i).frames) (found : f.owner.any (Call.isClose s) = true →
      found s f.past ≠ some 0) :
    (Standing.of s f.past).gain =
      (if f.hasOpened s = true then 1 else 0) - if f.hasClosed s = true then 1 else 0 := by
  have sane := run.stage_ne_astray hf s
  have follows := (run.lawful i).exists_follows hf
  by_cases stored : f.past.any (Deed.isStore s) = true
  · obtain ⟨o, w₀, d, p⟩ := f
    obtain ⟨q, follows⟩ := follows
    by_cases counts : ∃ c, o = some c ∧ c.Counts s
    · obtain ⟨c, rfl, rfl | rfl⟩ := counts
      · have gain := Session.openDevice_gain follows stored
        simp at stored
        simp [Frame.hasOpened, Frame.hasClosed, Call.isOpen, Call.isClose, stored, gain]
      · obtain ⟨m, hm, gain⟩ := Session.closeDevice_gain follows stored sane
        have some : m ≠ 0 := by
          rintro rfl
          exact found (by simp [Call.isClose]) hm
        simp at stored
        simp [Frame.hasOpened, Frame.hasClosed, Call.isOpen, Call.isClose, stored, gain some]
    · obtain ⟨x, hx, store⟩ := List.any_eq_true.mp stored
      have idle := Call.not_isStore_of_allows (run.asked hf x hx) fun c ho hc => counts ⟨c, ho, hc⟩
      rw [idle.1] at store
      cases store
  · have none : ∀ x ∈ f.past, x.isStore s = false := by simpa using stored
    obtain ⟨gain, -⟩ := Standing.of_append_same none []
    simp only [Frame.hasOpened, Frame.hasClosed, stored, Bool.and_false]
    exact gain

/-- No close in progress has found a count of zero. -/
def Unspurious (P : Pool n σ α) (s : SessionId) : Prop :=
  ∀ i, ∀ f ∈ (P.parties i).frames, f.owner.any (Call.isClose s) = true → found s f.past ≠ some 0

/-- What a client has added to the open count, by kinds of steps and of programs. -/
lemma Runs.balance_eq (run : Runs B (start own clients) l P) (real : P.Unspurious s) (i : Fin n) :
    P.balance s l i = tally i (Label.isOpened s) l - tally i (Label.isClosed s (0 < ·.toNat)) l +
      (P.parties i).frames.countP (Frame.hasOpened s) -
      (P.parties i).frames.countP (Frame.hasClosed s) := by
  have ended := run.sum_gain (s := s) (k := l.filter fun e => e.1 = i) fun e he =>
    List.mem_of_mem_filter he
  have going := sum_eq_countP_sub (l := (P.parties i).frames)
    (f := fun f => (Standing.of s f.past).gain) fun f hf => run.gain_of_progress hf (real i f hf)
  rw [balance, ended, going, tally, tally]
  omega

/-- The elements of a kind are those of another kind as well, and those not. -/
lemma countP_and_add_countP_and_not {κ : Type} (p q : κ → Bool) (l : List κ) :
    l.countP (fun x => p x && q x) + l.countP (fun x => p x && !q x) = l.countP p := by
  induction l with
  | nil => rfl
  | cons x l ih =>
    simp only [List.countP_cons]
    cases p x <;> cases q x <;> simp <;> omega

/-- In an orderly run, a client has added to the open count at least the closes in progress that
have not lowered it yet. -/
lemma Runs.le_balance (run : Runs B (start own clients) l P)
    (orderly : Orderly s (Label.isOpened s) [] l) (real : P.Unspurious s) (i : Fin n) :
    (P.parties i).frames.countP (Frame.isClosing s) ≤ P.balance s l i := by
  -- The closes that were not refused are at most the references that the client got, and those
  -- among them that are still to lower the count have taken nothing off.
  have calls := run.tally_isCloseCall s i
  have entitled := orderly.le i
  have took : tally i (Label.isClosed s (0 < ·.toNat)) l ≤ tally i (Label.isCloseEnd s true) l :=
    List.countP_mono_left fun e _ he => Label.isCloseEnd_of_isClosed he
  have going : (P.parties i).frames.countP (Frame.hasClosed s) +
      (P.parties i).frames.countP (Frame.isClosing s) = _ :=
    countP_and_add_countP_and_not _ _ (P.parties i).frames
  rw [run.balance_eq real]
  omega

/-- In an orderly run, there are references while a close has not lowered the open count. -/
lemma Runs.count_pos (run : Runs B (start own clients) l P)
    (orderly : Orderly s (Label.isOpened s) [] l) (real : P.Unspurious s) {i : Fin n} {f : Frame σ}
    (hf : f ∈ (P.parties i).frames) (closing : f.isClosing s = true) :
    0 < (P.world.count s).toNat := by
  have least := run.le_balance orderly real
  have one : 0 < (P.parties i).frames.countP (Frame.isClosing s) :=
    List.countP_pos_iff.mpr ⟨f, hf, closing⟩
  have part : P.balance s l i ≤ ∑ j, P.balance s l j :=
    Finset.single_le_sum (fun j _ => (Int.natCast_nonneg _).trans (least j)) (Finset.mem_univ i)
  rw [run.sum_balance] at part
  have := least i
  omega

/-- In an orderly run, a close that looks at the open count first finds a reference. -/
lemma Runs.found_of_look (run : Runs B (start own clients) l P)
    (orderly : Orderly s (Label.isOpened s) [] l) (real : P.Unspurious s) {i : Fin n} {f : Frame σ}
    (hf : f ∈ (P.parties i).frames) (close : f.owner.any (Call.isClose s) = true)
    (unseen : found s f.past = none) : P.world.count s ≠ 0 := by
  have closing : f.isClosing s = true := by
    by_contra h
    have stored : f.past.any (Deed.isStore s) = true := by
      simpa only [Frame.isClosing, close, Bool.true_and, Bool.not_eq_true', Bool.not_eq_false]
        using h
    have sane := run.stage_ne_astray hf s
    obtain ⟨o, w₀, d, p⟩ := f
    obtain ⟨q, follows⟩ := (run.lawful i).exists_follows hf
    obtain ⟨c, rfl, hc⟩ := (Option.any_eq_true _ _).mp close
    obtain rfl := Call.eq_of_isClose hc
    obtain ⟨m, seen, -⟩ := Session.closeDevice_gain follows stored sane
    rw [unseen] at seen
    cases seen
  have pos := run.count_pos orderly real hf closing
  intro none
  rw [none] at pos
  exact absurd pos (Nat.lt_irrefl 0)

/-- In an orderly run, no close finds a count of zero. -/
theorem Runs.unspurious (run : Runs B (start own clients) l P)
    (orderly : Orderly s (Label.isOpened s) [] l) : P.Unspurious s := by
  induction run with
  | refl =>
    intro i f hf
    obtain rfl := List.mem_singleton.mp hf
    exact nofun
  | @tail Q R l e run step ih =>
    obtain ⟨j, e⟩ := e
    obtain ⟨earlier, -⟩ := orderly_snoc.mp orderly
    have real := ih earlier
    obtain ⟨old, new, rest, hold, hnew, others, turn⟩ := run.turn step
    intro i f hf
    by_cases hi : i = j
    · subst hi
      have mine := real i
      rw [hold, List.forall_mem_append] at mine
      rw [hnew] at hf
      rcases List.mem_append.mp hf with hf | hf
      · intro close zero
        generalize hw : R.world = w at turn
        cases turn with
        | @act o w₀ _ d a x _ ha =>
          obtain rfl := List.mem_singleton.mp hf
          have before := mine.1 _ (List.mem_singleton_self _) close
          rw [found_snoc] at zero
          cases seen : found s d with
          | some m =>
            rw [seen] at zero before
            exact before (by simpa using zero)
          | none =>
            -- This deed is the first look of the close, and the count it sees includes its own
            -- reference.
            rw [seen, Option.none_or] at zero
            have some := run.found_of_look earlier real (i := i) (f := ⟨o, w₀, d, none⟩)
              (by simp [hold]) close seen
            cases Deed.eq_of_found? zero
            exact some ha.of_count.1.symm
        | @call o w₀ d c _ =>
          rcases List.mem_pair.mp hf with rfl | rfl
          · cases zero
          · exact mine.1 _ (List.mem_singleton_self _) close zero
        | @«return» o w₀ w₁ d deeds c x _ _ =>
          obtain rfl := List.mem_singleton.mp hf
          refine mine.1 _ (List.mem_cons_of_mem _ (List.mem_singleton_self _)) close ?_
          rw [found_snoc] at zero
          simpa using zero
      · exact mine.2 f hf
    · rw [others i hi] at hf
      exact real i f hf

/-- In an orderly run, every close that ends with success took a reference. -/
lemma Runs.isClosed_of_isCloseEnd (run : Runs B (start own clients) l P)
    (orderly : Orderly s (Label.isOpened s) [] l) {e : Fin n × Label σ} (he : e ∈ l)
    (success : e.2.isCloseEnd s true = true) : e.2.isClosed s (0 < ·.toNat) = true := by
  obtain ⟨_, _, R, S, rfl, before, step, -⟩ := run.exists_step he
  obtain ⟨i, e⟩ := e
  change e.isCloseEnd s true = true at success
  unfold Label.isCloseEnd at success
  split at success
  · next u w r d =>
    simp only [Bool.and_eq_true, beq_iff_eq] at success
    obtain ⟨rfl, ok⟩ := success
    obtain ⟨frame, -⟩ := before.frame_of_return step
    have some := before.unspurious orderly.of_append i _ frame (by simp [Call.isClose])
    obtain ⟨p, d', rfl, record, -⟩ := run.exists_closeRecord he
    obtain ⟨-, seen, -⟩ := record.facts
    rw [← record.isOk_eq, ok] at seen
    obtain ⟨m, hm⟩ := Option.isSome_iff_exists.mp seen
    have pos : 0 < m.toNat := by
      rw [found_cons_profile, hm] at some
      exact Nat.pos_of_ne_zero fun none => some (congrArg _ (UInt8.toNat_inj.mp none))
    simp [Label.isClosed, ok, hm, pos]
  · cases success

/-- What a client has added to the open count is its references and its opens in progress that have
raised the count. -/
lemma Runs.held_eq (run : Runs B (start own clients) l P)
    (orderly : Orderly s (Label.isOpened s) [] l) (i : Fin n) :
    P.held s l i = P.balance s l i - (P.parties i).frames.countP (Frame.hasOpened s) := by
  have same : tally i (Label.isClosed s (0 < ·.toNat)) l = tally i (Label.isCloseEnd s true) l := by
    refine List.countP_congr fun e he => ⟨fun h => ?_, fun h => ?_⟩
    · exact Label.isCloseEnd_of_isClosed h
    · exact run.isClosed_of_isCloseEnd orderly (List.mem_of_mem_filter he) h
  rw [run.balance_eq (run.unspurious orderly), held, same]
  omega

/-- In an orderly run, no client has closed more references than it got. -/
lemma Runs.held_nonneg (run : Runs B (start own clients) l P)
    (orderly : Orderly s (Label.isOpened s) [] l) (i : Fin n) : 0 ≤ P.held s l i := by
  have calls := run.tally_isCloseCall s i
  have entitled := orderly.le i
  have going : (P.parties i).frames.countP (Frame.hasClosed s) +
      (P.parties i).frames.countP (Frame.isClosing s) = _ :=
    countP_and_add_countP_and_not _ _ (P.parties i).frames
  unfold held
  omega

/-! ## Nobody's reference is closed by somebody else -/

/-- Where failures to set up the hardware are reported, every open that succeeds counts. -/
lemma Runs.isOpened_of_report (run : Runs B (start own clients) l P)
    (report : (P.world.profile s).config.setupFailure = .report) {e : Fin n × Label σ}
    (he : e ∈ l) : e.2.isOpened s = e.2.isGranted s := by
  obtain ⟨i, e⟩ := e
  change e.isOpened s = e.isGranted s
  rw [Bool.eq_iff_iff]
  constructor
  · intro h
    unfold Label.isOpened at h
    split at h
    · simp only [Bool.and_eq_true] at h
      simp [Label.isGranted, h.1.1, h.1.2]
    · cases h
  · intro h
    unfold Label.isGranted at h
    split at h
    · next u w r d =>
      simp only [Bool.and_eq_true, beq_iff_eq] at h
      obtain ⟨rfl, ok⟩ := h
      obtain ⟨d', rfl, record, -⟩ := run.exists_openRecord he
      have done := record.not_isFailedSetup report ok
      simp only [Label.isOpened, List.any_cons, done]
      simp [ok]
    · cases h

/-- Nobody's reference is closed by somebody else.  Let each client close only references that an
open of its own gave it, where an open gives a reference if it succeeded and did not conceal a
failure to set up the hardware.  When a close puts the hardware to rest, no client has a reference.
The open count is always the number of references, with those of opens in progress; and where a
client has a reference, the last attempt to set up the hardware succeeded, and the hardware was not
put to rest since.  Where failures are reported, an open gives a reference exactly if it
succeeds. -/
theorem Runs.ownership (run : Runs B (start own clients) l P)
    (orderly : Orderly s (Label.isOpened s) [] l) :
    (∀ i c Q, Step B P (i, .called c) Q → c.isShutdown s = true → ∀ j, P.held s l j = 0) ∧
    (∀ j, 0 ≤ P.held s l j) ∧
    ((P.world.count s).toNat : Int) = ∑ j, P.held s l j +
      ∑ j, ((P.parties j).frames.countP (Frame.hasOpened s) : Int) ∧
    (∀ j, 0 < P.held s l j → live s l = true) ∧
    ((P.world.profile s).config.setupFailure = .report →
      ∀ e ∈ l, e.2.isOpened s = e.2.isGranted s) := by
  have held (j : Fin n) := run.held_eq orderly j
  have least (j : Fin n) := run.held_nonneg orderly j
  have count : ((P.world.count s).toNat : Int) = ∑ j, P.held s l j +
      ∑ j, ((P.parties j).frames.countP (Frame.hasOpened s) : Int) := by
    rw [← run.sum_balance, ← Finset.sum_add_distrib]
    refine Finset.sum_congr rfl fun j _ => ?_
    rw [held]
    omega
  have none_of_zero (zero : (P.world.count s).toNat = 0) (j : Fin n) : P.held s l j = 0 := by
    have opens : 0 ≤ ∑ j, ((P.parties j).frames.countP (Frame.hasOpened s) : Int) :=
      Finset.sum_nonneg fun j _ => Int.natCast_nonneg _
    have part : P.held s l j ≤ ∑ j, P.held s l j :=
      Finset.single_le_sum (fun j _ => least j) (Finset.mem_univ j)
    have := least j
    omega
  refine ⟨?_, least, count, ?_, fun report e he => run.isOpened_of_report report he⟩
  · intro i c Q step hc
    exact none_of_zero (congrArg UInt8.toNat (run.shutdown_called step hc).1)
  · intro j some
    refine (run.sound s).live_of_pos (Nat.pos_of_ne_zero fun zero => ?_)
    have none := none_of_zero zero j
    omega

/-- Two clients that open a device and close it. -/
def sharing : Fin 2 → Reaction Unit Unit
  | 0 => do
    let _ ← (Service.register ⟨"/dev/led", 0, 0, Config.default, none⟩).use
    let _ ← (Service.openDevice 0).use
    let _ ← (Service.closeDevice 0).use
    pure ()
  | 1 => do
    let _ ← (Service.openDevice 0).use
    let _ ← (Service.closeDevice 0).use
    pure ()

/-- The close that puts the hardware to rest for the second client comes when the first has no
reference any more. -/
theorem ownership_sharing :
    ∃ (l : List (Fin 2 × Label Unit)) (P Q : Pool 2 Unit Unit),
      Runs (.obedient (pure (.ok ()))) (start () sharing) l P ∧
        Orderly 0 (Label.isOpened 0) [] l ∧
        Step (.obedient (pure (.ok ()))) P
          (1, .called (.peer (.operate .driver 0 0 .shutdown ()))) Q ∧
        P.held 0 l 0 = 0 := by
  have h : ((start () sharing : Pool 2 Unit Unit).play (.obedient (pure (.ok ())))
      (.replicate 30 0 ++ .replicate 14 1 ++ .replicate 14 0 ++ .replicate 14 1)).isSome := rfl
  obtain ⟨l, P, Q, run, orderly, step⟩ :
      ∃ (l : List (Fin 2 × Label Unit)) (P Q : Pool 2 Unit Unit),
        Runs (.obedient (pure (.ok ()))) (start () sharing) l P ∧
          Orderly 0 (Label.isOpened 0) [] l ∧
          Step (.obedient (pure (.ok ()))) P
            (1, .called (.peer (.operate .driver 0 0 .shutdown ()))) Q :=
    ⟨_, _, _, runs_of_isSome h, of_decide_eq_true rfl, .party (step_of_step? rfl)⟩
  obtain ⟨free, -⟩ := run.ownership orderly
  exact ⟨l, P, Q, run, orderly, step, free _ _ _ step rfl 0⟩

/-- Hardware that cannot be set up at the first attempt. -/
def reluctant : Board Bool := .obedient do
  let tried ← Reaction.own fun _ => true
  if tried then pure (.ok ()) else pure (.error .io)

/-- Two clients that open a device; the first closes it again. -/
def trusting : Fin 2 → Reaction Bool Unit
  | 0 => do
    let _ ← (Service.register ⟨"/dev/led", 0, 0, Config.default, none⟩).use
    let _ ← (Service.openDevice 0).use
    let _ ← (Service.closeDevice 0).use
    pure ()
  | 1 => do
    let _ ← (Service.openDevice 0).use
    pure ()

set_option maxRecDepth 2000 in
/-- If every open that succeeds gave a reference, somebody's reference could be closed by somebody
else.  The first open conceals that the hardware could not be set up, the second client's open sets
it up, and the close of the first client puts it to rest, although it has an open to close, and
although the second client has a reference. -/
theorem concealed_open_closes_another :
    ∃ (l : List (Fin 2 × Label Bool)) (P Q : Pool 2 Bool Unit),
      Runs reluctant (start false trusting) l P ∧ Orderly 0 (Label.isGranted 0) [] l ∧
        Step reluctant P (0, .called (.peer (.operate .driver 0 0 .shutdown ()))) Q ∧
        tally 1 (Label.isGranted 0) l = 1 ∧ tally 1 (Label.isCloseCall 0) l = 0 := by
  have h : ((start false trusting : Pool 2 Bool Unit).play reluctant
      (.replicate 32 0 ++ .replicate 21 1 ++ .replicate 14 0)).isSome := rfl
  exact ⟨_, _, _, runs_of_isSome h, of_decide_eq_true rfl, .party (step_of_step? rfl), rfl, rfl⟩

end Pool

end LedDriver
