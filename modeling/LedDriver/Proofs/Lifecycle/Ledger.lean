import Mathlib.Algebra.Order.BigOperators.Group.Multiset
import LedDriver.Proofs.Lifecycle.Stage

/-!
# The ledger of a session

What a session has to account for: its open count, the permit of its guard, whether its hardware is
set up, what the calls that ended have done to the count, and the programs in progress, each reduced
to a `View`.

A ledger is `Sound` if the permit is either free or with one program, if the count and the hardware
are as this program left them, and if the books balance: the count is the sum of all changes, and
every setting up of the hardware but the last is matched by a close that took the count from one to
zero.  A ledger stays sound when one view is replaced by another that balances (`Sound.replace`,
`Sound.replaceHolding`), when a program begins or ends (`Sound.begin`, `Sound.finish`), and when the
permit is handed from a call to its caller (`Sound.handOver`).
-/

namespace LedDriver

/-- What a program in progress means for a ledger: how far it is, whether it waits for the hardware
to be put to rest, its changes to the open count, and how often it took the count from one to
zero. -/
structure View where
  stage : Stage
  closing : Bool
  gain : Int
  ended : Int

namespace View

/-- The program has the permit. -/
def Holds (v : View) : Prop := v.stage ≠ .away

instance (v : View) : Decidable v.Holds := inferInstanceAs (Decidable (_ ≠ _))

/-- The program has set up the hardware for a reference that is not counted yet. -/
def IsReady (v : View) : Prop := v.stage = .ready

instance (v : View) : Decidable v.IsReady := inferInstanceAs (Decidable (_ = _))

/-- The open count and the hardware are as the program has left them. -/
def Fits (v : View) (count : UInt8) (live : Bool) : Prop :=
  match v.stage with
  | .away => True
  | .entered | .settled => 0 < count.toNat ↔ live = true
  | .found n => count = n ∧ (0 < count.toNat ↔ live = true)
  | .ready => count = 0 ∧ live = true
  | .cleared => count = 0 ∧ (v.closing = true → live = false)
  | .astray => False

end View

/-- What a session has to account for. -/
structure Ledger where
  /-- The open count. -/
  count : UInt8
  /-- The permits of the guard. -/
  permits : UInt32
  /-- The last setting up of the hardware succeeded, and the hardware was not put to rest since. -/
  live : Bool
  /-- What the calls that ended have done to the open count. -/
  gain : Int
  /-- How often calls that ended took the open count from one to zero. -/
  ended : Int
  /-- How often the hardware was set up. -/
  setUps : Int
  /-- The programs in progress. -/
  views : Multiset View

namespace Ledger

/-- One, if there are references. -/
def inUse (count : UInt8) : Int := if 0 < count.toNat then 1 else 0

/-- The permit is in one place, everything is as the program with the permit left it, and the books
balance. -/
structure Sound (L : Ledger) : Prop where
  permit : L.permits.toNat + L.views.countP View.Holds = 1
  fits : ∀ v ∈ L.views, v.Fits L.count L.live
  free : L.permits.toNat = 1 → (0 < L.count.toNat ↔ L.live = true)
  count : (L.count.toNat : Int) = L.gain + (L.views.map View.gain).sum
  cycles : L.setUps = L.ended + (L.views.map View.ended).sum + inUse L.count +
    L.views.countP View.IsReady

namespace Sound

variable {L L' : Ledger} {v v' : View} {rest : Multiset View}

/-- Where there are references, the hardware is set up. -/
lemma live_of_pos (h : L.Sound) (some : 0 < L.count.toNat) : L.live = true := by
  by_cases held : L.views.countP View.Holds = 0
  · have permit := h.permit
    exact (h.free (by omega)).mp some
  · obtain ⟨v, hv, holds⟩ := Multiset.countP_pos.mp (Nat.pos_of_ne_zero held)
    have fits := h.fits v hv
    unfold View.Fits at fits
    split at fits
    case h_1 away => exact absurd away holds
    case h_2 | h_3 => exact fits.mp some
    case h_4 => exact fits.2.mp some
    case h_5 => exact fits.2
    case h_6 => simp [fits.1] at some
    case h_7 => exact fits.elim

/-- If a program has the permit, no other program has it. -/
lemma others_away (h : L.Sound) (hv : L.views = v ::ₘ rest) (holds : v.Holds) :
    L.permits.toNat = 0 ∧ ∀ u ∈ rest, u.stage = .away := by
  have permit := h.permit
  rw [hv, Multiset.countP_cons_of_pos _ holds] at permit
  refine ⟨by omega, fun u hu => ?_⟩
  by_contra away
  have : 0 < rest.countP View.Holds := Multiset.countP_pos.mpr ⟨u, hu, away⟩
  omega

/-- One view is replaced by another that balances what changes in the ledger.  The count and the
hardware change only under the permit. -/
lemma replace (h : L.Sound) (hv : L.views = v ::ₘ rest) (hv' : L'.views = v' ::ₘ rest)
    (others : (L'.count = L.count ∧ L'.live = L.live) ∨ v.Holds)
    (permit : L'.permits.toNat + (if v'.Holds then 1 else 0) =
      L.permits.toNat + if v.Holds then 1 else 0)
    (fits : v'.Fits L'.count L'.live)
    (free : L'.permits.toNat = 1 → (0 < L'.count.toNat ↔ L'.live = true))
    (count : (L'.count.toNat : Int) - L'.gain - v'.gain = L.count.toNat - L.gain - v.gain)
    (cycles : L'.setUps - L'.ended - v'.ended - inUse L'.count - (if v'.IsReady then 1 else 0) =
      L.setUps - L.ended - v.ended - inUse L.count - if v.IsReady then 1 else 0) : L'.Sound where
  permit := by
    have old := h.permit
    rw [hv, Multiset.countP_cons] at old
    rw [hv', Multiset.countP_cons]
    omega
  fits u hu := by
    rw [hv', Multiset.mem_cons] at hu
    rcases hu with rfl | hu
    · exact fits
    · rcases others with ⟨hc, hl⟩ | holds
      · rw [hc, hl]
        exact h.fits u (hv ▸ Multiset.mem_cons_of_mem hu)
      · simp only [View.Fits, (h.others_away hv holds).2 u hu]
  free := free
  count := by
    have old := h.count
    rw [hv, Multiset.map_cons, Multiset.sum_cons] at old
    rw [hv', Multiset.map_cons, Multiset.sum_cons]
    omega
  cycles := by
    have old := h.cycles
    rw [hv, Multiset.map_cons, Multiset.sum_cons, Multiset.countP_cons] at old
    rw [hv', Multiset.map_cons, Multiset.sum_cons, Multiset.countP_cons]
    push_cast at old ⊢
    omega

/-- The program with the permit keeps it, and balances what it changes. -/
lemma replaceHolding (h : L.Sound) (hv : L.views = v ::ₘ rest) (hv' : L'.views = v' ::ₘ rest)
    (holds : v.Holds) (holds' : v'.Holds) (permits : L'.permits = L.permits)
    (fits : v'.Fits L'.count L'.live)
    (count : (L'.count.toNat : Int) - L'.gain - v'.gain = L.count.toNat - L.gain - v.gain)
    (cycles : L'.setUps - L'.ended - v'.ended - inUse L'.count - (if v'.IsReady then 1 else 0) =
      L.setUps - L.ended - v.ended - inUse L.count - if v.IsReady then 1 else 0) : L'.Sound := by
  have none : L'.permits.toNat = 0 := by
    rw [permits]
    exact (h.others_away hv holds).1
  refine h.replace hv hv' (.inr holds) ?_ fits (fun one => by omega) count cycles
  rw [if_pos holds, if_pos holds', permits]

/-- A program begins. -/
lemma begin (h : L.Sound) : { L with views := ⟨.away, false, 0, 0⟩ ::ₘ L.views }.Sound where
  permit := by simpa [View.Holds] using h.permit
  fits u hu := by
    rcases Multiset.mem_cons.mp hu with rfl | hu
    · trivial
    · exact h.fits u hu
  free := h.free
  count := by simpa using h.count
  cycles := by simpa [View.IsReady] using h.cycles

/-- A program without the permit ends. -/
lemma finish (h : L.Sound) (hv : L.views = v ::ₘ rest) (away : v.stage = .away) :
    { L with gain := L.gain + v.gain, ended := L.ended + v.ended, views := rest }.Sound where
  permit := by simpa [hv, View.Holds, away] using h.permit
  fits u hu := h.fits u (hv ▸ Multiset.mem_cons_of_mem hu)
  free := h.free
  count := by
    have old := h.count
    rw [hv, Multiset.map_cons, Multiset.sum_cons] at old
    simp only
    omega
  cycles := by
    have old := h.cycles
    rw [hv, Multiset.map_cons, Multiset.sum_cons,
      Multiset.countP_cons_of_neg _ (by simp [View.IsReady, away])] at old
    simp only
    omega

/-- A program that has just taken the permit hands it over to another and ends. -/
lemma handOver (h : L.Sound) {u : View} (hv : L.views = v ::ₘ u ::ₘ rest)
    (entered : v.stage = .entered) (away : u.stage = .away) :
    { L with
      gain := L.gain + v.gain
      ended := L.ended + v.ended
      views := { u with stage := .entered } ::ₘ rest }.Sound where
  permit := by
    have old := h.permit
    rw [hv, Multiset.countP_cons_of_pos _ (by simp [View.Holds, entered]),
      Multiset.countP_cons_of_neg _ (by simp [View.Holds, away])] at old
    rw [Multiset.countP_cons_of_pos _ (by simp [View.Holds])]
    exact old
  fits w hw := by
    rcases Multiset.mem_cons.mp hw with rfl | hw
    · simpa [View.Fits, entered] using h.fits v (by simp [hv])
    · exact h.fits w (by simp [hv, hw])
  free := h.free
  count := by
    have old := h.count
    rw [hv, Multiset.map_cons, Multiset.sum_cons, Multiset.map_cons, Multiset.sum_cons] at old
    rw [Multiset.map_cons, Multiset.sum_cons]
    dsimp only
    omega
  cycles := by
    have old := h.cycles
    rw [hv, Multiset.map_cons, Multiset.sum_cons, Multiset.map_cons, Multiset.sum_cons,
      Multiset.countP_cons_of_neg _ (by simp [View.IsReady, entered]),
      Multiset.countP_cons_of_neg _ (by simp [View.IsReady, away])] at old
    rw [Multiset.map_cons, Multiset.sum_cons,
      Multiset.countP_cons_of_neg _ (by simp [View.IsReady])]
    dsimp only
    omega

end Sound

end Ledger

end LedDriver
