import LedDriver.Proofs.Nesting.Mask

/-!
# Brackets

The word of the maskings of interrupts.  Each time a party masks interrupts it opens a bracket with
the state that it was told to restore, and each time it restores interrupts it closes one.  What a
party has opened and not closed is what its programs in progress mask, the innermost first
(`Runs.unclosed`), so that a bracket is always closed with the state with which it was opened, and
in turn.

While an open or a close sets up the hardware or puts it to rest, it is the only program of its
session that masks interrupts, and the guard of the session has no permit left
(`Runs.masked_of_called`).
-/

namespace LedDriver

variable {σ α : Type} {n : Nat}

/-- A section in which interrupts are masked: the platform, and the state to restore. -/
structure Section where
  platform : PlatformId
  saved : UInt64
deriving DecidableEq

/-- Interrupts are masked, or restored. -/
inductive Bracket where
  | opened (x : Section)
  | closed (x : Section)

/-- The section of a bracket. -/
def Bracket.section : Bracket → Section
  | opened x | closed x => x

/-- The word leaves these sections open, the last one first: each bracket that is closed was the
last one that was open. -/
inductive Unclosed : List Bracket → List Section → Prop
  | nil : Unclosed [] []
  | opened {word : List Bracket} {open' : List Section} (x : Section) (h : Unclosed word open') :
    Unclosed (word ++ [.opened x]) (x :: open')
  | closed {word : List Bracket} {open' : List Section} {x : Section}
    (h : Unclosed word (x :: open')) : Unclosed (word ++ [.closed x]) open'

/-- The brackets of one platform are nested among themselves. -/
lemma Unclosed.filter {word : List Bracket} {open' : List Section} (h : Unclosed word open')
    (p : PlatformId) : Unclosed (word.filter fun b => b.section.platform = p)
      (open'.filter fun x => x.platform = p) := by
  induction h with
  | nil => exact .nil
  | opened x _ ih =>
    by_cases hx : x.platform = p
    · simpa [Bracket.section, hx] using ih.opened x
    · simpa [Bracket.section, hx] using ih
  | @closed word open' x _ ih =>
    by_cases hx : x.platform = p
    · simp only [hx, decide_true, List.filter_cons_of_pos] at ih
      simpa [Bracket.section, hx] using ih.closed
    · simpa [Bracket.section, hx] using ih

/-- A bracket, or none, leads from some open sections to others. -/
def Bracket.Leads : Option Bracket → List Section → List Section → Prop
  | none, old, new => new = old
  | some (opened x), old, new => new = x :: old
  | some (closed x), old, new => old = x :: new

/-- What is open below stays open. -/
lemma Bracket.Leads.append {b : Option Bracket} {old new : List Section} (h : Leads b old new)
    (below : List Section) : Leads b (old ++ below) (new ++ below) := by
  cases b with
  | none => exact congrArg (· ++ below) h
  | some b => cases b <;> exact congrArg (· ++ below) h

/-- A word goes on with a bracket, or with none. -/
lemma Unclosed.append {word : List Bracket} {old new : List Section} (h : Unclosed word old)
    {b : Option Bracket} (hb : Bracket.Leads b old new) : Unclosed (word ++ b.toList) new := by
  cases b with
  | none =>
    obtain rfl : new = old := hb
    simpa using h
  | some b =>
    cases b with
    | opened x =>
      obtain rfl : new = x :: old := hb
      exact h.opened x
    | closed x =>
      obtain rfl : old = x :: new := hb
      exact h.closed

/-- The sections that a program behind a mask has open, if it waits for the answer to a call.  A
section is closed when the call that restores the interrupts begins. -/
def Mask.sections : Mask → Option Call → List Section
  | inside p saved, _ | worked p saved, none => [⟨p, saved⟩]
  | worked _ _, some _ | away, _ | holding, _ => []

/-- The sections that a program in progress has open. -/
def Frame.sections (f : Frame σ) : List Section := (Mask.of f.owner f.past).sections f.pending

/-- The bracket that a step opens or closes. -/
def Label.bracket? : Label σ → Option Bracket
  | .returned (.peer (.enter p)) _ saved _ => some (.opened ⟨p, saved⟩)
  | .called (.peer (.leave p saved)) => some (.closed ⟨p, saved⟩)
  | _ => none

namespace Mask

/-- A program without open sections opens one only by masking interrupts. -/
lemma sections_next {u : Option SessionId} {m : Mask} (hm : m = away ∨ m = holding) {x : Deed σ}
    (hx : ∀ p saved, x ≠ .received (.peer (.enter p)) saved) :
    (m.next u x).sections none = [] := by
  unfold next
  split
  case h_3 p saved => exact absurd rfl (hx p saved)
  all_goals
    try split
  all_goals
    rcases hm with rfl | rfl <;> rfl

/-- The beginning of a call closes a section if it restores interrupts. -/
lemma sections_called {m : Mask} {c : Call} (h : m.Allows (.call c : Request σ)) :
    Bracket.Leads (Label.called c : Label σ).bracket? (m.sections none) (m.sections (some c)) := by
  have idle (hm : m = away ∨ m = holding) : m.sections (some c) = m.sections none := by
    rcases hm with rfl | rfl <;> rfl
  cases c with
  | service c | routine c => exact idle h
  | peer c =>
    cases c with
    | leave p saved =>
      obtain rfl : m = worked p saved := h
      rfl
    | enter p => exact idle (.inr h)
    | operate k v s o args =>
      cases k with
      | client => exact idle h
      | driver =>
        cases o with
        | setup | shutdown =>
          obtain ⟨p, saved, rfl⟩ := h
          rfl
        | _ => exact idle h
    | provided | discard | checkWait | relax | log | publish => exact idle h

/-- The end of a call opens a section if it masks interrupts. -/
lemma sections_returned {u : Option SessionId} {m : Mask} {c : Call}
    (h : m.Allows (.call c : Request σ)) (before : World σ) (x : c.Answer) (d : List (Deed σ)) :
    Bracket.Leads (Label.returned c before x d).bracket? (m.sections (some c))
      ((m.next u (.received c x : Deed σ)).sections none) := by
  have idle (hm : m = away ∨ m = holding) (hc : ∀ p, c ≠ .peer (.enter p)) :
      (m.next u (.received c x : Deed σ)).sections none = m.sections (some c) := by
    have closed : (m.next u (.received c x : Deed σ)).sections none = [] := by
      refine sections_next hm fun p saved same => ?_
      cases same
      exact hc p rfl
    rw [closed]
    rcases hm with rfl | rfl <;> rfl
  cases c with
  | service c | routine c => exact idle h nofun
  | peer c =>
    cases c with
    | enter p =>
      obtain rfl : m = holding := h
      rfl
    | leave p saved =>
      obtain rfl : m = worked p saved := h
      rfl
    | operate k v s o args =>
      cases k with
      | client => exact idle h nofun
      | driver =>
        cases o with
        | setup | shutdown =>
          obtain ⟨p, saved, rfl⟩ := h
          rfl
        | _ => exact idle h nofun
    | provided | discard | checkWait | relax | log | publish => exact idle h nofun

end Mask

/-- A step opens or closes the section of its bracket, and no other. -/
lemma Board.Turn.sections {B : Board σ} {w w' : World σ} {e : Label σ} {old new : List (Frame σ)}
    (turn : B.Turn w e w' old new) :
    Bracket.Leads e.bracket? (old.flatMap Frame.sections) (new.flatMap Frame.sections) := by
  cases turn with
  | @act o w₀ w' d a x ask ha =>
    have idle : Mask.of o d = .away ∨ Mask.of o d = .holding := ask.mask_allows
    have before : (Mask.of o d).sections none = [] := by
      rcases idle with h | h <;> rw [h] <;> rfl
    have after := Mask.sections_next (u := o.bind Call.session?) (x := .acted a x) idle nofun
    simp [Label.bracket?, Bracket.Leads, Frame.sections, before, after]
  | @call o w₀ d c ask =>
    have step := Mask.sections_called ask.mask_allows
    simpa [Frame.sections, Mask.sections] using step
  | @«return» o w₀ w₁ d deeds c x ask complete =>
    have step := Mask.sections_returned (u := o.bind Call.session?) ask.mask_allows w₁ x deeds
    simpa [Frame.sections, B.mask_of_complete complete, Mask.sections] using step

namespace Pool

variable {B : Board σ} {P Q : Pool n σ α} {l : List (Fin n × Label σ)} {own : σ}
  {clients : Fin n → Reaction σ α} {s : SessionId}

/-- The brackets that a party opens and closes in a run. -/
def word (i : Fin n) (l : List (Fin n × Label σ)) : List Bracket :=
  l.filterMap fun e => if e.1 = i then e.2.bracket? else none

lemma word_snoc (i j : Fin n) (l : List (Fin n × Label σ)) (e : Label σ) :
    word i (l ++ [(j, e)]) = word i l ++ (if j = i then e.bracket? else none).toList := by
  unfold word
  rw [List.filterMap_append]
  cases h : (if j = i then e.bracket? else none) <;> simp [h]

/-- What a party has opened and not closed is what its programs in progress have open. -/
theorem Runs.unclosed (run : Runs B (start own clients) l P) (i : Fin n) :
    Unclosed (word i l) ((P.parties i).frames.flatMap Frame.sections) := by
  induction run with
  | refl => exact .nil
  | @tail Q R l e run step ih =>
    obtain ⟨j, e⟩ := e
    obtain ⟨old, new, rest, hold, hnew, others, turn⟩ := run.turn step
    rw [word_snoc]
    refine ih.append ?_
    by_cases hj : j = i
    · subst hj
      rw [if_pos rfl, hold, hnew, List.flatMap_append, List.flatMap_append]
      exact turn.sections.append _
    · rw [if_neg hj, others i (Ne.symm hj)]
      rfl

end Pool

end LedDriver
