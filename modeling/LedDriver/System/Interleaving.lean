import LedDriver.System.Execution

/-!
# Interleaving

The meaning of programs when many parties run at once.  A party carries out a program of its own
and, inside it, the programs of the calls that it makes: when a call begins, the program that makes
it is set aside, and when the call ends, that program goes on with the answer.  In one step a party
performs one atom, begins a call or ends one.  An exchange on a semaphore may fail although the
counter has the value expected.  A party with something in its way has no step.

Each program in progress keeps a record of its own deeds: the atoms that it performed and the
answers that it received.  The end of a call tells that record, so that a run can be examined call
by call, also while some of its calls are not ended.

A `Pool` is a world with any number of parties, and `Pool.Runs` are its runs under all schedules.
Each step of a run is labelled with what was done.
-/

namespace LedDriver

/-- What a program has done itself: an atom with its answer, or a call with the answer received. -/
inductive Deed (σ : Type) where
  | acted (a : Atom σ) (answer : a.Answer)
  | received (c : Call) (answer : c.Answer)

/-- What is done in one step.  The end of a call tells the world in which the call began, its answer
and the deeds of its program. -/
inductive Label (σ : Type) where
  | acted (a : Atom σ) (answer : a.Answer)
  | called (c : Call)
  | returned (c : Call) (before : World σ) (answer : c.Answer) (deeds : List (Deed σ))

/-- What a program ends with: the answer of the call that it belongs to, or the result of its party
if it belongs to none. -/
@[reducible]
def Result (α : Type) : Option Call → Type
  | none => α
  | some c => c.Answer

/-- The programs that are set aside below the program of a call, from the innermost outwards.  Each
has the call it belongs to, the world in which it began, its deeds, and how it goes on. -/
inductive Callers (σ α : Type) : Option Call → Type where
  | none : Callers σ α none
  | call (c : Call) {o : Option Call} (before : World σ) (past : List (Deed σ))
      (next : c.Answer → Action σ (Result α o)) (outer : Callers σ α o) : Callers σ α (some c)

/-- A party: the program it is carrying out, with the call that this belongs to, the world in which
it began, its deeds and what is left of it, and the programs set aside. -/
structure Party (σ α : Type) where
  owner : Option Call
  before : World σ
  past : List (Deed σ)
  rest : Action σ (Result α owner)
  callers : Callers σ α owner

/-- A program in progress, without what is left of it: the call it belongs to, the world in which it
began, its deeds, and the call that it waits for, if it waits for one. -/
structure Frame (σ : Type) where
  owner : Option Call
  before : World σ
  past : List (Deed σ)
  pending : Option Call

variable {σ α : Type}

/-- The programs that are set aside. -/
def Callers.frames : {o : Option Call} → Callers σ α o → List (Frame σ)
  | _, none => []
  | _, @call _ _ c o before past _ outer => ⟨o, before, past, some c⟩ :: outer.frames

/-- The programs of a party that are in progress, from the innermost outwards. -/
def Party.frames (p : Party σ α) : List (Frame σ) :=
  ⟨p.owner, p.before, p.past, none⟩ :: p.callers.frames

/-- A party that has done nothing yet. -/
def Party.start (w : World σ) (p : Action σ α) : Party σ α := ⟨none, w, [], p, .none⟩

/-- An atom is performed: it takes effect, or it is an exchange that fails for no reason. -/
inductive Atom.Performs (w : World σ) : (a : Atom σ) → a.Answer → World σ → Prop
  | effect {a : Atom σ} {x : a.Answer} {w' : World σ} (h : a.apply w = .ok (x, w')) :
      Performs w a x w'
  | spurious (g : SemaphoreId) (seen : UInt32) :
      Performs w (.exchange g seen) (.error (w.semaphore g).permits) w

/-- One step of one party. -/
inductive Board.Step (B : Board σ) : World σ → Party σ α → Label σ → World σ → Party σ α → Prop
  /-- An atom is performed. -/
  | act {w w' w₀ : World σ} {o : Option Call} {past : List (Deed σ)} {a : Atom σ} {x : a.Answer}
      {next : a.Answer → Action σ (Result α o)} {callers : Callers σ α o}
      (h : a.Performs w x w') :
      B.Step w ⟨o, w₀, past, .ask (.atom a) next, callers⟩ (.acted a x)
        w' ⟨o, w₀, past ++ [.acted a x], next x, callers⟩
  /-- A call begins. -/
  | call (w w₀ : World σ) {o : Option Call} (past : List (Deed σ)) (c : Call)
      (next : c.Answer → Action σ (Result α o)) (callers : Callers σ α o) :
      B.Step w ⟨o, w₀, past, .ask (.call c) next, callers⟩ (.called c)
        w ⟨some c, w, [], B.program c, .call c w₀ past next callers⟩
  /-- A call ends. -/
  | return (w w₀ w₁ : World σ) {o : Option Call} (past deeds : List (Deed σ)) (c : Call)
      (x : c.Answer) (next : c.Answer → Action σ (Result α o)) (callers : Callers σ α o) :
      B.Step w ⟨some c, w₁, deeds, .done x, .call c w₀ past next callers⟩
        (.returned c w₁ x deeds)
        w ⟨o, w₀, past ++ [.received c x], next x, callers⟩

/-- A world and a number of parties. -/
structure Pool (n : Nat) (σ α : Type) where
  world : World σ
  parties : Fin n → Party σ α

namespace Pool

variable {n : Nat}

/-- The pool of a number of clients before anything happened. -/
def start (own : σ) (clients : Fin n → Reaction σ α) : Pool n σ α where
  world := World.initial own
  parties i := Party.start (World.initial own) (clients i).action

/-- One step of a pool: one of its parties makes a step. -/
inductive Step (B : Board σ) : Pool n σ α → Fin n × Label σ → Pool n σ α → Prop
  | party {P : Pool n σ α} {i : Fin n} {l : Label σ} {w : World σ} {p : Party σ α}
      (h : B.Step P.world (P.parties i) l w p) :
      Step B P (i, l) ⟨w, update P.parties i p⟩

/-- A run of a pool with the labels of its steps in order. -/
inductive Runs (B : Board σ) : Pool n σ α → List (Fin n × Label σ) → Pool n σ α → Prop
  | refl (P : Pool n σ α) : Runs B P [] P
  | tail {P Q R : Pool n σ α} {l : List (Fin n × Label σ)} {x : Fin n × Label σ}
      (run : Runs B P l Q) (step : Step B Q x R) : Runs B P (l ++ [x]) R

end Pool

/-! ## Carrying out steps -/

/-- How the end of a program hands its result over: the label of the end of its call, and its
caller, which goes on.  A program that belongs to no call hands nothing over. -/
def Callers.resume? (w : World σ) (deeds : List (Deed σ)) :
    {o : Option Call} → Callers σ α o → Result α o → Option (Label σ × Party σ α)
  | _, none, _ => .none
  | _, @call _ _ c o w₀ past next outer, x =>
    some (.returned c w x deeds, ⟨o, w₀, past ++ [.received c x], next x, outer⟩)

/-- The step of a party, if nothing is in its way: what is done, and the world and the party it
leaves. -/
def Board.step? (B : Board σ) (w : World σ) (p : Party σ α) :
    Option (Label σ × World σ × Party σ α) :=
  match p.rest with
  | .ask (.atom a) next =>
    match a.apply w with
    | .ok (x, w') =>
      some (.acted a x, w', { p with past := p.past ++ [.acted a x], rest := next x })
    | .error _ => none
  | .ask (.call c) next =>
    some (.called c, w, ⟨some c, w, [], B.program c, .call c p.before p.past next p.callers⟩)
  | .done x => (p.callers.resume? p.before p.past x).map fun r => (r.1, w, r.2)

namespace Pool

variable {n : Nat}

/-- The run of a pool under a schedule, which names the party that makes each step. -/
def play (B : Board σ) : List (Fin n) → Pool n σ α → Option (List (Fin n × Label σ) × Pool n σ α)
  | [], P => some ([], P)
  | i :: schedule, P =>
    match B.step? P.world (P.parties i) with
    | none => none
    | some (l, w, p) =>
      match play B schedule ⟨w, update P.parties i p⟩ with
      | none => none
      | some (rest, Q) => some ((i, l) :: rest, Q)

end Pool

end LedDriver
