import LedDriver.System.Routine.Registration

/-!
# Execution

The meaning of programs when one party runs alone.  `Board.perform` carries out a call, and
`Board.run` a program of calls and atoms, up to a given depth of nested calls.  A run comes to a
halt without a result if its calls nest more deeply, or if something stands in its way, since nobody
is there to remove it.

The outcome of a run tells which calls were made.  A `CallTree` is one call with the worlds before
and after it and with the calls made inside it, so that a run can be examined at the beginning and
the end of every call, at every level of nesting.
-/

namespace LedDriver

/-- A call that was carried out: its answer, the worlds around it, and the calls made inside it in
the order in which they were made. -/
inductive CallTree (σ : Type) : Type where
  | node (c : Call) (before : World σ) (answer : c.Answer) (after : World σ)
      (inner : List (CallTree σ))

/-- Why a run has no result. -/
inductive Halt where
  /-- The calls nest more deeply than the depth allowed. -/
  | tooDeep
  /-- Something stands in the way of an atom. -/
  | stuck (o : Obstacle)
deriving DecidableEq

/-- What a run leads to: a result, the world it leaves, and the calls made. -/
structure Outcome (σ α : Type) where
  result : α
  world : World σ
  calls : List (CallTree σ)

/-- A run of one party: it starts in a world and has an outcome unless it comes to a halt. -/
def Run (σ α : Type) := World σ → Except Halt (Outcome σ α)

variable {σ : Type} {α β γ : Type}

namespace Run

/-- The run that does nothing. -/
def pure (a : α) : Run σ α := fun w => .ok ⟨a, w, []⟩

/-- One run and then another. -/
def bind (m : Run σ α) (f : α → Run σ β) : Run σ β := fun w =>
  match m w with
  | .error e => .error e
  | .ok x =>
    match f x.result x.world with
    | .error e => .error e
    | .ok y => .ok ⟨y.result, y.world, x.calls ++ y.calls⟩

instance : Monad (Run σ) where
  pure := pure
  bind := bind

theorem bind_assoc (m : Run σ α) (f : α → Run σ β) (g : β → Run σ γ) :
    (m.bind f).bind g = m.bind fun a => (f a).bind g := by
  funext w
  unfold bind
  cases hm : m w with
  | error e => rfl
  | ok x =>
    cases hf : f x.result x.world with
    | error e => simp [hf]
    | ok y =>
      simp only [hf]
      cases g y.result y.world with
      | error e => rfl
      | ok z => simp

theorem pure_bind (a : α) (f : α → Run σ β) : (pure a).bind f = f a := by
  funext w
  simp only [bind, pure, List.nil_append]
  cases f a w <;> rfl

theorem bind_pure (m : Run σ α) : m.bind pure = m := by
  funext w
  unfold bind
  cases hm : m w with
  | error e => rfl
  | ok x => simp [pure]

instance : LawfulMonad (Run σ) := LawfulMonad.mk' (Run σ) bind_pure pure_bind bind_assoc

end Run

/-- The program of a call on a board. -/
def Board.program (B : Board σ) : (c : Call) → Action σ c.Answer
  | .service c => c.action
  | .routine c => c.action
  | .peer c => (B.reaction c).action

/-- An atom as a run. -/
def Atom.run (a : Atom σ) : Run σ a.Answer := fun w =>
  match a.apply w with
  | .ok r => .ok ⟨r.1, r.2, []⟩
  | .error o => .error (.stuck o)

/-- A request as a run, given the meaning of calls. -/
def Request.run (call : (c : Call) → Run σ c.Answer) :
    (q : Request σ) → Run σ ((Request.interface σ).Answer q)
  | .atom a => a.run
  | .call c => call c

/-- A run as the inside of a call. -/
def Run.asCall (c : Call) (m : Run σ c.Answer) : Run σ c.Answer := fun w =>
  match m w with
  | .error e => .error e
  | .ok x => .ok ⟨x.result, x.world, [.node c w x.result x.world x.calls]⟩

namespace Board

/-- Carries out a call whose calls nest at most to a given depth. -/
def perform (B : Board σ) : Nat → (c : Call) → Run σ c.Answer
  | 0, _ => fun _ => .error .tooDeep
  | depth + 1, c => ((B.program c).interpret (Request.run (B.perform depth))).asCall c

/-- Carries out a program whose calls nest at most to a given depth. -/
def run (B : Board σ) (depth : Nat) (p : Action σ α) : Run σ α :=
  p.interpret (Request.run (B.perform depth))

/-! ## Laws of runs -/

@[simp] theorem run_done (B : Board σ) (depth : Nat) (a : α) (w : World σ) :
    B.run depth (.done a) w = .ok ⟨a, w, []⟩ := rfl

theorem run_ask (B : Board σ) (depth : Nat) (q : Request σ)
    (next : (Request.interface σ).Answer q → Action σ α) :
    B.run depth (.ask q next)
      = (Request.run (B.perform depth) q).bind fun x => B.run depth (next x) := rfl

theorem run_bind (B : Board σ) (depth : Nat) (p : Action σ α) (f : α → Action σ β) :
    B.run depth (p.bind f) = (B.run depth p).bind fun a => B.run depth (f a) :=
  Program.interpret_bind _ p f

end Board

end LedDriver
