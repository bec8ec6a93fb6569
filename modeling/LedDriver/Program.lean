/-!
# Programs

A program asks questions, one at a time, and goes on with the answers.  An `Interface` says which
questions there are and what answers each of them has; a program is a tree with one branch for every
possible answer.  What the questions mean is not part of a program: `Program.interpret` gives the
meaning of a program in any monad that gives a meaning to the questions, and `Program.substitute`
replaces questions by programs that ask other questions.
-/

namespace LedDriver

/-- A family of questions and the answers that each of them can have. -/
structure Interface where
  Question : Type
  Answer : Question → Type

/-- A program that asks the questions of an interface and ends with a result. -/
inductive Program (I : Interface) (α : Type) : Type where
  | done (result : α)
  | ask (question : I.Question) (next : I.Answer question → Program I α)

namespace Program

variable {I J : Interface} {α β γ : Type}

/-- Continues with a program that depends on the result of another. -/
def bind : Program I α → (α → Program I β) → Program I β
  | done a, f => f a
  | ask q next, f => ask q fun x => (next x).bind f

instance : Monad (Program I) where
  pure := done
  bind := bind

/-- The program that asks one question and ends with its answer. -/
def query (q : I.Question) : Program I (I.Answer q) := ask q done

/-- The meaning of a program in a monad that gives a meaning to the questions. -/
def interpret {m : Type → Type} [Monad m] (meaning : (q : I.Question) → m (I.Answer q)) :
    Program I α → m α
  | done a => pure a
  | ask q next => meaning q >>= fun x => (next x).interpret meaning

/-- Replaces each question by a program of another interface. -/
def substitute (f : (q : I.Question) → Program J (I.Answer q)) : Program I α → Program J α :=
  interpret f

/-- Every question that a program can ever ask has a property. -/
def Only (p : I.Question → Prop) : Program I α → Prop
  | done _ => True
  | ask q next => p q ∧ ∀ x, (next x).Only p

/-! ## Laws -/

@[simp] theorem pure_eq_done (a : α) : (pure a : Program I α) = done a := rfl

@[simp] theorem bind_eq_bind (p : Program I α) (f : α → Program I β) : p >>= f = p.bind f := rfl

@[simp] theorem bind_done (a : α) (f : α → Program I β) : (done a).bind f = f a := rfl

@[simp] theorem bind_ask (q : I.Question) (next : I.Answer q → Program I α) (f : α → Program I β) :
    (ask q next).bind f = ask q fun x => (next x).bind f := rfl

@[simp] theorem done_bind (p : Program I α) : p.bind done = p := by
  induction p with
  | done a => rfl
  | ask q next ih => simp [ih]

theorem bind_assoc (p : Program I α) (f : α → Program I β) (g : β → Program I γ) :
    (p.bind f).bind g = p.bind fun a => (f a).bind g := by
  induction p with
  | done a => rfl
  | ask q next ih => simp [ih]

@[simp] theorem interpret_done {m : Type → Type} [Monad m]
    (meaning : (q : I.Question) → m (I.Answer q)) (a : α) :
    (done a : Program I α).interpret meaning = pure a := rfl

@[simp] theorem interpret_ask {m : Type → Type} [Monad m]
    (meaning : (q : I.Question) → m (I.Answer q)) (q : I.Question)
    (next : I.Answer q → Program I α) :
    (ask q next).interpret meaning = meaning q >>= fun x => (next x).interpret meaning := rfl

/-- The meaning of a program followed by another is the meaning of the one followed by that of the
other. -/
theorem interpret_bind {m : Type → Type} [Monad m] [LawfulMonad m]
    (meaning : (q : I.Question) → m (I.Answer q)) (p : Program I α) (f : α → Program I β) :
    (p.bind f).interpret meaning = p.interpret meaning >>= fun a => (f a).interpret meaning := by
  induction p with
  | done a => simp
  | ask q next ih => simp [ih]

/-- A property of the questions of two programs is one of the questions of the one followed by the
other. -/
theorem Only.bind {p : I.Question → Prop} {x : Program I α} {f : α → Program I β}
    (hx : x.Only p) (hf : ∀ a, (f a).Only p) : (x.bind f).Only p := by
  induction x with
  | done a => exact hf a
  | ask q next ih => exact ⟨hx.1, fun a => ih a (hx.2 a)⟩

end Program

end LedDriver
