import LedDriver.System.Board

/-!
# Lower halves made of a table

A lower half can be given as a table with an entry for each operation, some of which may be empty.
It provides the operations whose entries are filled; the other operations fail without doing
anything.  A lower half that is shared between owners behaves as the one that is shared.
-/

namespace LedDriver

/-- A table of operations.  An entry is carried out for a session. -/
abbrev OperationTable (σ : Type) :=
  (o : Operation) → Option (SessionId → o.Args → Reaction σ o.Answer)

variable {σ : Type}

/-- The operations whose entries are filled. -/
def OperationTable.provided (t : OperationTable σ) : OpSet := OpSet.filter fun o => (t o).isSome

namespace LowerHalf

/-- The lower half made of a table. -/
def ofTable (t : OperationTable σ) (discard : Reaction σ Unit) : LowerHalf σ where
  provided := pure t.provided
  operate s o args :=
    match t o with
    | some entry => entry s args
    | none => pure (o.failed .unsupported args)
  discard := discard

/-- A lower half behind a shared handle: every call is passed on. -/
def shared (h : LowerHalf σ) : LowerHalf σ where
  provided := h.provided
  operate s o args := h.operate s o args
  discard := h.discard

end LowerHalf

end LedDriver
