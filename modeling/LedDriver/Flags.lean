import LedDriver.Text

/-!
# Flag sets

A flag set is a word of bits some of which have names.  A `Vocabulary` gives the width of the word
and the named bits in the order in which they are declared; `Flags V` is a word read with the
vocabulary `V`.  Bits without a name are kept by every operation except the ones that say otherwise:
`ofBits?`, `truncate` and `complement`.
-/

namespace LedDriver

/-- The names of a kind of flag set: its own name, its width in bits and its named bits. -/
structure Vocabulary where
  name : String
  width : Nat
  named : List (String × BitVec width)

/-- A word of bits read with a vocabulary. -/
structure Flags (V : Vocabulary) where
  bits : BitVec V.width
deriving DecidableEq

namespace Flags

variable {V : Vocabulary}

/-- The flag set with no bit. -/
def empty : Flags V := ⟨0⟩

instance : Inhabited (Flags V) := ⟨empty⟩

/-- The flag set with every named bit and no other. -/
def all : Flags V :=
  ⟨V.named.foldl (fun bits entry => bits ||| entry.2) 0⟩

/-- The bits of either set. -/
def union (a b : Flags V) : Flags V := ⟨a.bits ||| b.bits⟩

/-- The bits of both sets. -/
def intersection (a b : Flags V) : Flags V := ⟨a.bits &&& b.bits⟩

/-- The bits of the first set that are not in the second, named or not. -/
def difference (a b : Flags V) : Flags V := ⟨a.bits &&& ~~~b.bits⟩

/-- The bits of exactly one of the two sets. -/
def symmetricDifference (a b : Flags V) : Flags V := ⟨a.bits ^^^ b.bits⟩

/-- The named bits of a set. -/
def truncate (a : Flags V) : Flags V := a.intersection all

/-- The named bits that are not in a set. -/
def complement (a : Flags V) : Flags V := truncate ⟨~~~a.bits⟩

/-- A set has no bit. -/
def isEmpty (a : Flags V) : Bool := a.bits == 0

/-- Every bit of the second set is in the first. -/
def contains (a b : Flags V) : Bool := a.bits &&& b.bits == b.bits

/-- Some bit is in both sets. -/
def intersects (a b : Flags V) : Bool := !(a.intersection b).isEmpty

/-- A set has every named bit. -/
def isAll (a : Flags V) : Bool := a.contains all

/-- Reads a word as a flag set, refusing a word with a bit that has no name. -/
def ofBits? (bits : BitVec V.width) : Option (Flags V) :=
  if (truncate (⟨bits⟩ : Flags V)).bits = bits then some ⟨bits⟩ else none

/-- The single named bit of a name. -/
def ofName? (name : String) : Option (Flags V) :=
  (V.named.find? fun entry => entry.1 == name).map fun entry => ⟨entry.2⟩

/-- Adds or removes the bits of the second set. -/
def set (a b : Flags V) (present : Bool) : Flags V :=
  if present then a.union b else a.difference b

/-- The named bits of a set with their names, in the order of declaration. -/
def names (a : Flags V) : List (String × Flags V) :=
  (V.named.map fun entry => (entry.1, (⟨entry.2⟩ : Flags V))).filter fun entry => a.contains entry.2

/-- The bits of a set that have no name. -/
def unnamed (a : Flags V) : Flags V := a.difference all

/-- The parts of a set: each of its named bits, then its unnamed bits together if it has any. -/
def parts (a : Flags V) : List (Flags V) :=
  a.names.map Prod.snd ++ if a.unnamed.isEmpty then [] else [a.unnamed]

/-- The parts of a set as text, joined by bars: names, then the unnamed bits as one number.
The empty set is written as the number zero. -/
def partsText (a : Flags V) : String :=
  if a.isEmpty then Text.hex 0
  else " | ".intercalate
    (a.names.map Prod.fst ++ if a.unnamed.isEmpty then [] else [Text.hex a.unnamed.bits.toNat])

/-- A flag set is written as its parts wrapped in the name of its vocabulary. -/
def text (a : Flags V) : String := Text.wrapped V.name a.partsText

/-! ## Membership of single bits -/

/-- The bit at a position is in a set. -/
def has (a : Flags V) (i : Nat) : Bool := a.bits.getLsbD i

@[simp] theorem has_empty (i : Nat) : (empty : Flags V).has i = false := by
  simp [has, empty]

@[simp] theorem has_union (a b : Flags V) (i : Nat) : (a.union b).has i = (a.has i || b.has i) := by
  simp [has, union]

@[simp] theorem has_difference (a b : Flags V) (i : Nat) :
    (a.difference b).has i = (a.has i && !b.has i) := by
  by_cases h : i < V.width
  · simp [has, difference, h]
  · simp [has, difference, BitVec.getLsbD_of_ge _ _ (Nat.le_of_not_lt h)]

/-- Two sets with the same bits are equal. -/
theorem ext_has {a b : Flags V} (h : ∀ i, a.has i = b.has i) : a = b := by
  cases a; cases b
  congr 1
  exact BitVec.eq_of_getLsbD_eq fun i _ => h i

end Flags

end LedDriver
