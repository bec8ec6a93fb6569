import Mathlib.Tactic.Common
import LedDriver.LowerHalf.Table

/-!
# Sets of operations

A set of operations is a word in which each of the twelve operations has a bit of its own; the other
bits mean nothing.  A set is known by the operations in it (`OpSet.Mem`), and each way in which the
driver makes such a set is told in these terms: the set of the operations with a property
(`OpSet.mem_filter_iff`), and the operations that a set lacks (`OpSet.missing_eq_filter`).  A set
lacks nothing if it has all twelve (`OpSet.missing_isEmpty_iff`), whatever its other bits are.
`OperationTable.provided_eq` tells what a table provides entry by entry.

What a set lacks is written as the names of these operations in their order (`OpSet.text_missing`).
-/

namespace LedDriver

namespace Operation

/-- The name of the flag of an operation. -/
def flagName : Operation → String
  | setup => "SETUP"
  | shutdown => "SHUTDOWN"
  | start => "START"
  | stop => "STOP"
  | modeSet => "MODE_SET"
  | limitsSet => "LIMITS_SET"
  | paramsSet => "PARAMS_SET"
  | faultSet => "FAULT_SET"
  | faultGet => "FAULT_GET"
  | faultClean => "FAULT_CLEAN"
  | stateGet => "STATE_GET"
  | ioctl => "IOCTL"

/-- Every operation is listed. -/
lemma mem_listed (o : Operation) : o ∈ listed := by
  cases o <;> decide

/-- There are twelve operations. -/
lemma index_lt (o : Operation) : o.index < 12 := by
  cases o <;> decide

/-- An operation stands at its own place in the list, so that no two share a flag. -/
lemma listed_getElem? (o : Operation) : listed[o.index]? = some o := by
  cases o <;> rfl

lemma index_inj {o p : Operation} : o.index = p.index ↔ o = p := by
  constructor
  · intro same
    have place := o.listed_getElem?
    rw [same, p.listed_getElem?] at place
    exact (Option.some.inj place).symm
  · rintro rfl
    rfl

/-- The flags of the operations are the named flags of a set, in the same order. -/
lemma named_eq : OpSet.vocabulary.named = listed.map fun o => (o.flagName, o.flag.bits) := by
  decide +kernel

lemma has_flag (o : Operation) (i : Nat) : o.flag.has i = decide (o.index = i) := by
  have inside : o.index < 16 := Nat.lt_trans o.index_lt (by decide)
  simp [Flags.has, flag, OpSet.vocabulary, BitVec.getLsbD_twoPow, inside]

end Operation

namespace OpSet

/-- An operation is in a set. -/
def Mem (set : OpSet) (o : Operation) : Prop := set.has o.index = true

instance (set : OpSet) (o : Operation) : Decidable (set.Mem o) :=
  inferInstanceAs (Decidable (_ = true))

/-- All twelve operations are in a set. -/
def Complete (set : OpSet) : Prop := ∀ o, Mem set o

/-- The operations that are not in a set, in their order. -/
def lacking (set : OpSet) : List Operation := Operation.listed.filter fun o => !set.has o.index

@[simp] lemma mem_lacking_iff {set : OpSet} {o : Operation} : o ∈ lacking set ↔ ¬ Mem set o := by
  simp [lacking, Mem, o.mem_listed]

/-! ## The set of the operations with a property -/

lemma has_foldl (os : List Operation) (set : OpSet) (i : Nat) :
    (os.foldl (fun set o => set.union o.flag) set).has i =
      (set.has i || os.any fun o => decide (o.index = i)) := by
  induction os generalizing set with
  | nil => simp
  | cons o os ih =>
    rw [List.foldl_cons, ih, Flags.has_union, o.has_flag, List.any_cons, Bool.or_assoc]

/-- The bits of the set of the operations with a property are those of these operations. -/
lemma has_filter_iff {p : Operation → Bool} {i : Nat} :
    (OpSet.filter p).has i = true ↔ ∃ o : Operation, p o = true ∧ o.index = i := by
  simp [OpSet.filter, has_foldl, Operation.mem_listed]

/-- The operations in the set of the operations with a property are those with the property. -/
lemma mem_filter_iff {p : Operation → Bool} {o : Operation} :
    Mem (OpSet.filter p) o ↔ p o = true := by
  rw [Mem, has_filter_iff]
  constructor
  · rintro ⟨q, hq, same⟩
    rwa [← Operation.index_inj.mp same]
  · intro h
    exact ⟨o, h, rfl⟩

/-- The named bits of a set are those of the operations. -/
lemma has_all_iff {i : Nat} : (Flags.all : OpSet).has i = true ↔ ∃ o : Operation, o.index = i := by
  have whole : (Flags.all : OpSet) = OpSet.filter fun _ => true := by decide +kernel
  rw [whole, has_filter_iff]
  simp

/-- The set of the operations with a property that all of them have. -/
lemma filter_eq_all {p : Operation → Bool} (h : ∀ o, p o = true) : OpSet.filter p = Flags.all := by
  refine Flags.ext_has fun i => ?_
  rw [Bool.eq_iff_iff, has_filter_iff, has_all_iff]
  exact exists_congr fun o => and_iff_right (h o)

/-! ## The operations that a set lacks -/

/-- What a set lacks is the set of the operations that are not in it. -/
lemma missing_eq_filter (set : OpSet) :
    missing set = OpSet.filter fun o => !set.has o.index := by
  refine Flags.ext_has fun i => ?_
  rw [Bool.eq_iff_iff, missing, Flags.has_difference, Bool.and_eq_true, has_all_iff, has_filter_iff]
  constructor
  · rintro ⟨⟨o, rfl⟩, lacks⟩
    exact ⟨o, lacks, rfl⟩
  · rintro ⟨o, lacks, rfl⟩
    exact ⟨⟨o, rfl⟩, lacks⟩

lemma mem_missing_iff {set : OpSet} {o : Operation} : Mem (missing set) o ↔ ¬ Mem set o := by
  rw [missing_eq_filter, mem_filter_iff, Mem, Bool.not_eq_true', Bool.not_eq_true]

/-- A set without bits is the empty set. -/
lemma isEmpty_iff {V : Vocabulary} {a : Flags V} : a.isEmpty = true ↔ ∀ i, a.has i = false := by
  constructor
  · intro h i
    have none : a.bits = 0 := eq_of_beq h
    simp [Flags.has, none]
  · intro h
    have none : a = Flags.empty := Flags.ext_has fun i => by rw [h i, Flags.has_empty]
    subst none
    exact beq_self_eq_true _

/-- A set lacks nothing exactly if it has all twelve operations. -/
lemma missing_isEmpty_iff {set : OpSet} : (missing set).isEmpty = true ↔ Complete set := by
  rw [isEmpty_iff]
  constructor
  · intro none o
    have present : ¬ Mem (missing set) o := by rw [Mem, none o.index]; exact Bool.false_ne_true
    exact not_not.mp (mt mem_missing_iff.mpr present)
  · intro complete i
    by_contra lacks
    rw [Bool.not_eq_false, missing_eq_filter, has_filter_iff] at lacks
    obtain ⟨o, lacks, -⟩ := lacks
    have present : set.has o.index = true := complete o
    rw [present] at lacks
    cases lacks

/-- A word contains a single bit exactly if the bit is set. -/
lemma and_twoPow_beq (x : BitVec 16) {i : Nat} (inside : i < 16) :
    (x &&& BitVec.twoPow 16 i == BitVec.twoPow 16 i) = x.getLsbD i := by
  have nonzero : BitVec.twoPow 16 i ≠ 0#16 := by
    intro zero
    have bit := congrArg (·.getLsbD i) zero
    simp [inside] at bit
  rw [BitVec.and_twoPow]
  cases x.getLsbD i with
  | true => simp
  | false => simpa using fun zero => nonzero zero.symm

/-- A set contains the flag of an operation exactly if the operation is in it. -/
lemma contains_flag (set : OpSet) (o : Operation) : set.contains o.flag = set.has o.index :=
  and_twoPow_beq set.bits (Nat.lt_trans o.index_lt (by decide))

/-- The names of what a set lacks are those of the operations that it lacks. -/
lemma names_missing (set : OpSet) :
    (missing set).names = (lacking set).map fun o => (o.flagName, o.flag) := by
  have named : (OpSet.vocabulary.named.map fun entry => (entry.1, (⟨entry.2⟩ : OpSet))) =
      Operation.listed.map fun o => (o.flagName, o.flag) := by
    rw [Operation.named_eq, List.map_map]
    rfl
  have lacks (o : Operation) : (missing set).contains o.flag = !set.has o.index := by
    rw [contains_flag, Bool.eq_iff_iff]
    simpa [Mem] using @mem_missing_iff set o
  unfold Flags.names
  rw [named, List.filter_map]
  simp only [Function.comp_def, lacks]
  rfl

/-- What a set lacks has no other bits. -/
lemma unnamed_missing (set : OpSet) : (missing set).unnamed.isEmpty = true := by
  rw [isEmpty_iff]
  intro i
  rw [Flags.unnamed, missing, Flags.has_difference, Flags.has_difference]
  cases (Flags.all : OpSet).has i <;> simp

/-- What a set lacks is written as the names of the operations that it lacks. -/
theorem text_missing {set : OpSet} (lacks : ¬ Complete set) :
    (missing set).text = Text.wrapped "OpSet"
      (" | ".intercalate ((lacking set).map Operation.flagName)) := by
  have some : (missing set).isEmpty = false := by
    rw [Bool.eq_false_iff]
    exact mt missing_isEmpty_iff.mp lacks
  have names : (missing set).names.map Prod.fst = (lacking set).map Operation.flagName := by
    rw [names_missing, List.map_map]
    rfl
  unfold Flags.text Flags.partsText
  rw [some, unnamed_missing, names]
  simp only [Bool.false_eq_true, if_false, if_true, List.append_nil]
  rfl

end OpSet

/-! ## The operations of a table -/

/-- What a table provides, entry by entry: of the twelve flags, those whose entries are filled. -/
lemma OperationTable.provided_eq {σ : Type} (t : OperationTable σ) :
    t.provided = (List.filter Prod.snd
      [((⟨0x1⟩ : OpSet), (t .setup).isSome), (⟨0x2⟩, (t .shutdown).isSome),
        (⟨0x4⟩, (t .start).isSome), (⟨0x8⟩, (t .stop).isSome), (⟨0x10⟩, (t .modeSet).isSome),
        (⟨0x20⟩, (t .limitsSet).isSome), (⟨0x40⟩, (t .paramsSet).isSome),
        (⟨0x80⟩, (t .faultSet).isSome), (⟨0x100⟩, (t .faultGet).isSome),
        (⟨0x200⟩, (t .faultClean).isSome), (⟨0x400⟩, (t .stateGet).isSome),
        (⟨0x800⟩, (t .ioctl).isSome)]).foldl (fun set entry => set.union entry.1) Flags.empty := by
  have listed : t.provided = (List.filter Prod.snd (Operation.listed.map fun o =>
      (o.flag, (t o).isSome))).foldl (fun set entry => set.union entry.1) Flags.empty := by
    rw [List.filter_map, List.foldl_map]
    rfl
  exact listed

/-- The bits of what a table provides are those of the operations whose entries are filled. -/
lemma OperationTable.has_provided_iff {σ : Type} {t : OperationTable σ} {i : Nat} :
    t.provided.has i = true ↔ ∃ o : Operation, (t o).isSome = true ∧ o.index = i :=
  OpSet.has_filter_iff

/-- A table provides all operations exactly if all its entries are filled. -/
lemma OperationTable.complete_provided_iff {σ : Type} {t : OperationTable σ} :
    OpSet.Complete t.provided ↔ ∀ o, (t o).isSome = true :=
  forall_congr' fun _ => OpSet.mem_filter_iff

end LedDriver
