import Mathlib.Data.List.Induction
import LedDriver.DeviceTable

/-!
# Tables of what was put to them

A device table is what became of the entries that were put to it, one after the other, in the
beginning to the empty table (`DeviceTable.ofAttempts`).  The entry of a path is the first one that
was put to the table (`DeviceTable.entryAt?_ofAttempts`), and later ones for the same path are
turned away.  The entries stand in the byte order of their paths (`DeviceTable.sorted_ofAttempts`),
where each path has one place, since a path is known by its bytes.
-/

namespace LedDriver

/-- A path is known by its bytes. -/
lemma pathBytes_inj {p q : String} : pathBytes p = pathBytes q ↔ p = q := by
  constructor
  · intro same
    exact String.toByteArray_inj.mp (ByteArray.ext (Array.toList_inj.mp same))
  · rintro rfl
    rfl

/-- Of two paths, one is before the other. -/
lemma pathBytes_lt_of_not_lt {p q : String} (h : ¬ pathBytes p < pathBytes q) (ne : q ≠ p) :
    pathBytes q < pathBytes p := by
  have differ : pathBytes q ≠ pathBytes p := mt pathBytes_inj.mp ne
  exact Std.lt_of_le_of_ne (List.not_lt.mp h) differ

namespace DeviceTable

variable {ν : Type} {t : DeviceTable ν} {d e : DeviceEntry ν} {es : List (DeviceEntry ν)}
  {p : String}

/-- The entries stand in the byte order of their paths, each path once. -/
def Sorted (t : DeviceTable ν) : Prop :=
  t.entries.Pairwise fun d e => pathBytes d.path < pathBytes e.path

/-- The table that is left when entries are put to the empty table, one after the other. -/
def ofAttempts (es : List (DeviceEntry ν)) : DeviceTable ν :=
  es.foldl (fun t e => (t.insert e).2) empty

/-! ## Placing one entry -/

lemma mem_place_iff : d ∈ place e es ↔ d = e ∨ d ∈ es := by
  induction es with
  | nil => simp [place]
  | cons x rest ih =>
    rw [place]
    split
    · exact List.mem_cons
    · rw [List.mem_cons, ih, List.mem_cons]
      exact or_left_comm

lemma sorted_place (sorted : Sorted ⟨es⟩) (new : ∀ d ∈ es, d.path ≠ e.path) :
    Sorted ⟨place e es⟩ := by
  induction es with
  | nil => exact List.pairwise_singleton ..
  | cons x rest ih =>
    obtain ⟨first, later⟩ := List.pairwise_cons.mp sorted
    unfold Sorted
    rw [place]
    split
    · next before =>
      refine List.pairwise_cons.mpr ⟨?_, sorted⟩
      rw [List.forall_mem_cons]
      exact ⟨before, fun d hd => List.lt_trans before (first d hd)⟩
    · next notBefore =>
      have after : pathBytes x.path < pathBytes e.path :=
        pathBytes_lt_of_not_lt notBefore (new x (.head _))
      refine List.pairwise_cons.mpr ⟨?_, ih later fun d hd => new d (.tail _ hd)⟩
      intro d hd
      rcases mem_place_iff.mp hd with rfl | hd
      · exact after
      · exact first d hd

lemma find?_place (new : ∀ d ∈ es, d.path ≠ e.path) :
    (place e es).find? (fun d => d.path == p) =
      (es.find? fun d => d.path == p).or (if e.path = p then some e else none) := by
  induction es with
  | nil => by_cases h : e.path = p <;> simp [place, h]
  | cons x rest ih =>
    have apart : x.path ≠ e.path := new x (.head _)
    rw [place]
    split
    · by_cases h : e.path = p
      · have none : (x :: rest).find? (fun d => d.path == p) = none := by
          rw [List.find?_eq_none]
          intro d hd
          simpa [← h] using new d hd
        rw [none]
        simp [h]
      · simp [h]
    · rw [List.find?_cons, ih fun d hd => new d (.tail _ hd), List.find?_cons]
      cases x.path == p <;> rfl

/-! ## Putting an entry to a table -/

/-- A path is taken if it has an entry. -/
lemma isSome_entryAt?_iff : (t.entryAt? p).isSome = true ↔ ∃ d ∈ t.entries, d.path = p := by
  simp [entryAt?]

/-- An entry is turned away if its path is taken, and the table stays as it is. -/
lemma insert_of_taken (taken : (t.entryAt? e.path).isSome = true) :
    t.insert e = (.error .alreadyExists, t) := if_pos taken

/-- An entry is accepted if its path is free. -/
lemma insert_of_free (free : t.entryAt? e.path = none) :
    (t.insert e).1 = .ok () ∧ (t.insert e).2.entries = place e t.entries := by
  simp [insert, free]

/-- After an entry was put to a table, the entry of a path is the one that it had before, or else
that entry. -/
lemma entryAt?_insert :
    entryAt? (t.insert e).2 p = (t.entryAt? p).or (if e.path = p then some e else none) := by
  cases h : t.entryAt? e.path with
  | some d =>
    rw [insert_of_taken (by rw [h]; rfl)]
    by_cases same : e.path = p
    · rw [← same, h]
      rfl
    · simp [same]
  | none =>
    have new : ∀ d ∈ t.entries, d.path ≠ e.path := by
      simpa [entryAt?] using h
    unfold entryAt?
    rw [(insert_of_free h).2]
    exact find?_place new

lemma sorted_insert (sorted : t.Sorted) : (t.insert e).2.Sorted := by
  cases h : t.entryAt? e.path with
  | some d =>
    rw [insert_of_taken (by rw [h]; rfl)]
    exact sorted
  | none =>
    have new : ∀ d ∈ t.entries, d.path ≠ e.path := by
      simpa [entryAt?] using h
    unfold Sorted
    rw [(insert_of_free h).2]
    exact sorted_place sorted new

/-! ## Tables of attempts -/

@[simp] lemma ofAttempts_nil : ofAttempts ([] : List (DeviceEntry ν)) = empty := rfl

@[simp] lemma ofAttempts_snoc : ofAttempts (es ++ [e]) = ((ofAttempts es).insert e).2 := by
  simp [ofAttempts]

/-- The entry of a path is the first one for this path that was put to the table. -/
theorem entryAt?_ofAttempts (es : List (DeviceEntry ν)) (p : String) :
    entryAt? (ofAttempts es) p = es.find? fun e => e.path == p := by
  induction es using List.reverseRecOn with
  | nil => rfl
  | append_singleton es e ih =>
    rw [ofAttempts_snoc, entryAt?_insert, ih, List.find?_append]
    congr 1
    by_cases h : e.path = p <;> simp [h]

/-- The entries stand in the byte order of their paths, each path once. -/
theorem sorted_ofAttempts (es : List (DeviceEntry ν)) : (ofAttempts es).Sorted := by
  induction es using List.reverseRecOn with
  | nil => exact List.Pairwise.nil
  | append_singleton es e ih =>
    rw [ofAttempts_snoc]
    exact sorted_insert ih

/-! ## Reading a table -/

/-- The paths of a sorted table stand in strictly increasing byte order. -/
lemma paths_increasing (sorted : t.Sorted) :
    t.paths.Pairwise fun p q => pathBytes p < pathBytes q :=
  List.pairwise_map.mpr sorted

/-- A path is published if something can be looked up at it. -/
lemma mem_paths_iff : p ∈ t.paths ↔ (t.lookup p).isSome = true := by
  rw [lookup, Option.isSome_map, isSome_entryAt?_iff, paths, List.mem_map]

/-- There are as many paths as the size says. -/
lemma size_eq (t : DeviceTable ν) : t.size = t.paths.length := (List.length_map _).symm

/-- A table is empty if it has no paths. -/
lemma isEmpty_iff : t.isEmpty = true ↔ t.paths = [] := by
  rw [isEmpty, List.isEmpty_iff, paths, List.map_eq_nil_iff]

/-- If everything was put to a table in one mode, a path has this mode exactly if it is
published. -/
lemma mode_ofAttempts {mode : FileMode} (all : ∀ e ∈ es, e.mode = mode) :
    (ofAttempts es).mode p = ((ofAttempts es).lookup p).map fun _ => mode := by
  unfold DeviceTable.mode lookup
  rw [entryAt?_ofAttempts]
  cases h : es.find? fun e => e.path == p with
  | none => rfl
  | some e =>
    have known : e.mode = mode := all e (List.mem_of_find?_eq_some h)
    simp [known]

end DeviceTable

end LedDriver
