import LedDriver.Proofs.DeviceError.Errno

/-!
# Errors that come back from their numbers

An error that is encoded as a system error number and decoded again comes back exactly if it is
canonical (`DeviceError.Canonical`): a cause with a name, or an error of the driver's own whose
number is not negative and is not that of a cause with a name.  Any other error comes back as the
canonical error with a number of the same size (`DeviceError.ofErrno_errno`,
`DeviceError.errno_round_trip`).

The two tables agree because the numbers of the named causes are positive and no two of them are the
same (`DeviceError.code_pos`, `DeviceError.ofErrno_code`).  `DeviceError.ofErrno_eq` writes out the
table that decodes a number.
-/

namespace LedDriver.DeviceError

/-- A cause with a name, or an error of the driver's own whose number is not negative and has no
name. -/
inductive Canonical : DeviceError → Prop
  | cause {e : DeviceError} (h : e ∈ named) : Canonical e
  | own {k : Int32} (nonneg : 0 ≤ k) (unnamed : ∀ a ∈ named, a.code ≠ k) : Canonical (driver k)

/-! ## The table of names -/

/-- Every error has a name or is one of the driver's own. -/
lemma mem_named_iff {e : DeviceError} : e ∈ named ↔ ∀ k, e ≠ driver k := by
  cases e <;> simp [named]

/-- The numbers of the named causes are positive. -/
lemma code_pos {a : DeviceError} (h : a ∈ named) : 0 < a.code := by
  revert a
  decide

/-- No two named causes have the same number, so that each is decoded from its own. -/
lemma ofErrno_code {a : DeviceError} (h : a ∈ named) : ofErrno a.code = a := by
  revert a
  decide

/-! ## There and back -/

/-- A number that is not negative is its own size. -/
lemma size_of_nonneg {k : Int32} (h : 0 ≤ k) : size k = k :=
  if_neg (Int32.not_lt.mpr h)

/-- What is encoded and decoded is decoded from its number, whose sign is lost. -/
lemma ofErrno_errno (e : DeviceError) : ofErrno e.errno = ofErrno e.code :=
  ofErrno_congr (size_neg e.code)

/-- A number whose size has no name is decoded as an error of the driver's own. -/
lemma ofErrno_of_unnamed {k : Int32} (h : ∀ a ∈ named, a.code ≠ size k) :
    ofErrno k = driver (size k) := by
  have none : (named.find? fun e => e.code == size k) = none :=
    List.find?_eq_none.mpr fun a ha same => h a ha (eq_of_beq same)
  rw [ofErrno, none, Option.getD_none]

/-- The table that decodes a number, number by number. -/
lemma ofErrno_eq (code : Int32) : ofErrno code = match size code with
    | 1 => permissionDenied
    | 24 => tooManyOpens
    | 4 => interrupted
    | 110 => timedOut
    | 22 => invalidArgument
    | 25 => unsupported
    | 16 => busy
    | 5 => io
    | 17 => alreadyExists
    | 2 => notFound
    | other => driver other := by
  split
  case h_11 =>
    -- A number that is in no line of the table is that of no named cause.
    refine ofErrno_of_unnamed fun a ha same => ?_
    cases a
    case driver => simp [named] at ha
    all_goals exact absurd same.symm ‹_›
  all_goals
    next number =>
      rw [ofErrno, number]
      rfl

/-- An error of the driver's own with the number of a named cause, of either sign, comes back as
that cause. -/
lemma ofErrno_errno_of_named {a : DeviceError} (ha : a ∈ named) {k : Int32}
    (h : k = a.code ∨ k = -a.code) : ofErrno (driver k).errno = a := by
  have same : size k = size a.code := by
    rcases h with rfl | rfl
    · rfl
    · exact size_neg a.code
  rw [ofErrno_errno, code, ofErrno_congr same, ofErrno_code ha]

/-- An error of the driver's own with a negative number that no named cause has comes back with the
sign turned. -/
lemma ofErrno_errno_of_neg {k : Int32} (neg : k < 0) (unnamed : ∀ a ∈ named, k ≠ -a.code) :
    ofErrno (driver k).errno = driver (-k) := by
  have size_eq : size k = -k := if_pos neg
  rw [ofErrno_errno, code, ofErrno_of_unnamed, size_eq]
  intro a ha same
  refine unnamed a ha ?_
  rw [same, size_eq, Int32.neg_neg]

/-- A canonical error comes back. -/
lemma Canonical.ofErrno_errno {e : DeviceError} (h : e.Canonical) : ofErrno e.errno = e := by
  rw [DeviceError.ofErrno_errno]
  cases h with
  | cause named => exact ofErrno_code named
  | @own k nonneg unnamed =>
    have size_eq : size k = k := size_of_nonneg nonneg
    rw [code, ofErrno_of_unnamed, size_eq]
    rwa [size_eq]

/-- An error that comes back is canonical, unless it has the least number. -/
lemma canonical_of_ofErrno_errno {e : DeviceError} (inner : e ≠ driver Int32.minValue)
    (h : ofErrno e.errno = e) : e.Canonical := by
  by_cases own : e ∈ named
  · exact .cause own
  · obtain ⟨k, rfl⟩ : ∃ k, e = driver k := by simpa using mt mem_named_iff.mpr own
    have inner : k ≠ Int32.minValue := fun least => inner (congrArg driver least)
    obtain ⟨number, unnamed⟩ := of_ofErrno_eq_driver ((DeviceError.ofErrno_errno _).symm.trans h)
    have size_eq : k = size k := number
    refine .own ?_ unnamed
    rw [Int32.le_iff_toInt_le, size_eq, toInt_size inner]
    exact abs_nonneg k.toInt

/-- An error other than that with the least number is encoded without overflow. -/
lemma toInt_errno {e : DeviceError} (inner : e ≠ driver Int32.minValue) :
    e.errno.toInt = -e.code.toInt := by
  refine toInt_neg fun least => ?_
  by_cases own : e ∈ named
  · have pos := code_pos own
    rw [least] at pos
    exact absurd pos (by decide)
  · obtain ⟨k, rfl⟩ : ∃ k, e = driver k := by simpa using mt mem_named_iff.mpr own
    exact inner (congrArg driver least)

/-- An error other than that with the least number comes back from its encoding exactly if it is
canonical.  An error of the driver's own with the number of a named cause, of either sign, comes
back as that cause, and one with any other negative number comes back with the sign turned.
Canonical errors with equal encodings are equal.  Encoding does not overflow, and a named cause or a
positive number is encoded as a negative one. -/
theorem errno_round_trip (e : DeviceError) (inner : e ≠ driver Int32.minValue) :
    (ofErrno e.errno = e ↔ e.Canonical) ∧
    (∀ k, e = driver k → ∀ a ∈ named, k = a.code ∨ k = -a.code → ofErrno e.errno = a) ∧
    (∀ k, e = driver k → k < 0 → (∀ a ∈ named, k ≠ -a.code) → ofErrno e.errno = driver (-k)) ∧
    (ofErrno e.errno = e → ∀ e', ofErrno e'.errno = e' → e.errno = e'.errno → e = e') ∧
    e.errno.toInt = -e.code.toInt ∧
    ((e ∈ named ∨ ∃ k, e = driver k ∧ 0 < k) → e.errno < 0) := by
  have number := toInt_errno inner
  refine ⟨⟨canonical_of_ofErrno_errno inner, Canonical.ofErrno_errno⟩, ?_, ?_, ?_, number, ?_⟩
  · rintro k rfl a ha same
    exact ofErrno_errno_of_named ha same
  · rintro k rfl neg unnamed
    exact ofErrno_errno_of_neg neg unnamed
  · intro back e' back' same
    rw [← back, same, back']
  · intro h
    have pos : 0 < e.code := by
      rcases h with h | ⟨k, rfl, pos⟩
      · exact code_pos h
      · exact pos
    rw [Int32.lt_iff_toInt_lt] at pos ⊢
    rw [number]
    exact neg_lt_zero.mpr pos

/-- The number of too many opens, given with the other sign as one of the driver's own, comes back
as that cause. -/
theorem errno_round_trip_turned :
    driver (-24) ≠ driver Int32.minValue ∧ ofErrno (driver (-24)).errno = tooManyOpens ∧
      ¬ (driver (-24)).Canonical := by
  have inner : driver (-24) ≠ driver Int32.minValue := by decide
  obtain ⟨back, turned, -⟩ := errno_round_trip (driver (-24)) inner
  have cause := turned (-24) rfl tooManyOpens (by decide) (.inr rfl)
  refine ⟨inner, cause, fun canonical => ?_⟩
  have same := back.mpr canonical
  rw [cause] at same
  cases same

end LedDriver.DeviceError
