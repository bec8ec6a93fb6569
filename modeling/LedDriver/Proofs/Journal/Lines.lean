import LedDriver.Proofs.Command.Forwarding
import LedDriver.Proofs.Lifecycle.Record

/-!
# What a call writes into the journal

The lines that an open, a close or a command of a session writes itself, apart from those of the
calls nested in it.  Each of them follows its program to the end, and the lines can be told from
what it did besides: an open writes that the greatest count is reached or that the hardware could
not be set up (`OpenJournal`), a close that it found no reference and that the hardware could not be
put to rest (`CloseJournal`), and a command that it was refused, or passed on, or failed
(`CommandJournal`).
-/

namespace LedDriver

variable {σ α β : Type} {s : SessionId}

/-- The line of the journal that a deed writes. -/
def Deed.notice? : Deed σ → Option Notice
  | .received (.peer (.log n)) _ => some n
  | _ => none

/-- The lines that a program has written itself. -/
def written (d : List (Deed σ)) : List Notice := d.filterMap Deed.notice?

/-- The error with which the driver's call of an operation for a session ended. -/
def Deed.failure? (s : SessionId) (o : Operation) : Deed σ → Option DeviceError
  | .received (.peer (.operate .driver _ u o' _)) x => if u = s ∧ o' = o then o'.error? x else none
  | _ => none

/-- The error with which the driver's call of an operation for a session ended, among the deeds of a
program. -/
def failure? (s : SessionId) (o : Operation) (d : List (Deed σ)) : Option DeviceError :=
  d.findSome? (Deed.failure? s o)

section Deeds

variable {d : List (Deed σ)} {c : Call} {x : c.Answer} {o : Operation}

@[simp] lemma written_nil : written ([] : List (Deed σ)) = [] := rfl

@[simp] lemma written_cons (y : Deed σ) : written (y :: d) = y.notice?.toList ++ written d := by
  unfold written
  cases h : y.notice? with
  | none => simp [List.filterMap_cons_none h]
  | some n => simp [List.filterMap_cons_some h]

@[simp] lemma written_append (d d' : List (Deed σ)) : written (d ++ d') = written d ++ written d' :=
  List.filterMap_append

@[simp] lemma failure?_nil : failure? s o ([] : List (Deed σ)) = none := rfl

@[simp] lemma failure?_cons (y : Deed σ) :
    failure? s o (y :: d) = (y.failure? s o).or (failure? s o d) := by
  unfold failure?
  cases h : y.failure? s o <;> simp [h]

end Deeds

/-- The driver's call of an operation ended with an error. -/
def Deed.isFailure (o : Operation) : Deed σ → Bool
  | .received (.peer (.operate .driver _ _ o' _)) x => o' = o && (o'.error? x).isSome
  | _ => false

/-- The open count that an open found is the greatest count admitted. -/
def foundFull (s : SessionId) (p : Profile) (d : List (Deed σ)) : Bool :=
  (found s d).any (p.config.maxOpens ≤ ·)

/-- The lines of an open with its deeds after it read the profile of its session, and its answer. -/
structure OpenJournal (s : SessionId) (p : Profile) (d : List (Deed σ))
    (x : Except DeviceError Unit) : Prop where
  /-- There is a line about the greatest count if the open found it, and a line about the setup if
  that failed. -/
  lines : written d = (if foundFull s p d then [.openLimit p.config.maxOpens] else []) ++
    (failure? s .setup d).toList.map .setupFailed
  /-- An open that finds the greatest count is refused. -/
  refused : foundFull s p d → x = .error .tooManyOpens
  /-- The line about the setup is written when the critical section is left. -/
  left : ∀ e, failure? s .setup d = some e →
    ∃ k, [.received (.peer (.operate .driver p.lower s .setup ())) (.error e),
      .received (.peer (.leave p.platform k)) (), .wrote (.setupFailed e),
      .acted (.post (.guard s)) ()] <:+ d
  /-- The hardware is set up once at most. -/
  once : d.countP (Deed.isFailure .setup) = (failure? s .setup d).toList.length
  /-- An open that gives up waiting writes nothing. -/
  waited : ∀ e, .received (.routine (.wait (.guard s) p.platform)) (.error e) ∈ d → written d = []

/-- The lines of a close with its deeds after it read the profile of its session. -/
structure CloseJournal (s : SessionId) (p : Profile) (d : List (Deed σ)) : Prop where
  /-- There is a line about the close if it found no reference, and a line about the hardware if
  that could not be put to rest. -/
  lines : written d = (if found s d = some 0 then [.spuriousClose] else []) ++
    (failure? s .shutdown d).toList.map .shutdownFailed
  /-- The line about the close is written before anything is done to the hardware. -/
  before : found s d = some 0 →
    [.received (.routine (.wait (.guard s) p.platform)) (.ok ()), .acted (.count s) 0,
      .wrote .spuriousClose] <+: d
  /-- The line about the hardware is written when the critical section is left. -/
  left : ∀ e, failure? s .shutdown d = some e →
    ∃ k, [.received (.peer (.operate .driver p.lower s .shutdown ())) (.error e),
      .received (.peer (.leave p.platform k)) (), .wrote (.shutdownFailed e),
      .acted (.post (.guard s)) ()] <:+ d
  /-- The hardware is put to rest once at most. -/
  once : d.countP (Deed.isFailure .shutdown) = (failure? s .shutdown d).toList.length
  /-- A close that gives up waiting writes nothing. -/
  waited : ∀ e, .received (.routine (.wait (.guard s) p.platform)) (.error e) ∈ d → written d = []

/-- The lines of a command with its deeds and its answer. -/
structure CommandJournal (s : SessionId) (c : Command) (d : List (Deed σ)) (x : CommandAnswer) :
    Prop where
  /-- A command with a number of its own that succeeds writes nothing. -/
  succeeded : c.isTyped → ∀ v, x.result = .ok v → written d = []
  /-- One that fails writes one line and nothing after it: why it was refused, if it was not passed
  on, or what its operation reported. -/
  failed : c.isTyped → ∀ e, x.result = .error e →
    ∃ d' n, d = d' ++ [.wrote n] ∧ written d' = [] ∧ n.severity = .error ∧
      ((∃ r, n = .refused r ∧ r.error = e ∧ ∀ y ∈ d', ∃ a z, y = .acted a z) ∨
        ∃ d'' h answer,
          d' = d'' ++ [.received (.peer (.operate .driver h s c.operation c.args)) answer] ∧
          c.operation.error? answer = some e ∧ n.message = c.name ++ " failed: " ++ e.message)
  /-- A command with a number of another writes one line. -/
  reserved : ∀ n arg, c = .passthrough n arg → Command.isReserved n →
    d = [.wrote (.refused (.reservedNumber n))]
  /-- Any other command of the lower half's own writes a line before it is passed on, and another
  one if it failed. -/
  forwarded : ∀ n arg, c = .passthrough n arg → ¬ Command.isReserved n →
    ∃ p answer, d = [.wrote (.forwarding n arg), .acted (.profile s) p,
        .received (.peer (.operate .driver p.lower s .ioctl (n, arg))) answer] ++
      match x.result with
      | .ok _ => []
      | .error e => [.wrote (.forwardFailed n e)]

/-! ## Opens -/

/-- The lines of an open can be told from the way it has gone. -/
theorem Session.openDevice_journal {d : List (Deed σ)} {x : Except DeviceError Unit}
    (h : Follows (openDevice s) d (.done x)) :
    ∃ p d', d = .acted (.profile s) p :: d' ∧ OpenJournal s p d' x := by
  obtain ⟨p, d', rfl, record, limit⟩ := openDevice_record h
  refine ⟨p, d', rfl, ?_⟩
  cases record with
  | abandoned e =>
    constructor <;> simp [Deed.notice?, foundFull, Deed.failure?, Deed.isFailure, found]
  | limit n full =>
    have full := UInt8.le_iff_toNat_le.mpr full
    constructor <;> simp [Deed.notice?, foundFull, Deed.failure?, Deed.isFailure, full]
  | failed k e =>
    have room := (limit 0 (by simp)).not.mpr (by simp)
    constructor
    · simp [Deed.notice?, foundFull, Deed.failure?, Operation.error?, room]
    · simp [foundFull, room]
    · intro e' failure
      obtain rfl : e = e' := by simpa [Deed.failure?, Operation.error?] using failure
      exact ⟨k, List.suffix_append [_, _, _] _⟩
    · simp [Deed.failure?, Deed.isFailure, Operation.error?]
    · simp
  | first k =>
    have room := (limit 0 (by simp)).not.mpr (by simp)
    constructor <;> simp [Deed.notice?, foundFull, Deed.failure?, Deed.isFailure,
      Operation.error?, room]
  | further n v pos raised =>
    have room := (limit n (by simp)).not.mpr (by simp)
    constructor <;> simp [Deed.notice?, foundFull, Deed.failure?, Deed.isFailure, room]

/-! ## Closes -/

section Closing

variable {p : Profile} {k : UInt64} {y : Except DeviceError Unit}

@[simp] lemma Session.failure?_closing :
    failure? s .shutdown (closing s p k y : List (Deed σ)) = Operation.shutdown.error? y := by
  cases y <;> simp [closing, Deed.failure?, Operation.error?]

@[simp] lemma Session.written_closing :
    written (closing s p k y : List (Deed σ)) =
      (Operation.shutdown.error? y).toList.map .shutdownFailed := by
  cases y <;> simp [closing, Deed.notice?, Operation.error?]

@[simp] lemma Session.countP_closing :
    (closing s p k y : List (Deed σ)).countP (Deed.isFailure .shutdown) =
      (Operation.shutdown.error? y).toList.length := by
  cases y <;> simp [closing, Deed.isFailure, Operation.error?]

lemma Session.not_waited_closing {e : DeviceError} :
    .received (.routine (.wait (.guard s) p.platform)) (.error e) ∉
      (closing s p k y : List (Deed σ)) := by
  cases y <;> simp [closing]

/-- The lines of a close that puts the hardware to rest, early being what it wrote when it found the
count. -/
lemma CloseJournal.of_shutDown (s : SessionId) (p : Profile) {n : UInt8} {early : List (Deed σ)}
    (h : early = if n = 0 then [.wrote .spuriousClose] else []) (k : UInt64)
    (y : Except DeviceError Unit) :
    CloseJournal s p (.received (.routine (.wait (.guard s) p.platform)) (.ok ()) ::
      .acted (.count s) n :: (early ++ Session.closing s p k y)) := by
  constructor
  · subst h
    by_cases none : n = 0 <;> simp [Deed.notice?, Deed.failure?, none]
  · intro none
    obtain rfl : n = 0 := by simpa using none
    rw [h, if_pos rfl]
    exact List.prefix_append [_, _, _] _
  · intro e failed
    have reported : Operation.shutdown.error? y = some e := by
      subst h
      by_cases none : n = 0 <;> simpa [Deed.failure?, none] using failed
    obtain rfl : y = .error e := by
      cases y with
      | ok _ => cases reported
      | error e' => rw [Option.some.inj reported]
    exact ⟨k, (List.suffix_append [_, _] _).trans (List.suffix_append (_ :: _ :: early) _)⟩
  · subst h
    by_cases none : n = 0 <;> simp [Deed.failure?, Deed.isFailure, none]
  · subst h
    by_cases none : n = 0 <;> simp [Session.not_waited_closing, none]

end Closing

/-- The lines of a close can be told from what it has done. -/
theorem Session.closeDevice_journal {d : List (Deed σ)} {x : Except DeviceError Unit}
    (h : Follows (closeDevice s) d (.done x)) :
    ∃ p d', d = .acted (.profile s) p :: d' ∧ CloseJournal s p d' := by
  obtain ⟨p, d', rfl, ⟨e, -, rfl⟩ | ⟨n, m, -, many, rfl⟩ | ⟨n, k, y, -, -, rfl⟩⟩ :=
    closeDevice_deeds h
  · refine ⟨p, _, rfl, ?_⟩
    constructor <;> simp [Deed.notice?, Deed.failure?, Deed.isFailure, found]
  · have some : n ≠ 0 := by
      rintro rfl
      exact absurd (UInt8.lt_iff_toNat_lt.mp many) (Nat.not_lt_zero _)
    refine ⟨p, _, rfl, ?_⟩
    constructor <;> simp [Deed.notice?, Deed.failure?, Deed.isFailure, some]
  · exact ⟨p, _, rfl, CloseJournal.of_shutDown s p rfl k y⟩

/-! ## Commands -/

/-- A program followed by another that are both done. -/
lemma Follows.of_bind {p : Action σ α} {f : α → Action σ β} {d : List (Deed σ)} {r : β}
    (h : Follows (p.bind f) d (.done r)) :
    ∃ a d₁ d₂, d = d₁ ++ d₂ ∧ Follows p d₁ (.done a) ∧ Follows (f a) d₂ (.done r) := by
  induction p generalizing d with
  | done a => exact ⟨a, [], d, rfl, .nil _, h⟩
  | ask q next ih =>
    cases q with
    | atom a =>
      obtain ⟨x, d', rfl, h'⟩ := h.of_atom
      obtain ⟨b, d₁, d₂, rfl, h₁, h₂⟩ := ih x h'
      exact ⟨b, .acted a x :: d₁, d₂, rfl, .acted h₁, h₂⟩
    | call c =>
      obtain ⟨x, d', rfl, h'⟩ := h.of_call
      obtain ⟨b, d₁, d₂, rfl, h₁, h₂⟩ := ih x h'
      exact ⟨b, .received c x :: d₁, d₂, rfl, .received h₁, h₂⟩

/-- A command with a number of its own is not announced. -/
lemma Command.announcement?_eq_none {c : Command} (typed : c.isTyped) : c.announcement? = none := by
  cases c with
  | passthrough n arg => cases typed
  | start | stop | setMode | setLimits | getState | setFault | getFault | cleanFault
  | setParams => rfl

/-- The failure of a command with a number of its own is written down with its name. -/
lemma Command.failureNotice_eq {c : Command} (typed : c.isTyped) (e : DeviceError) :
    c.failureNotice e = .commandFailed c.name e := by
  cases c with
  | passthrough n arg => cases typed
  | start | stop | setMode | setLimits | getState | setFault | getFault | cleanFault
  | setParams => rfl

namespace Session

variable {c : Command} {d : List (Deed σ)} {x : CommandAnswer}

/-- Holding a command against the policy makes no call, and for a command of the lower half's own it
takes nothing at all. -/
lemma admission_deeds {r : Option Refusal} (h : Follows (admission s c) d (.done r)) :
    (∀ y ∈ d, ∃ a z, y = .acted a z) ∧
      ∀ n arg, c = .passthrough n arg → d = [] ∧ r = Command.numberRefusal? n := by
  constructor
  · intro y hy
    have atom : (admission s c : Action σ _).Only fun q => ∃ a, q = Request.atom a :=
      admission_only ⟨_, rfl⟩ (fun _ _ => ⟨_, rfl⟩) ⟨_, rfl⟩
    obtain ⟨a, ha⟩ := h.asked atom y hy
    cases y with
    | acted b z => exact ⟨b, z, rfl⟩
    | received c z => cases ha
  · rintro n arg rfl
    exact h.of_done

/-- What a command that is passed on has done, and its answer. -/
lemma forward_deeds (h : Follows (forward s c) d (.done x)) :
    ∃ p answer, d = c.announcement?.toList.map Deed.wrote ++ [.acted (.profile s) p,
        .received (.peer (.operate .driver p.lower s c.operation c.args)) answer] ++
          (c.operation.error? answer).toList.map (fun e => Deed.wrote (c.failureNotice e)) ∧
      x = c.concluded answer := by
  rw [forward_eq] at h
  obtain ⟨_, d₁, d₂, rfl, h₁, h₂⟩ := h.of_bind
  have announced : d₁ = c.announcement?.toList.map Deed.wrote := by
    cases c with
    | passthrough n arg =>
      obtain ⟨_, d', rfl, h'⟩ := h₁.of_call
      obtain ⟨rfl, -⟩ := h'.of_done
      rfl
    | start | stop | setMode | setLimits | getState | setFault | getFault | cleanFault
    | setParams =>
      exact h₁.of_done.1
  obtain ⟨p, d₃, rfl, h₃⟩ := h₂.of_atom
  obtain ⟨answer, d₄, rfl, h₄⟩ := h₃.of_call
  refine ⟨p, answer, ?_⟩
  dsimp only [Program.bind_done] at h₄
  split at h₄
  · next v result =>
    obtain ⟨rfl, rfl⟩ := h₄.of_done
    simp [announced, Command.error?_eq_none result]
  · next e result =>
    obtain ⟨_, d₅, rfl, h₅⟩ := h₄.of_call
    obtain ⟨rfl, rfl⟩ := h₅.of_done
    simp [announced, (c.result_concluded_eq_error_iff answer e).mp result]

/-- Atoms write nothing. -/
lemma written_of_acted (h : ∀ y ∈ d, ∃ a z, y = .acted a z) : written d = [] := by
  refine List.filterMap_eq_nil_iff.mpr fun y hy => ?_
  obtain ⟨a, z, rfl⟩ := h y hy
  rfl

/-- The lines of a command can be told from what it has done and its answer. -/
theorem command_journal (h : Follows (command s c) d (.done x)) : CommandJournal s c d x := by
  obtain ⟨r, d₁, d₂, rfl, h₁, h₂⟩ := h.of_bind
  obtain ⟨looked, bare⟩ := admission_deeds h₁
  have silent := written_of_acted looked
  cases r with
  | some r =>
    obtain ⟨_, d₃, rfl, h₃⟩ := h₂.of_call
    obtain ⟨rfl, rfl⟩ := h₃.of_done
    constructor
    · intro _ v ok
      cases ok
    · intro _ e failed
      exact ⟨d₁, .refused r, rfl, silent, rfl, .inl ⟨r, rfl, Except.error.inj failed, looked⟩⟩
    · intro n arg hc reserved
      obtain ⟨rfl, hr⟩ := bare n arg hc
      simp only [Command.numberRefusal?, reserved, if_true, Option.some.injEq] at hr
      rw [hr]
      rfl
    · intro n arg hc other
      obtain ⟨-, hr⟩ := bare n arg hc
      simp [Command.numberRefusal?, other] at hr
  | none =>
    obtain ⟨p, answer, rfl, rfl⟩ := forward_deeds h₂
    constructor
    · intro typed v ok
      simp [silent, Command.announcement?_eq_none typed, Command.error?_eq_none ok, Deed.notice?]
    · intro typed e failed
      have reported := (c.result_concluded_eq_error_iff answer e).mp failed
      refine ⟨d₁ ++ [.acted (.profile s) p,
        .received (.peer (.operate .driver p.lower s c.operation c.args)) answer],
        .commandFailed c.name e, ?_, ?_, rfl,
        .inr ⟨d₁ ++ [.acted (.profile s) p], p.lower, answer, ?_, reported, rfl⟩⟩
      · simp [Command.announcement?_eq_none typed, reported, Command.failureNotice_eq typed]
      · simp [silent, Deed.notice?]
      · simp
    · intro n arg hc reserved
      obtain ⟨-, hr⟩ := bare n arg hc
      simp [Command.numberRefusal?, reserved] at hr
    · intro n arg hc other
      obtain ⟨rfl, -⟩ := bare n arg hc
      subst hc
      refine ⟨p, answer, ?_⟩
      obtain ⟨result, left⟩ := answer
      cases result <;> rfl

end Session

end LedDriver
