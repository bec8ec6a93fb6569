import LedDriver.Proofs.Journal.Lines
import LedDriver.Proofs.Lifecycle.References

/-!
# The account of the journal

How many lines a whole run writes.  Every line that was written is recorded once, among the deeds of
a call that ended or of a program in progress (`Runs.recorded_received`), and so is every failure of
the hardware; the lines of a call that ended are accounted for by its failures and its answer
(`Runs.accounted`).  In every run the lines are therefore in balance with the occasions for one,
programs in progress included (`Runs.lineBalance`).  Where no open, close or command is in progress,
there are as many lines of an error as commands that failed, commands with a number of another, and
failures to set the hardware up or to put it to rest; as many warnings as opens that found the
greatest count; and as many lines for a debugger as commands that were passed on for the lower half,
failures of these, and closes that found no reference (`Runs.journal`).
-/

namespace LedDriver

variable {σ α : Type} {n : Nat} {s : SessionId}

/-- The deed writes a line of a severity. -/
def Deed.writes (v : Severity) (y : Deed σ) : Bool :=
  (y.notice?.map fun m => decide (m.severity = v)).getD false

/-- The lines of a severity that a program has written itself. -/
lemma countP_writes (v : Severity) (d : List (Deed σ)) :
    d.countP (Deed.writes v) = (written d).countP fun m => m.severity = v :=
  List.countP_filterMap.symm

/-! ## Steps -/

namespace Label

/-- The step ends a call, and its answer is a deed of a kind for the program that made it. -/
def receives (q : Deed σ → Bool) : Label σ → Bool
  | returned c _ x _ => q (.received c x)
  | acted _ _ | called _ => false

/-- A command with a number of its own failed. -/
def isFailedTyped : Label σ → Bool
  | returned (.service (.command _ c)) _ x _ => c.isTyped && !x.result.isOk
  | _ => false

/-- A command with a number of another ended. -/
def isReserved : Label σ → Bool
  | returned (.service (.command _ (.passthrough m _))) _ _ _ => Command.isReserved m
  | _ => false

/-- A command of the lower half's own ended. -/
def isForwarded : Label σ → Bool
  | returned (.service (.command _ (.passthrough m _))) _ _ _ => !Command.isReserved m
  | _ => false

/-- A command of the lower half's own failed. -/
def isForwardFailed : Label σ → Bool
  | returned (.service (.command _ (.passthrough m _))) _ x _ =>
    !Command.isReserved m && !x.result.isOk
  | _ => false

/-- An open found the greatest count of references. -/
def isRefusedOpen : Label σ → Bool
  | returned (.service (.openDevice s)) _ _ (.acted (.profile _) p :: d) => foundFull s p d
  | _ => false

/-- A close found no reference. -/
def isSpuriousClose : Label σ → Bool
  | returned (.service (.closeDevice s)) _ _ d => found s d = some 0
  | _ => false

end Label

/-! ## Programs that write none of these lines -/

/-- A session serves the call: it is an open, a close or a command. -/
def Call.Serves : Call → Prop
  | .service (.openDevice _) | .service (.closeDevice _) | .service (.command _ _) => True
  | _ => False

/-- A question that has the driver neither call a lower half nor write a line about a session. -/
def Request.Silent : Request σ → Prop
  | .call (.peer (.log m)) => m.severity = .fatal ∨ m.severity = .info
  | .call (.peer (.operate .driver _ _ _ _)) => False
  | _ => True

/-- A registration writes about the registration. -/
lemma Registration.register_silent (r : RegistrationRequest) :
    (register r : Action σ _).Only Request.Silent := by
  have abandoned (x : Registration) : (abandon r.lower x : Action σ _).Only Request.Silent :=
    Program.only_ask trivial fun _ => trivial
  have published (s : SessionId) : (publish r s : Action σ _).Only Request.Silent := by
    unfold publish DeviceTable.use
    split
    · split
      · trivial
      · exact locked_only trivial trivial trivial
    · exact Program.only_query trivial
  unfold register
  split
  · exact abandoned _
  · split
    · exact abandoned _
    · refine Program.only_ask trivial fun set => ?_
      dsimp only
      split
      · refine Program.only_ask trivial fun s => (published s).bind fun x => ?_
        cases x with
        | error e => exact abandoned _
        | ok _ => exact Program.only_ask (.inr rfl) fun _ => trivial
      · exact Program.only_ask (.inl rfl) fun _ => abandoned _

namespace Board

variable {B : Board σ}

/-- Only opens, closes and commands of a session are written about. -/
lemma source_silent (main : Reaction σ α) {o : Option Call} (ho : ∀ c, o = some c → ¬ c.Serves) :
    (B.source main.action o).Only Request.Silent := by
  cases o with
  | none => exact main.action_only (fun _ => trivial) fun _ => trivial
  | some c =>
    cases c with
    | peer c => exact (B.reaction c).action_only (fun _ => trivial) fun _ => trivial
    | routine c =>
      refine (B.program_asks (.routine c)).mono fun q asked => ?_
      cases asked <;> trivial
    | service c =>
      have other := ho _ rfl
      have asks := B.program_asks (.service c)
      cases c with
      | openDevice s => exact absurd trivial other
      | closeDevice s => exact absurd trivial other
      | command s c => exact absurd trivial other
      | register r => exact Registration.register_silent r
      | control | operate | provided | openCount | config | table | tryWait | wait | post =>
        refine asks.mono fun q asked => ?_
        cases asked <;> trivial

end Board

/-- What a silent question answers is no line about a session and no failure of its hardware. -/
lemma Deed.silent {y : Deed σ} (h : y.request.Silent) :
    (∀ v ∈ [Severity.error, .warn, .debug], y.writes v = false) ∧ ∀ o, y.isFailure o = false := by
  constructor
  · intro v hv
    unfold Deed.writes Deed.notice?
    split
    · next m _ =>
      have about : m.severity = .fatal ∨ m.severity = .info := h
      have other : m.severity ≠ v := by
        rintro rfl
        rcases about with same | same <;> simp [same] at hv
      simp [other]
    · rfl
  · intro o
    unfold Deed.isFailure
    split
    · exact h.elim
    · rfl

/-- A program that asks silent questions writes no line about a session and meets no failure of its
hardware. -/
lemma countP_of_silent {p q : Action σ α} {d : List (Deed σ)} (h : Follows p d q)
    (silent : p.Only Request.Silent) :
    (∀ v ∈ [Severity.error, .warn, .debug], d.countP (Deed.writes v) = 0) ∧
      ∀ o, d.countP (Deed.isFailure o) = 0 := by
  have each (y : Deed σ) (hy : y ∈ d) := y.silent (h.asked silent y hy)
  constructor
  · exact fun v hv => List.countP_eq_zero.mpr fun y hy => by simp [(each y hy).1 v hv]
  · exact fun o => List.countP_eq_zero.mpr fun y hy => by simp [(each y hy).2 o]

/-! ## Calls that ended -/

/-- The lines of an open, counted. -/
lemma OpenJournal.counts {p : Profile} {d : List (Deed σ)} {x : Except DeviceError Unit}
    (h : OpenJournal s p d x) :
    d.countP (Deed.writes .error) = d.countP (Deed.isFailure .setup) ∧
      d.countP (Deed.writes .warn) = (foundFull s p d).toNat ∧
      d.countP (Deed.writes .debug) = 0 := by
  simp only [countP_writes, h.lines, h.once]
  cases foundFull s p d <;> cases failure? s .setup d <;> simp [Notice.severity]

/-- The lines of a close, counted. -/
lemma CloseJournal.counts {p : Profile} {d : List (Deed σ)} (h : CloseJournal s p d) :
    d.countP (Deed.writes .error) = d.countP (Deed.isFailure .shutdown) ∧
      d.countP (Deed.writes .warn) = 0 ∧
      d.countP (Deed.writes .debug) = (found s d = some 0 : Bool).toNat := by
  simp only [countP_writes, h.lines, h.once]
  by_cases none : found s d = some 0 <;> cases failure? s .shutdown d <;>
    simp [Notice.severity, none]

/-- The lines of a command with a number of its own, counted. -/
lemma CommandJournal.counts_of_isTyped {c : Command} {d : List (Deed σ)} {x : CommandAnswer}
    (h : CommandJournal s c d x) (typed : c.isTyped) :
    d.countP (Deed.writes .error) = (!x.result.isOk).toNat ∧ d.countP (Deed.writes .warn) = 0 ∧
      d.countP (Deed.writes .debug) = 0 := by
  simp only [countP_writes]
  cases result : x.result with
  | ok v =>
    rw [h.succeeded typed v result]
    exact ⟨rfl, rfl, rfl⟩
  | error e =>
    obtain ⟨d', m, rfl, silent, severity, -⟩ := h.failed typed e result
    simp [silent, Deed.notice?, severity, Except.isOk, Except.toBool]

/-- The lines of a command of the lower half's own, counted. -/
lemma CommandJournal.counts_of_passthrough {m : UInt32} {arg : CommandArg} {d : List (Deed σ)}
    {x : CommandAnswer} (h : CommandJournal s (.passthrough m arg) d x) :
    d.countP (Deed.writes .error) = (Command.isReserved m).toNat ∧
      d.countP (Deed.writes .warn) = 0 ∧
      d.countP (Deed.writes .debug) =
        (!Command.isReserved m).toNat + (!Command.isReserved m && !x.result.isOk).toNat := by
  simp only [countP_writes]
  by_cases reserved : Command.isReserved m
  · rw [h.reserved m arg rfl reserved, reserved]
    exact ⟨rfl, rfl, rfl⟩
  · obtain ⟨p, answer, rfl⟩ := h.forwarded m arg rfl reserved
    cases x.result <;> simp [Deed.notice?, Notice.severity, reserved, Except.isOk, Except.toBool]

/-- Only an open meets a failure to set the hardware up. -/
lemma countP_isFailure_setup {c : Call} {d : List (Deed σ)} (asked : ∀ y ∈ d, c.Asks y.request)
    (other : ∀ s, c ≠ .service (.openDevice s)) : d.countP (Deed.isFailure .setup) = 0 := by
  refine List.countP_eq_zero.mpr fun y hy failed => ?_
  unfold Deed.isFailure at failed
  split at failed
  · next h s o args x =>
    obtain ⟨rfl, -⟩ : o = .setup ∧ _ := by simpa using failed
    exact other s (Option.some.inj (Call.eq_of_allows_setup (o := some c) (asked _ hy)))
  · cases failed

/-- Only a close meets a failure to put the hardware to rest. -/
lemma countP_isFailure_shutdown {c : Call} {d : List (Deed σ)} (asked : ∀ y ∈ d, c.Asks y.request)
    (other : ∀ s, c ≠ .service (.closeDevice s)) : d.countP (Deed.isFailure .shutdown) = 0 := by
  refine List.countP_eq_zero.mpr fun y hy failed => ?_
  unfold Deed.isFailure at failed
  split at failed
  · next h s o args x =>
    obtain ⟨rfl, -⟩ : o = .shutdown ∧ _ := by simpa using failed
    exact other s (Option.some.inj (Call.eq_of_allows_shutdown (o := some c) (asked _ hy)))
  · cases failed

/-- The lines in a call that ended are accounted for by failures of its hardware and by its
answer. -/
structure Label.Accounted (e : Label σ) : Prop where
  errors : e.deeds.countP (Deed.writes .error) = e.deeds.countP (Deed.isFailure .setup) +
    e.deeds.countP (Deed.isFailure .shutdown) + e.isFailedTyped.toNat + e.isReserved.toNat
  warnings : e.deeds.countP (Deed.writes .warn) = e.isRefusedOpen.toNat
  debugs : e.deeds.countP (Deed.writes .debug) =
    e.isForwarded.toNat + e.isForwardFailed.toNat + e.isSpuriousClose.toNat

lemma writes_cons {a : Atom σ} {x : a.Answer} {d : List (Deed σ)} {v : Severity} :
    (Deed.acted a x :: d).countP (Deed.writes v) = d.countP (Deed.writes v) :=
  List.countP_cons_of_neg Bool.false_ne_true

lemma fails_cons {a : Atom σ} {x : a.Answer} {d : List (Deed σ)} {o : Operation} :
    (Deed.acted a x :: d).countP (Deed.isFailure o) = d.countP (Deed.isFailure o) :=
  List.countP_cons_of_neg Bool.false_ne_true

/-- A call that no session serves accounts for no line. -/
lemma Label.accounted_of_silent {c : Call} {w : World σ} {x : c.Answer} {d : List (Deed σ)}
    (other : ¬ c.Serves)
    (silent : (∀ v ∈ [Severity.error, .warn, .debug], d.countP (Deed.writes v) = 0) ∧
      ∀ o, d.countP (Deed.isFailure o) = 0) : (Label.returned c w x d).Accounted := by
  obtain ⟨none, failures⟩ := silent
  have errors := none .error (by simp)
  have warnings := none .warn (by simp)
  have debugs := none .debug (by simp)
  cases c with
  | service c =>
    cases c with
    | openDevice | closeDevice | command => exact absurd trivial other
    | control | operate | provided | openCount | config | register | table | tryWait | wait
    | post =>
      exact ⟨by rw [Label.deeds_returned, errors, failures, failures]; rfl, warnings, debugs⟩
  | routine | peer =>
    exact ⟨by rw [Label.deeds_returned, errors, failures, failures]; rfl, warnings, debugs⟩

namespace Pool

variable {B : Board σ} {P Q : Pool n σ α} {l : List (Fin n × Label σ)} {own : σ}
  {clients : Fin n → Reaction σ α}

/-- Every answer that was received is recorded once, among the deeds of a call that ended or of a
program in progress. -/
theorem Runs.recorded_received (run : Runs B (start own clients) l P) (q : Deed σ → Bool)
    (hq : ∀ a x, q (.acted a x) = false) :
    l.countP (fun e => e.2.receives q) =
      (l.map fun e => e.2.deeds.countP q).sum + (P.frames.map fun f => f.past.countP q).sum := by
  induction run with
  | refl => simp [frames_start]
  | @tail Q R l e run step ih =>
    obtain ⟨i, e⟩ := e
    obtain ⟨old, new, rest, hold, hnew, turn⟩ := run.turn_frames step
    rw [hold] at ih
    rw [hnew]
    generalize hw : R.world = w at turn
    cases turn with
    | act _ _ =>
      simp [Label.receives, Label.deeds, hq] at ih ⊢
      omega
    | call _ =>
      simp [Label.receives, Label.deeds] at ih ⊢
      omega
    | «return» _ _ =>
      simp [Label.receives, Label.deeds, List.countP_cons] at ih ⊢
      omega

/-- The lines in every call that ended are accounted for. -/
theorem Runs.accounted (run : Runs B (start own clients) l P) {e : Fin n × Label σ} (he : e ∈ l) :
    e.2.Accounted := by
  obtain ⟨i, e⟩ := e
  cases e with
  | acted a x => exact ⟨rfl, rfl, rfl⟩
  | called c => exact ⟨rfl, rfl, rfl⟩
  | returned c w x d =>
    have complete := run.follows_of_returned he
    have asked := complete.asked (B.program_asks c)
    by_cases serves : c.Serves
    · cases c with
      | service c =>
        cases c with
        | openDevice s =>
          obtain ⟨p, d', rfl, lines⟩ := Session.openDevice_journal complete
          obtain ⟨errors, warnings, debugs⟩ := lines.counts
          have rested := countP_isFailure_shutdown asked nofun
          exact ⟨by rw [Label.deeds_returned, rested, writes_cons, fails_cons, errors]; rfl,
            by rw [Label.deeds_returned, writes_cons, warnings]; rfl,
            by rw [Label.deeds_returned, writes_cons, debugs]; rfl⟩
        | closeDevice s =>
          obtain ⟨p, d', rfl, lines⟩ := Session.closeDevice_journal complete
          obtain ⟨errors, warnings, debugs⟩ := lines.counts
          have unset := countP_isFailure_setup asked nofun
          exact ⟨by rw [Label.deeds_returned, unset, writes_cons, fails_cons, errors,
              Nat.zero_add]; rfl,
            by rw [Label.deeds_returned, writes_cons, warnings]; rfl,
            by rw [Label.deeds_returned, writes_cons, debugs]; exact (Nat.zero_add _).symm⟩
        | command s c =>
          have lines := Session.command_journal complete
          have unset := countP_isFailure_setup asked nofun
          have rested := countP_isFailure_shutdown asked nofun
          cases c with
          | passthrough m arg =>
            obtain ⟨errors, warnings, debugs⟩ := lines.counts_of_passthrough
            exact ⟨by rw [Label.deeds_returned, unset, rested, errors]; exact (Nat.zero_add _).symm,
              warnings, debugs⟩
          | start | stop | setMode | setLimits | getState | setFault | getFault | cleanFault
          | setParams =>
            obtain ⟨errors, warnings, debugs⟩ := lines.counts_of_isTyped rfl
            exact ⟨by rw [Label.deeds_returned, unset, rested, errors]; exact (Nat.zero_add _).symm,
              warnings, debugs⟩
        | control | operate | provided | openCount | config | register | table | tryWait | wait
        | post =>
          exact serves.elim
      | routine c => exact serves.elim
      | peer c => exact serves.elim
    · have silent : (B.program c).Only Request.Silent :=
        Board.source_silent (o := some c) (clients i) (by rintro _ ⟨⟩; exact serves)
      exact Label.accounted_of_silent serves (countP_of_silent complete silent)

/-- A number is the sum of its occasions. -/
lemma sum_toNat {κ : Type} (l : List κ) (p : κ → Bool) :
    (l.map fun x => (p x).toNat).sum = l.countP p := by
  induction l with
  | nil => rfl
  | cons x l ih =>
    rw [List.map_cons, List.sum_cons, ih, List.countP_cons]
    cases p x <;> simp [Nat.add_comm]

/-- The number of deeds of a kind in the programs in progress. -/
def inProgress (P : Pool n σ α) (q : Deed σ → Bool) : Nat :=
  (P.frames.map fun f => f.past.countP q).sum

/-- The lines in a run are as many as its occasions for a line, but for what was done by programs in
progress: they may have met a failure that is not written down yet, or written a line about a call
that did not end yet. -/
structure LineBalance (l : List (Fin n × Label σ)) (P : Pool n σ α) : Prop where
  /-- A line of an error is written for each failure to set the hardware up or to put it to rest,
  for each command with a number of its own that failed, and for each command with a number of
  another. -/
  errors : l.countP (fun e => e.2.receives (Deed.writes .error)) +
        (P.inProgress (Deed.isFailure .setup) + P.inProgress (Deed.isFailure .shutdown)) =
      l.countP (fun e => e.2.receives (Deed.isFailure .setup)) +
          l.countP (fun e => e.2.receives (Deed.isFailure .shutdown)) +
          l.countP (fun e => e.2.isFailedTyped) + l.countP (fun e => e.2.isReserved) +
        P.inProgress (Deed.writes .error)
  /-- A warning is written for each open that found the greatest count. -/
  warnings : l.countP (fun e => e.2.receives (Deed.writes .warn)) =
    l.countP (fun e => e.2.isRefusedOpen) + P.inProgress (Deed.writes .warn)
  /-- A line for a debugger is written for each command of the lower half's own, for each of these
  that failed, and for each close that found no reference. -/
  debugs : l.countP (fun e => e.2.receives (Deed.writes .debug)) =
    l.countP (fun e => e.2.isForwarded) + l.countP (fun e => e.2.isForwardFailed) +
      l.countP (fun e => e.2.isSpuriousClose) + P.inProgress (Deed.writes .debug)

/-- The lines of every run are in balance with its occasions for a line. -/
theorem Runs.lineBalance (run : Runs B (start own clients) l P) : LineBalance l P := by
  have lines (v : Severity) := run.recorded_received (Deed.writes v) fun _ _ => rfl
  have failures (o : Operation) := run.recorded_received (Deed.isFailure o) fun _ _ => rfl
  have count (p : Label σ → Bool) :
      l.countP (fun e => p e.2) = (l.map fun e => (p e.2).toNat).sum :=
    (sum_toNat l _).symm
  have errors := congrArg List.sum (List.map_congr_left fun e he => (run.accounted he).errors)
  have warnings := congrArg List.sum (List.map_congr_left fun e he => (run.accounted he).warnings)
  have debugs := congrArg List.sum (List.map_congr_left fun e he => (run.accounted he).debugs)
  simp only [List.sum_map_add, ← count] at errors warnings debugs
  constructor
  · rw [lines, failures, failures, errors]
    unfold inProgress
    omega
  · rw [lines, warnings]
    rfl
  · rw [lines, debugs]
    rfl

/-- No open, close or command is in progress. -/
def AtRest (P : Pool n σ α) : Prop :=
  ∀ i, ∀ f ∈ (P.parties i).frames, ∀ c, f.owner = some c → ¬ c.Serves

/-- Where no open, close or command is in progress, no program in progress has written about a
session or met a failure of its hardware. -/
lemma Runs.inProgress_eq_zero (run : Runs B (start own clients) l P) (rest : P.AtRest) :
    (∀ v ∈ [Severity.error, .warn, .debug], P.inProgress (Deed.writes v) = 0) ∧
      ∀ o, P.inProgress (Deed.isFailure o) = 0 := by
  have idle (f : Frame σ) (hf : f ∈ P.frames) :
      (∀ v ∈ [Severity.error, .warn, .debug], f.past.countP (Deed.writes v) = 0) ∧
        ∀ o, f.past.countP (Deed.isFailure o) = 0 := by
    obtain ⟨i, hf⟩ := mem_frames_iff.mp hf
    obtain ⟨q, follows⟩ := (run.lawful i).exists_follows hf
    exact countP_of_silent follows (Board.source_silent (clients i) (rest i f hf))
  have nothing {q : Deed σ → Bool} (none : ∀ f ∈ P.frames, f.past.countP q = 0) :
      P.inProgress q = 0 := by
    refine Multiset.sum_eq_zero fun m hm => ?_
    obtain ⟨f, hf, rfl⟩ := Multiset.mem_map.mp hm
    exact none f hf
  exact ⟨fun v hv => nothing fun f hf => (idle f hf).1 v hv,
    fun o => nothing fun f hf => (idle f hf).2 o⟩

/-- Every command, open and close that ended has written the lines that its deeds and its answer
call for, each once and in its place.  In every run the lines are in balance with the failures and
the other occasions for a line, and where no open, close or command is in progress they are as
many. -/
theorem Runs.journal (run : Runs B (start own clients) l P) :
    (∀ i s c w x d, (i, .returned (.service (.command s c)) w x d) ∈ l → CommandJournal s c d x) ∧
      (∀ i s w x d, (i, .returned (.service (.openDevice s)) w x d) ∈ l →
        ∃ p d', d = .acted (.profile s) p :: d' ∧ OpenJournal s p d' x) ∧
      (∀ i s w x d, (i, .returned (.service (.closeDevice s)) w x d) ∈ l →
        ∃ p d', d = .acted (.profile s) p :: d' ∧ CloseJournal s p d') ∧
      LineBalance l P ∧
      (P.AtRest →
        l.countP (fun e => e.2.receives (Deed.writes .error)) =
            l.countP (fun e => e.2.receives (Deed.isFailure .setup)) +
              l.countP (fun e => e.2.receives (Deed.isFailure .shutdown)) +
              l.countP (fun e => e.2.isFailedTyped) + l.countP (fun e => e.2.isReserved) ∧
          l.countP (fun e => e.2.receives (Deed.writes .warn)) =
            l.countP (fun e => e.2.isRefusedOpen) ∧
          l.countP (fun e => e.2.receives (Deed.writes .debug)) =
            l.countP (fun e => e.2.isForwarded) + l.countP (fun e => e.2.isForwardFailed) +
              l.countP (fun e => e.2.isSpuriousClose)) := by
  have balance := run.lineBalance
  refine ⟨?_, ?_, ?_, balance, ?_⟩
  · intro i s c w x d he
    exact Session.command_journal (run.follows_of_returned he)
  · intro i s w x d he
    exact Session.openDevice_journal (run.follows_of_returned he)
  · intro i s w x d he
    exact Session.closeDevice_journal (run.follows_of_returned he)
  · intro rest
    obtain ⟨silent, sound⟩ := run.inProgress_eq_zero rest
    obtain ⟨errors, warnings, debugs⟩ := balance
    simp only [silent, sound, List.mem_cons, true_or, or_true, Nat.add_zero]
      at errors warnings debugs
    exact ⟨errors, warnings, debugs⟩

/-- A client that opens a device, starts it, passes a command on and closes the device. -/
def visiting : Reaction Unit Unit := do
  let _ ← (Service.register ⟨"/dev/led", 0, 0, Config.default, none⟩).use
  let _ ← (Service.openDevice 0).use
  let _ ← (Service.command 0 .start).use
  let _ ← (Service.command 0 (.passthrough 7 (.value 0))).use
  let _ ← (Service.closeDevice 0).use
  pure ()

/-- Where the hardware cannot be set up, the open and the start that is refused write a line of an
error each, and the command that is passed on and the close of a device with no reference a line for
a debugger each. -/
theorem journal_visiting :
    ∃ (l : List (Fin 1 × Label Unit)) (P : Pool 1 Unit Unit),
      Runs (.obedient (pure (.error .io))) (start () fun _ => visiting) l P ∧ P.AtRest ∧
        l.countP (fun e => e.2.receives (Deed.isFailure .setup)) = 1 ∧
        l.countP (fun e => e.2.isFailedTyped) = 1 ∧ l.countP (fun e => e.2.isForwarded) = 1 ∧
        l.countP (fun e => e.2.isSpuriousClose) = 1 ∧
        l.countP (fun e => e.2.receives (Deed.writes .error)) = 2 ∧
        l.countP (fun e => e.2.receives (Deed.writes .warn)) = 0 ∧
        l.countP (fun e => e.2.receives (Deed.writes .debug)) = 2 := by
  have h : ((start () fun _ => visiting : Pool 1 Unit Unit).play
      (.obedient (pure (.error .io))) (.replicate 67 0)).isSome := rfl
  obtain ⟨l, P, run, owners, failures, rested, typed, reserved, refused, forwarded, failed,
    spurious⟩ :
      ∃ (l : List (Fin 1 × Label Unit)) (P : Pool 1 Unit Unit),
        Runs (.obedient (pure (.error .io))) (start () fun _ => visiting) l P ∧
          (P.parties 0).frames.map Frame.owner = [none] ∧
          l.countP (fun e => e.2.receives (Deed.isFailure .setup)) = 1 ∧
          l.countP (fun e => e.2.receives (Deed.isFailure .shutdown)) = 0 ∧
          l.countP (fun e => e.2.isFailedTyped) = 1 ∧ l.countP (fun e => e.2.isReserved) = 0 ∧
          l.countP (fun e => e.2.isRefusedOpen) = 0 ∧ l.countP (fun e => e.2.isForwarded) = 1 ∧
          l.countP (fun e => e.2.isForwardFailed) = 0 ∧
          l.countP (fun e => e.2.isSpuriousClose) = 1 :=
    ⟨_, _, runs_of_isSome h, rfl, rfl, rfl, rfl, rfl, rfl, rfl, rfl, rfl⟩
  have rest : P.AtRest := by
    intro i f hf c hc
    obtain rfl : i = 0 := Subsingleton.elim _ _
    have mem := List.mem_map_of_mem (f := Frame.owner) hf
    rw [owners, hc] at mem
    simp at mem
  obtain ⟨-, -, -, -, counts⟩ := run.journal
  obtain ⟨errors, warnings, debugs⟩ := counts rest
  rw [failures, rested, typed, reserved] at errors
  rw [refused] at warnings
  rw [forwarded, failed, spurious] at debugs
  exact ⟨l, P, run, rest, failures, typed, forwarded, spurious, errors, warnings, debugs⟩

end Pool

end LedDriver
