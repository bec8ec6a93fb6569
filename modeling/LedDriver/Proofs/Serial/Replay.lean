import LedDriver.Proofs.Serial.Served

/-!
# Replaying a call

A call that runs alone does again what an open or a close has done that got the permit in the same
state: it has the same answer, the same work of the hardware done, and leaves the same count and the
same state of the hardware (`Board.perform_served`).

`Board.Leads` says what a program does in every world that looks in a certain way, when it runs
alone.  There is a rule for each way in which a program can begin, and from these rules the programs
of an open and of a close are put together.
-/

namespace LedDriver

variable {σ τ α β : Type}

/-- The world with another open count of a session and another state of the surroundings. -/
def World.change (w : World τ) (s : SessionId) (m : UInt8) (t : τ) : World τ :=
  { w with count := update w.count s m, own := t }

namespace World

variable {w : World τ} {s : SessionId} {m m' : UInt8} {t t' : τ}

@[simp] lemma count_change : (w.change s m t).count s = m := update_self ..

@[simp] lemma change_change : (w.change s m t).change s m' t' = w.change s m' t' := by
  simp [change]

@[simp] lemma change_self : w.change s (w.count s) w.own = w := by
  simp [change]

/-- A world that looks changed differs in nothing else that a call of the session goes by. -/
lemma of_map_change {view : σ → τ} {v w : World σ} (h : v.map view = (w.map view).change s m t) :
    v.issued = w.issued ∧ v.profile = w.profile ∧ v.semaphore = w.semaphore ∧ v.count s = m ∧
      view v.own = t := by
  obtain ⟨issued, profile, -, count, semaphore, -, own⟩ := (World.mk.injEq ..).mp h
  exact ⟨issued, profile, semaphore, (congrFun count s).trans (update_self ..), own⟩

end World

namespace CallTree

/-- A call that was carried out, as a deed of the program that made it. -/
def deed (t : CallTree σ) : Deed σ := .received t.call t.answer

/-- What the calls of a list have made the hardware of a session do, with the results. -/
def works (s : SessionId) (ts : List (CallTree σ)) : List (Deed σ) :=
  (ts.map deed).filter (Deed.isWork s)

lemma works_append (s : SessionId) (ts us : List (CallTree σ)) :
    works s (ts ++ us) = works s ts ++ works s us := by simp [works]

end CallTree

/-- Run alone in any world that looks in a certain way, a program has a certain result, leaves a
world that looks in a certain way, and has the hardware of a session do certain work. -/
def Board.Leads (B : Board σ) (s : SessionId) (view : σ → τ) (depth : Nat) (u : World τ)
    (p : Action σ α) (a : α) (u' : World τ) (hs : List (Deed σ)) : Prop :=
  ∀ w, w.map view = u → ∃ y, B.run depth p w = .ok y ∧ y.result = a ∧ y.world.map view = u' ∧
    CallTree.works s y.calls = hs

/-- The surroundings do again what they have done, if the part of their state that they go by is the
same. -/
lemma Reaction.run_again (B : Board σ) {view : σ → τ} (depth : Nat) {r : Reaction σ α}
    (own : r.Only Use.IsOwn) (goes : r.GoesBy view) {d : List (Deed σ)} {x : α} {t t' : τ}
    (h : Follows r.action d (.done x)) (path : Path (Deed.Moves view) t d t') {w : World σ}
    (hw : view w.own = t) :
    ∃ b, B.run depth r.action w = .ok ⟨x, { w with own := b }, []⟩ ∧ view b = t' := by
  induction r generalizing d t w with
  | done a =>
    obtain ⟨rfl, rfl⟩ := h.of_done
    cases path
    exact ⟨w.own, rfl, hw⟩
  | ask u next ih =>
    cases u with
    | service c => exact own.1.elim
    | own f =>
      have begun : Follows (.ask (.atom (.own f)) fun a => Reaction.action (next a)) d (.done x) :=
        h
      obtain ⟨a, d', rfl, rest⟩ := begun.of_atom
      obtain ⟨_, ⟨f', a', same, seen, rfl⟩, path⟩ := path
      cases same
      obtain ⟨moved, next_eq⟩ := goes.1 a w.own (seen.trans hw.symm)
      rw [next_eq] at rest
      obtain ⟨b, run, after⟩ := ih w.own (own.2 _) (goes.2 _) rest path
        (w := { w with own := f w.own }) moved.symm
      exact ⟨b, Board.run_own_iff.mpr run, after⟩

namespace Board

/-- Where there is a permit, a party that runs alone takes it at the first attempt. -/
lemma perform_wait (B : Board σ) (depth : Nat) {w : World σ} {g : SemaphoreId} (p : PlatformId)
    (free : (w.semaphore g).permits ≠ 0) (session : w.Has g) : ∃ inner,
    B.perform (depth + 3) (.routine (.wait g p)) w =
      .ok ⟨.ok (), w.taken g, [.node (.routine (.wait g p)) w (.ok ()) (w.taken g) inner]⟩ := by
  obtain ⟨inner, tried⟩ := B.perform_tryWait_free depth session free
  have waited : B.run (depth + 2) (Semaphore.wait g p) w = .ok ⟨.ok (), w.taken g, _⟩ :=
    run_call_iff.mpr ⟨_, _, tried, rfl, rfl⟩
  exact ⟨_, perform_succ_iff.mpr ⟨_, waited, rfl⟩⟩

namespace Leads

variable {B : Board σ} {s : SessionId} {view : σ → τ} {depth : Nat} {u v u' : World τ} {a : α}
  {b : β} {hs hs' : List (Deed σ)}

/-- A program that is done. -/
lemma done : B.Leads s view depth u (.done a) a u [] := fun _ hw => ⟨_, rfl, rfl, hw, rfl⟩

/-- A program that begins with an atom. -/
lemma atom {c : Atom σ} {x : c.Answer} {next : c.Answer → Action σ α}
    (session : ∀ e, c.session? = some e → e < u.issued)
    (effect : ∀ w : World σ, w.map view = u → ∃ w', c.effect w = .ok (x, w') ∧ w'.map view = v)
    (rest : B.Leads s view depth v (next x) a u' hs) :
    B.Leads s view depth u (.ask (.atom c) next) a u' hs := by
  intro w hw
  obtain ⟨w', taken, hw'⟩ := effect w hw
  have issued : w.issued = u.issued := congrArg World.issued hw
  rw [← issued] at session
  rw [run_atom (Atom.apply_eq_ok_iff.mpr ⟨session, taken⟩)]
  exact rest w' hw'

/-- A program that begins with a call. -/
lemma call {c : Call} {x : c.Answer} {next : c.Answer → Action σ α}
    (made : ∀ w : World σ, w.map view = u → ∃ w' inner,
      B.perform depth c w = .ok ⟨x, w', [.node c w x w' inner]⟩ ∧ w'.map view = v)
    (rest : B.Leads s view depth v (next x) a u' hs) :
    B.Leads s view depth u (.ask (.call c) next) a u'
      ([.received c x].filter (Deed.isWork s) ++ hs) := by
  intro w hw
  obtain ⟨w', inner, performed, hw'⟩ := made w hw
  obtain ⟨y, run, result, after, done⟩ := rest w' hw'
  refine ⟨_, run_call_iff.mpr ⟨_, y, performed, run, rfl⟩, result, after, ?_⟩
  rw [CallTree.works_append, done]
  rfl

/-- One program and then another. -/
lemma bind {p : Action σ α} {f : α → Action σ β} (first : B.Leads s view depth u p a v hs)
    (second : B.Leads s view depth v (f a) b u' hs') :
    B.Leads s view depth u (p.bind f) b u' (hs ++ hs') := by
  intro w hw
  obtain ⟨y, run, rfl, hy, rfl⟩ := first w hw
  obtain ⟨z, run', rfl, hz, rfl⟩ := second y.world hy
  exact ⟨_, run_bind_iff.mpr ⟨y, z, run, run', rfl⟩, rfl, hz, CallTree.works_append ..⟩

/-- One program, and then another that has nothing more done. -/
lemma bind_idle {p : Action σ α} {f : α → Action σ β} (first : B.Leads s view depth u p a v hs)
    (second : B.Leads s view depth v (f a) b u' []) :
    B.Leads s view depth u (p.bind f) b u' hs := by
  have whole := first.bind second
  rwa [List.append_nil] at whole

/-- A program that begins with a call of a part of the board that has nothing to do with the state
of the hardware. -/
lemma discreet {c : Peer} {next : c.Answer → Action σ α}
    (other : (B.reaction c).Only (Use.Keeps view)) (idle : (Call.peer c).isWork s = false)
    (rest : ∀ x, B.Leads s view (depth + 1) u (next x) a u' hs) :
    B.Leads s view (depth + 1) u (.ask (.call (.peer c)) next) a u' hs := by
  intro w hw
  obtain ⟨x, w', performed, same⟩ := perform_discreet depth w other
  obtain ⟨y, run, result, after, done⟩ := rest x w' (same.trans hw)
  refine ⟨_, run_call_iff.mpr ⟨_, y, performed, run, rfl⟩, result, after, ?_⟩
  have quiet : CallTree.works s [.node (.peer c) w x w' []] = [] := by
    rw [CallTree.works, List.filter_eq_nil_iff]
    intro d hd
    obtain rfl := List.mem_singleton.mp hd
    change ¬ (Call.peer c).isWork s = true
    rw [idle]
    nofun
  rw [CallTree.works_append, done, quiet, List.nil_append]

/-- A program that begins with a call that makes the hardware work. -/
lemma work (board : B.Mechanical s view) {c : Peer} {x : c.Answer} {next : c.Answer → Action σ α}
    (works : c.IsWork s) {t' : τ}
    (drives : B.Drives view u.own (.received (.peer c) x) t')
    (rest : B.Leads s view (depth + 1) { u with own := t' } (next x) a u' hs) :
    B.Leads s view (depth + 1) u (.ask (.call (.peer c)) next) a u'
      ([.received (.peer c) x].filter (Deed.isWork s) ++ hs) := by
  refine call (fun w hw => ?_) rest
  subst hw
  obtain ⟨c', x', d, same, follows, path⟩ := drives
  cases same
  obtain ⟨own, goes⟩ := board.works c works
  obtain ⟨b, run, moved⟩ := Reaction.run_again B depth own goes follows path rfl
  refine ⟨_, [], perform_succ_iff.mpr ⟨_, run, rfl⟩, ?_⟩
  subst moved
  rfl

/-! ### Waiting for the permit -/

variable {g : SemaphoreId}

/-- A body with a permit that is there. -/
lemma withPermit {p : PlatformId} {body : Action σ (Except DeviceError Unit)}
    {r : Except DeviceError Unit}
    (session : ∀ e, (Atom.permits g : Atom σ).session? = some e → e < u.issued)
    (free : (u.semaphore g).permits ≠ 0) (still : u'.issued = u.issued)
    (body_leads : B.Leads s view (depth + 3) (u.taken g) body r (u'.taken g) hs) :
    B.Leads s view (depth + 3) u (Semaphore.withPermit g p body) r u' hs := by
  have waits : ∀ w : World σ, w.map view = u → ∃ w' inner,
      B.perform (depth + 3) (.routine (.wait g p)) w =
        .ok ⟨.ok (), w', [.node (.routine (.wait g p)) w (.ok ()) w' inner]⟩ ∧
      w'.map view = u.taken g := by
    intro w hw
    subst hw
    obtain ⟨inner, performed⟩ := B.perform_wait depth p free session
    exact ⟨_, inner, performed, rfl⟩
  have session' : ∀ e, (Atom.post g : Atom σ).session? = some e → e < u'.issued := by
    rw [still]
    cases g <;> exact session
  have posts : B.Leads s view (depth + 3) (u'.taken g)
      ((Atom.post g).act.bind fun _ => .done r : Action σ _) r u' [] := by
    refine atom (x := ()) (v := u') session' (fun w hw => ⟨w.posted g, rfl, ?_⟩) done
    rw [World.map_posted, hw, World.posted_taken]
  have whole : B.Leads s view (depth + 3) (u.taken g) (body.bind fun result =>
      (Atom.post g).act.bind fun _ => .done result) r u' hs := body_leads.bind_idle posts
  exact call (c := .routine (.wait g p)) (x := .ok ()) waits whole

/-! ### The open count -/

/-- A program that begins with reading what is fixed about the session. -/
lemma profile {next : Profile → Action σ α} (session : s < u.issued)
    (rest : B.Leads s view depth u (next (u.profile s)) a u' hs) :
    B.Leads s view depth u (.ask (.atom (.profile s)) next) a u' hs := by
  refine atom (fun e he => ?_) (fun w hw => ⟨w, ?_, hw⟩) rest
  · cases he
    exact session
  · subst hw
    rfl

/-- A program that begins with reading the open count. -/
lemma count {next : UInt8 → Action σ α} (session : s < u.issued)
    (rest : B.Leads s view depth u (next (u.count s)) a u' hs) :
    B.Leads s view depth u (.ask (.atom (.count s)) next) a u' hs := by
  refine atom (fun e he => ?_) (fun w hw => ⟨w, ?_, hw⟩) rest
  · cases he
    exact session
  · subst hw
    rfl

/-- A program that begins with storing the open count. -/
lemma setCount {m : UInt8} {next : Unit → Action σ α} (session : s < u.issued)
    (rest : B.Leads s view depth (u.change s m u.own) (next ()) a u' hs) :
    B.Leads s view depth u (.ask (.atom (.setCount s m)) next) a u' hs := by
  refine atom (x := ()) (fun e he => ?_) (fun w hw => ⟨_, rfl, ?_⟩) rest
  · cases he
    exact session
  · subst hw
    rfl

/-! ### Opening and closing -/

variable {p : Profile} {k m : UInt8} {t t' : τ} {r : Except DeviceError Unit}

/-- The hardware works in a critical section as it has worked before. -/
lemma operateMasked (board : B.Mechanical s view) (depth : Nat) {o : Operation} {args : o.Args}
    {x : o.Answer} (works : (Call.peer (.operate .driver p.lower s o args)).isWork s = true)
    (drives : B.Drives view u.own (.received (.peer (.operate .driver p.lower s o args)) x) t') :
    B.Leads s view (depth + 1) u (Session.operateMasked s p o args) x (u.change s (u.count s) t')
      [.received (.peer (.operate .driver p.lower s o args)) x] := by
  have isWork : Peer.IsWork s (.operate .driver p.lower s o args) := by
    obtain ⟨h, same | same⟩ := Call.isWork_iff.mp works <;> cases same <;> rfl
  have whole : [.received (.peer (.operate .driver p.lower s o args)) x].filter (Deed.isWork s) =
      [(.received (.peer (.operate .driver p.lower s o args)) x : Deed σ)] := by
    simp [works]
  have changed : u.change s (u.count s) t' = { u with own := t' } := by simp [World.change]
  refine discreet (c := .enter p.platform) (board.enter p.platform) rfl fun saved => ?_
  have leaves : B.Leads s view (depth + 1) { u with own := t' }
      ((Peer.leave p.platform saved).make.bind fun _ => .done x : Action σ _) x
      { u with own := t' } [] :=
    discreet (c := .leave p.platform saved) (board.leave p.platform saved) rfl fun _ => done
  rw [changed, ← whole, ← List.append_nil (List.filter _ _)]
  exact work board isWork drives leaves

/-- The work of an open that runs alone is that of the open that got the permit in the same
state. -/
theorem openHolding (board : B.Mechanical s view) {m : UInt8}
    (served : Served B s p view (u.count s) u.own (.received (.service (.openDevice s)) r) hs m t')
    (session : s < u.issued) :
    B.Leads s view (depth + 1) u (Session.openHolding s p) r (u.change s m t') hs := by
  refine count session ?_
  simp only [Program.bind_done]
  generalize hk : u.count s = k at served
  generalize ht : u.own = t at served
  cases served with
  | refused full =>
    subst hk ht
    simp only [full]
    rw [World.change_self]
    exact discreet (c := .log _) (board.journal _) rfl fun _ => done
  | further raised more =>
    subst hk ht
    simp only [raised, if_neg more]
    exact setCount session done
  | failed raised drives =>
    subst hk ht
    simp only [raised, if_true]
    have worked := operateMasked board depth (isWork_setup p.lower ()) drives
    refine worked.bind_idle ?_
    exact discreet (c := .log _) (board.journal _) rfl fun _ => done
  | first raised drives =>
    subst hk ht
    simp only [raised, if_true]
    have worked := operateMasked board depth (isWork_setup p.lower ()) drives
    refine worked.bind_idle (setCount session ?_)
    rw [World.change_change]
    exact done

/-- Putting the hardware to rest. -/
lemma shutDown (board : B.Mechanical s view) (depth : Nat) {x : Except DeviceError Unit}
    (drives : B.Drives view u.own
      (.received (.peer (.operate .driver p.lower s .shutdown ())) x) t') (session : s < u.issued) :
    B.Leads s view (depth + 1) u (Session.shutDown s p) (.ok ()) (u.change s 0 t')
      [.received (.peer (.operate .driver p.lower s .shutdown ())) x] := by
  refine setCount session ?_
  have worked := operateMasked (u := u.change s 0 u.own) board depth (isWork_shutdown p.lower ())
    drives
  rw [World.count_change, World.change_change] at worked
  refine worked.bind_idle ?_
  cases x with
  | error e => exact discreet (c := .log _) (board.journal _) rfl fun _ => done
  | ok _ => exact done

/-- The work of a close that runs alone is that of the close that got the permit in the same
state. -/
theorem closeHolding (board : B.Mechanical s view) {m : UInt8}
    (served : Served B s p view (u.count s) u.own (.received (.service (.closeDevice s)) r) hs m t')
    (session : s < u.issued) :
    B.Leads s view (depth + 1) u (Session.closeHolding s p) r (u.change s m t') hs := by
  refine count session ?_
  simp only [Program.bind_done]
  generalize hk : u.count s = k at served
  generalize ht : u.own = t at served
  cases served with
  | lowered many =>
    subst hk ht
    rw [if_pos many]
    exact count session (setCount session done)
  | last few drives =>
    subst hk ht
    rw [if_neg few]
    have rests := shutDown board depth drives session
    split
    · exact discreet (c := .log _) (board.journal _) rfl fun _ => rests
    · exact rests

end Leads

end Board

/-- An open or a close that runs alone answers what the one answered that got the permit in the same
state, has the same work done, and leaves the same open count and the same state of the hardware. -/
theorem Board.perform_served {B : Board σ} {s : SessionId} {p : Profile} {view : σ → τ}
    {k m : UInt8}
    {t t' : τ} {c : Service} {r : c.Answer} {hs : List (Deed σ)} (board : B.Mechanical s view)
    (served : Served B s p view k t (.received (.service c) r) hs m t') {w : World σ}
    (session : s < w.issued) (known : w.profile s = p) (count : w.count s = k)
    (free : (w.semaphore (.guard s)).permits ≠ 0) (own : view w.own = t) (depth : Nat) :
    ∃ v inner, B.perform (depth + 4) (.service c) w =
        .ok ⟨r, v, [.node (.service c) w r v inner]⟩ ∧
      v.map view = (w.map view).change s m t' ∧ CallTree.works s inner = hs := by
  subst known count own
  have leads : B.Leads s view (depth + 3) (w.map view) c.action r
      ((w.map view).change s m t') hs := by
    have session' : ∀ e, (Atom.permits (.guard s) : Atom σ).session? = some e → e < w.issued := by
      intro e he
      cases he
      exact session
    have opens {r : Except DeviceError Unit} (served : Served B s (w.profile s) view (w.count s)
        (view w.own) (.received (.service (.openDevice s)) r) hs m t') :
        B.Leads s view (depth + 3) (w.map view) (Session.openDevice s) r
          ((w.map view).change s m t') hs := by
      refine .profile session (.withPermit session' free rfl ?_)
      exact .openHolding board served session
    have closes {r : Except DeviceError Unit} (served : Served B s (w.profile s) view (w.count s)
        (view w.own) (.received (.service (.closeDevice s)) r) hs m t') :
        B.Leads s view (depth + 3) (w.map view) (Session.closeDevice s) r
          ((w.map view).change s m t') hs := by
      refine .profile session (.withPermit session' free rfl ?_)
      exact .closeHolding board served session
    cases id served with
    | refused | further | failed | first => exact opens served
    | lowered | last => exact closes served
  obtain ⟨y, run, rfl, after, done⟩ := leads w rfl
  exact ⟨y.world, y.calls, perform_succ_iff.mpr ⟨y, run, rfl⟩, after, done⟩

end LedDriver
