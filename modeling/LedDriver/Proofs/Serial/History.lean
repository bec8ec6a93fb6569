import LedDriver.Proofs.Serial.Order

/-!
# The history of a session

The opens and closes of a session that got the permit, in the order in which they gave it back
(`Pool.History`).  Each of them took the open count as the one before it had left it, and the
hardware worked for one of them after the other; so that their deeds, strung together, are an
account of the open count and of the hardware from the beginning.  Where one of them has not given
the permit back yet, its deeds so far come last.

A step that gives the permit back adds the end of its call to the history, and all other steps add
nothing (`Adds`).  So every run has a history (`Runs.exists_history`).
-/

namespace LedDriver

variable {σ τ α : Type} {n : Nat}

/-! ## The account of the open count -/

/-- A deed reads the open count of a session as it is, or leaves it as it stores it. -/
def Deed.Counts (s : SessionId) (k : UInt8) (x : Deed σ) (m : UInt8) : Prop :=
  match x with
  | .acted (.count u) v => m = k ∧ (u = s → v = k)
  | .acted (.setCount u v) _ => m = if u = s then v else k
  | _ => m = k

/-- The call in a deed makes the hardware of a session work. -/
def Deed.isWork (s : SessionId) : Deed σ → Bool
  | .received c _ => c.isWork s
  | .acted _ _ => false

/-- Every atom that is performed is part of the account of the open count. -/
lemma Atom.Performs.counts {a : Atom σ} {x : a.Answer} {w w' : World σ} (ha : a.Performs w x w')
    (hw : w.Blank) (s : SessionId) : Deed.Counts s (w.count s) (.acted a x) (w'.count s) := by
  by_cases store : ∃ v, a = .setCount s v
  · obtain ⟨v, rfl⟩ := store
    simpa [Deed.Counts] using ha.of_setCount
  · have same : w'.count s = w.count s := ha.count_eq hw fun v hv => store ⟨v, hv⟩
    cases a with
    | count u =>
      refine ⟨same, ?_⟩
      rintro rfl
      exact ha.of_count.1
    | setCount u v =>
      have other : u ≠ s := fun hu => store ⟨v, by rw [hu]⟩
      simpa [Deed.Counts, other] using same
    | _ => exact same

/-- What an open or a close does before it receives the permit is no part of any account. -/
lemma Phase.before_counts {s : SessionId} {x : Deed σ} (h : Phase.before.Allows x.request)
    (k : UInt8) : Deed.Counts s k x k ∧ x.isWork s = false := by
  cases x with
  | acted a y =>
    cases a <;> first | exact ⟨rfl, rfl⟩ | cases h
  | received c y =>
    refine ⟨rfl, ?_⟩
    by_contra work
    obtain ⟨v, rfl | rfl⟩ := Call.isWork_iff.mp ((Bool.not_eq_false _).mp work)
    all_goals rcases h with h | h <;> cases h

lemma Path.of_forall {S κ : Type} {R : S → κ → S → Prop} {x : S} {ks : List κ}
    (h : ∀ k ∈ ks, R x k x) : Path R x ks x := by
  induction ks with
  | nil => rfl
  | cons k ks ih =>
    rw [List.forall_mem_cons] at h
    exact ⟨x, h.1, ih h.2⟩

/-- An open or a close of a session ended that got the permit. -/
def Label.isServed (s : SessionId) : Label σ → Bool
  | .returned c _ _ d => c.session? == some s && d.any (Deed.isEntry s)
  | .acted _ _ | .called _ => false

/-- The deeds of the calls that ended in the steps of a list. -/
def Pool.deeds (es : List (Fin n × Label σ)) : List (Deed σ) := es.flatMap fun e => e.2.deeds

lemma Pool.deeds_snoc (es : List (Fin n × Label σ)) (e : Fin n × Label σ) :
    deeds (es ++ [e]) = deeds es ++ e.2.deeds := by simp [deeds]

lemma Label.toList_work? (s : SessionId) (c : Call) (w : World σ) (x : c.Answer)
    (d : List (Deed σ)) :
    ((Label.returned c w x d).work? s).toList = [Deed.received c x].filter (Deed.isWork s) := by
  cases h : c.isWork s <;> simp [Label.work?_returned, Deed.isWork, h]

/-- The account of a session: the deeds of the opens and closes that got the permit, with those of
the one that still has it, lead from no reference to the present count and are what the hardware was
made to do. -/
def Account (s : SessionId) (F : Multiset (Frame σ)) (es : List (Fin n × Label σ))
    (works : List (Deed σ)) (k : UInt8) : Prop :=
  ∃ d, InProgress (Frame.Serves s) F d ∧ Path (Deed.Counts s) 0 (Pool.deeds es ++ d) k ∧
    works = (Pool.deeds es ++ d).filter (Deed.isWork s)

namespace Account

variable {s : SessionId} {f f' : Frame σ} {rest : Multiset (Frame σ)}
  {es : List (Fin n × Label σ)} {works : List (Deed σ)} {k k' : UInt8} {x : Deed σ}

/-- A program that does not serve does not matter for the account. -/
lemma cons_iff (idle : ¬ f.Serves s) :
    Account s (f ::ₘ rest) es works k ↔ Account s rest es works k := by
  simp only [Account, InProgress.cons_iff idle]

/-- The deeds of the program that serves are the last ones of the account. -/
lemma of_serving (h : Account s (f ::ₘ rest) es works k) (serves : f.Serves s)
    (alone : ∀ g ∈ rest, ¬ g.Serves s) : Path (Deed.Counts s) 0 (Pool.deeds es ++ f.past) k ∧
      works = (Pool.deeds es ++ f.past).filter (Deed.isWork s) := by
  obtain ⟨d, progress, counts, done⟩ := h
  obtain rfl := (InProgress.cons_iff_of_only serves alone).mp progress
  exact ⟨counts, done⟩

/-- A deed of the program that serves is a deed of the account. -/
lemma serving (h : Account s (f ::ₘ rest) es works k) (serves : f.Serves s)
    (alone : ∀ g ∈ rest, ¬ g.Serves s) (serves' : f'.Serves s) (past : f'.past = f.past ++ [x])
    (counts : Deed.Counts s k x k') :
    Account s (f' ::ₘ rest) es (works ++ [x].filter (Deed.isWork s)) k' := by
  obtain ⟨before, rfl⟩ := h.of_serving serves alone
  refine ⟨f'.past, (InProgress.cons_iff_of_only serves' alone).mpr rfl, ?_, ?_⟩
  · rw [past, ← List.append_assoc]
    exact before.snoc counts
  · rw [past, ← List.append_assoc, List.filter_append (Pool.deeds es ++ f.past)]

/-- When the program that serves gives the permit back, its deeds become those of a call that
ended. -/
lemma part (h : Account s (f ::ₘ rest) es works k) (serves : f.Serves s)
    (alone : ∀ g ∈ rest, ¬ g.Serves s) (parted : ¬ f'.Serves s) (counts : Deed.Counts s k x k')
    {e : Fin n × Label σ} (deeds : e.2.deeds = f.past ++ [x]) :
    Account s (f' ::ₘ rest) (es ++ [e]) (works ++ [x].filter (Deed.isWork s)) k' := by
  obtain ⟨before, rfl⟩ := h.of_serving serves alone
  refine ⟨[], (InProgress.cons_iff parted).mpr ((InProgress.iff_of_none alone).mpr rfl), ?_, ?_⟩
  · rw [List.append_nil, Pool.deeds_snoc, deeds, ← List.append_assoc]
    exact before.snoc counts
  · rw [List.append_nil, Pool.deeds_snoc, deeds, ← List.append_assoc,
      List.filter_append (Pool.deeds es ++ f.past)]

/-- A program that begins to serve has done nothing that belongs to the account. -/
lemma enter (h : Account s rest es works k) (serves' : f'.Serves s)
    (alone : ∀ g ∈ rest, ¬ g.Serves s) (before : ∀ y ∈ f'.past, Phase.before.Allows y.request) :
    Account s (f' ::ₘ rest) es works k := by
  obtain ⟨d, progress, counts, rfl⟩ := h
  obtain rfl := (InProgress.iff_of_none alone).mp progress
  rw [List.append_nil] at counts
  have none : f'.past.filter (Deed.isWork s) = [] := by
    rw [List.filter_eq_nil_iff]
    intro y hy
    simp [(Phase.before_counts (before y hy) k).2]
  refine ⟨f'.past, (InProgress.cons_iff_of_only serves' alone).mpr rfl, ?_, ?_⟩
  · exact Path.append_iff.mpr ⟨k, counts, Path.of_forall fun y hy =>
      (Phase.before_counts (before y hy) k).1⟩
  · rw [List.append_nil, List.filter_append, none, List.append_nil]

/-- The account does not depend on what a program waits for. -/
lemma pause (h : Account s (f ::ₘ rest) es works k) (owner : f'.owner = f.owner)
    (past : f'.past = f.past) : Account s (f' ::ₘ rest) es works k := by
  have same : f'.Serves s ↔ f.Serves s := by rw [Frame.Serves, Frame.Serves, owner, past]
  obtain ⟨d, progress, account⟩ := h
  refine ⟨d, ?_, account⟩
  rcases progress with ⟨rfl, none⟩ | ⟨g, hg, serves, rfl⟩
  · rw [Multiset.forall_mem_cons] at none
    exact .inl ⟨rfl, Multiset.forall_mem_cons.mpr ⟨mt same.mp none.1, none.2⟩⟩
  · rcases Multiset.mem_cons.mp hg with rfl | hg
    · exact .inr ⟨f', Multiset.mem_cons_self _ _, same.mpr serves, past⟩
    · exact .inr ⟨g, Multiset.mem_cons_of_mem hg, serves, rfl⟩

end Account

/-! ## The order of the calls -/

/-- The program opens or closes a session and has given the permit back. -/
def Frame.Parted (s : SessionId) (f : Frame σ) : Prop :=
  f.owner.bind Call.session? = some s ∧ Phase.of s f.past = .after

/-- A program that asks for something has not given the permit back. -/
lemma Board.Continues.not_parted {B : Board σ} {f : Frame σ} {q : Request σ} {s : SessionId}
    (h : B.Continues f.owner f.past q) : ¬ f.Parted s := by
  rintro ⟨visits, after⟩
  obtain ⟨o, w, d, p⟩ := f
  cases o with
  | none => cases visits
  | some c => exact h.phase_ne_after visits after

/-- What is due for the innermost program of a party: if it has given the permit back, the end of
its call. -/
def Board.Due (B : Board σ) (s : SessionId) (i : Fin n) (f : Frame σ)
    (es : List (Fin n × Label σ)) : Prop :=
  (es = [] ∧ ¬ f.Parted s) ∨ ∃ c w d p r, f = ⟨some c, w, d, p⟩ ∧ f.Parted s ∧
    Follows (B.program c) d (.done r) ∧ es = [(i, .returned c w r d)]

/-- The steps of a list that belong to a party are the ends of its calls that got the permit, in
their order, and then what is due. -/
def Ended (B : Board σ) (s : SessionId) (l es : List (Fin n × Label σ)) (i : Fin n)
    (F : List (Frame σ)) : Prop :=
  ∃ f below due, F = f :: below ∧ B.Due s i f due ∧
    es.filter (fun e => e.1 = i) = l.filter (fun e => e.1 = i && e.2.isServed s) ++ due

namespace Ended

variable {B : Board σ} {s : SessionId} {l es : List (Fin n × Label σ)} {i j : Fin n}
  {F : List (Frame σ)} {f f' : Frame σ} {below below' : List (Frame σ)} {e : Label σ}

/-- Nothing is due for a program that has not given the permit back. -/
lemma of_not_parted (h : Ended B s l es i (f :: below)) (hf : ¬ f.Parted s) :
    es.filter (fun e => e.1 = i) = l.filter fun e => e.1 = i && e.2.isServed s := by
  obtain ⟨g, _, due, same, hdue, order⟩ := h
  obtain ⟨rfl, -⟩ := List.cons.inj same
  rcases hdue with ⟨rfl, -⟩ | ⟨_, _, _, _, _, -, parted, -⟩
  · rw [order, List.append_nil]
  · exact absurd parted hf

/-- The steps of a party are not those of another. -/
lemma elsewhere (h : Ended B s l es j F) (hj : j ≠ i) {more : List (Fin n × Label σ)}
    (mine : ∀ e ∈ more, e.1 = i) : Ended B s (l ++ [(i, e)]) (es ++ more) j F := by
  obtain ⟨f, below, due, top, hdue, order⟩ := h
  have none : more.filter (fun e => e.1 = j) = [] := by
    rw [List.filter_eq_nil_iff]
    intro e he
    simp [mine e he, hj.symm]
  refine ⟨f, below, due, top, hdue, ?_⟩
  rw [List.filter_append, none, order, List.filter_append]
  simp [hj.symm]

/-- A step at whose end nothing is due, and which does not end a call that got the permit. -/
lemma still (h : Ended B s l es i (f :: below)) (hf : ¬ f.Parted s) (hf' : ¬ f'.Parted s)
    (he : e.isServed s = false) : Ended B s (l ++ [(i, e)]) es i (f' :: below') := by
  refine ⟨f', below', [], rfl, .inl ⟨rfl, hf'⟩, ?_⟩
  rw [h.of_not_parted hf, List.filter_append]
  simp [he]

/-- When a program gives the permit back, the end of its call is due. -/
lemma part (h : Ended B s l es i (f :: below)) (hf : ¬ f.Parted s) {c : Call} {w : World σ}
    {d : List (Deed σ)} {r : c.Answer} (parted : (⟨some c, w, d, none⟩ : Frame σ).Parted s)
    (complete : Follows (B.program c) d (.done r)) (he : e.isServed s = false) :
    Ended B s (l ++ [(i, e)]) (es ++ [(i, .returned c w r d)]) i
      (⟨some c, w, d, none⟩ :: below) := by
  refine ⟨_, below, _, rfl, .inr ⟨c, w, d, none, r, rfl, parted, complete, rfl⟩, ?_⟩
  rw [List.filter_append, h.of_not_parted hf, List.filter_append]
  simp [he]

/-- When the call of such a program ends, what was due has come. -/
lemma finish {c : Call} {w : World σ} {d : List (Deed σ)} {x : c.Answer}
    (h : Ended B s l es i (⟨some c, w, d, none⟩ :: below))
    (parted : (⟨some c, w, d, none⟩ : Frame σ).Parted s)
    (complete : Follows (B.program c) d (.done x)) (hf' : ¬ f'.Parted s) :
    Ended B s (l ++ [(i, .returned c w x d)]) es i (f' :: below') := by
  obtain ⟨g, _, due, same, hdue, order⟩ := h
  obtain ⟨rfl, -⟩ := List.cons.inj same
  rcases hdue with ⟨-, not⟩ | ⟨c', w', d', p, r, same, -, complete', rfl⟩
  · exact absurd parted not
  · cases same
    cases complete.unique complete'
    have served : (Label.returned c w x d).isServed s = true := by
      have entered : d.any (Deed.isEntry s) = true := by
        by_contra none
        have before := Phase.of_eq_before_iff.mpr ((Bool.not_eq_true _).mp none)
        rw [parted.2] at before
        cases before
      have visits : c.session? = some s := parted.1
      simp [Label.isServed, visits, entered]
    refine ⟨f', below', [], rfl, .inl ⟨rfl, hf'⟩, ?_⟩
    rw [order, List.filter_append, List.append_nil]
    simp [served]

end Ended

namespace Pool

variable {B : Board σ} {P Q : Pool n σ α} {l : List (Fin n × Label σ)} {own : σ}
  {clients : Fin n → Reaction σ α} {s : SessionId}

/-- What a step adds to the history of a session: the end of a call if the step gives the permit
back, and nothing otherwise. -/
def Adds (B : Board σ) (s : SessionId) (i : Fin n) (e : Label σ) (l es : List (Fin n × Label σ))
    (F : List (Frame σ)) (frames : Multiset (Frame σ)) (k : UInt8) : Prop :=
  ∃ more : List (Fin n × Label σ), (∀ e ∈ more, e.1 = i) ∧
    more.map Prod.fst = (if e.isPosting s then [i] else []) ∧
    Ended B s (l ++ [(i, e)]) (es ++ more) i F ∧
    Account s frames (es ++ more) (works s l ++ (e.work? s).toList) k

namespace Adds

variable {es : List (Fin n × Label σ)} {i : Fin n} {o : Option Call} {w₀ w w' : World σ}
  {d : List (Deed σ)} {below : List (Frame σ)} {rest : Multiset (Frame σ)} {k : UInt8}

/-- A step that does not give the permit back adds nothing. -/
lemma nothing {e : Label σ} {F : List (Frame σ)} {frames : Multiset (Frame σ)}
    (posting : e.isPosting s = false) (mine : Ended B s (l ++ [(i, e)]) es i F)
    (account : Account s frames es (works s l ++ (e.work? s).toList) k) :
    Adds B s i e l es F frames k := by
  refine ⟨[], fun e he => absurd he List.not_mem_nil, by simp [posting], ?_, ?_⟩
  · rwa [List.append_nil]
  · rwa [List.append_nil]

/-- A program that gives the permit back adds the end of its call. -/
lemma post {x : Unit} (ask : B.Continues o d (.atom (.post (.guard s))))
    (mine : Ended B s l es i (⟨o, w₀, d, none⟩ :: below))
    (account : Account s (⟨o, w₀, d, none⟩ ::ₘ rest) es (works s l) k)
    (alone : Frame.Serves s ⟨o, w₀, d, none⟩ → ∀ g ∈ rest, ¬ g.Serves s) :
    Adds B s i (.acted (.post (.guard s)) x) l es
      (⟨o, w₀, d ++ [.acted (.post (.guard s)) x], none⟩ :: below)
      (⟨o, w₀, d ++ [.acted (.post (.guard s)) x], none⟩ ::ₘ rest) k := by
  have asks : ¬ Frame.Parted s ⟨o, w₀, d, none⟩ := ask.not_parted
  have serves : Frame.Serves s ⟨o, w₀, d, none⟩ := ask.serves (q := .atom (.post (.guard s))) rfl
  obtain ⟨visits, serving⟩ := id serves
  obtain ⟨c, rfl, hc⟩ := Option.bind_eq_some_iff.mp visits
  obtain ⟨cont, follows⟩ := ask
  have after : Phase.of s (d ++ [.acted (.post (.guard s)) x]) = .after := by
    simp [Phase.next, serving]
  obtain ⟨r, hr⟩ := B.exists_result hc (follows.snoc_acted x) after
  have complete := follows.snoc_acted x
  rw [hr] at complete
  have parted : Frame.Parted s ⟨some c, w₀, d ++ [.acted (.post (.guard s)) x], none⟩ :=
    ⟨visits, after⟩
  have idle : ¬ Frame.Serves s ⟨some c, w₀, d ++ [.acted (.post (.guard s)) x], none⟩ := by
    rintro ⟨-, h⟩
    rw [after] at h
    rcases h with h | h <;> cases h
  refine ⟨[(i, .returned c w₀ r _)], by simp, by simp [Label.isPosting],
    mine.part asks parted complete rfl, ?_⟩
  have counts : Deed.Counts s k (.acted (.post (.guard s)) x : Deed σ) k := rfl
  exact account.part serves (alone serves) idle counts rfl

/-- A program that performs another atom adds nothing, and the atom is part of the account if the
program serves. -/
lemma act {a : Atom σ} {x : a.Answer} (ask : B.Continues o d (.atom a)) (ha : a.Performs w x w')
    (blank : w.Blank) (post : a ≠ .post (.guard s))
    (mine : Ended B s l es i (⟨o, w₀, d, none⟩ :: below))
    (account : Account s (⟨o, w₀, d, none⟩ ::ₘ rest) es (works s l) (w.count s))
    (alone : Frame.Serves s ⟨o, w₀, d, none⟩ → ∀ g ∈ rest, ¬ g.Serves s) :
    Adds B s i (.acted a x) l es (⟨o, w₀, d ++ [.acted a x], none⟩ :: below)
      (⟨o, w₀, d ++ [.acted a x], none⟩ ::ₘ rest) (w'.count s) := by
  have keeps y : (Deed.acted a x) ≠ .acted (.post (.guard s)) y := by
    intro same
    cases same
    exact post rfl
  have posting : (Label.acted a x).isPosting s = false := by
    by_contra h
    obtain ⟨_, same⟩ := Label.isPosting_iff.mp ((Bool.not_eq_false _).mp h)
    cases same
    exact post rfl
  have asks : ¬ Frame.Parted s ⟨o, w₀, d, none⟩ := ask.not_parted
  have asks' : ¬ Frame.Parted s ⟨o, w₀, d ++ [.acted a x], none⟩ := by
    rintro ⟨visits, after⟩
    rw [Phase.of_snoc] at after
    rcases Phase.eq_after_of_next after with after | ⟨y, same⟩
    · exact asks ⟨visits, after⟩
    · exact keeps y same
  refine nothing posting (mine.still asks asks' rfl) ?_
  by_cases serves : Frame.Serves s ⟨o, w₀, d, none⟩
  · have serves' : Frame.Serves s ⟨o, w₀, d ++ [.acted a x], none⟩ := by
      refine ⟨serves.1, ?_⟩
      rw [Phase.of_snoc]
      exact serves.2.next keeps
    exact account.serving serves (alone serves) serves' rfl (ha.counts blank s)
  · have idle : ¬ Frame.Serves s ⟨o, w₀, d ++ [.acted a x], none⟩ := by
      rintro ⟨visits, serving⟩
      rw [Phase.of_snoc] at serving
      exact serves ⟨visits, Phase.serving_of_next_acted serving⟩
    have same : w'.count s = w.count s := ha.count_eq blank fun v hv => by
      subst hv
      exact serves (ask.serves (q := .atom (.setCount s v)) rfl)
    rw [Account.cons_iff serves] at account
    rw [Account.cons_iff idle, same, Label.work?_acted, Option.toList_none, List.append_nil]
    exact account

/-- A program that begins a call adds nothing. -/
lemma call {c : Call} (ask : B.Continues o d (.call c))
    (mine : Ended B s l es i (⟨o, w₀, d, none⟩ :: below))
    (account : Account s (⟨o, w₀, d, none⟩ ::ₘ rest) es (works s l) k) :
    Adds B s i (.called c) l es (⟨some c, w, [], none⟩ :: ⟨o, w₀, d, some c⟩ :: below)
      (⟨some c, w, [], none⟩ ::ₘ ⟨o, w₀, d, some c⟩ ::ₘ rest) k := by
  have idle : ¬ Frame.Serves s ⟨some c, w, [], none⟩ := by
    rintro ⟨-, h⟩
    rcases h with h | h <;> cases h
  refine nothing rfl (mine.still ask.not_parted (fun h => by cases h.2) rfl) ?_
  rw [Account.cons_iff idle, Label.work?_called, Option.toList_none, List.append_nil]
  exact account.pause rfl rfl

/-- The end of a call adds nothing, since it was added when the call gave the permit back.  The
answer is part of the account if the program that receives it serves; if it is the permit, the
program begins to serve. -/
lemma «return» {w₁ : World σ} {deeds : List (Deed σ)} {c : Call} {x : c.Answer}
    (ask : B.Continues o d (.call c)) (complete : Follows (B.program c) deeds (.done x))
    (mine : Ended B s l es i (⟨some c, w₁, deeds, none⟩ :: ⟨o, w₀, d, some c⟩ :: below))
    (account : Account s (⟨some c, w₁, deeds, none⟩ ::ₘ ⟨o, w₀, d, some c⟩ ::ₘ rest) es
      (works s l) k)
    (alone : Frame.Serves s ⟨o, w₀, d, some c⟩ → ∀ g ∈ rest, ¬ g.Serves s)
    (alone' : Frame.Serves s ⟨o, w₀, d ++ [.received c x], none⟩ → ∀ g ∈ rest, ¬ g.Serves s) :
    Adds B s i (.returned c w₁ x deeds) l es (⟨o, w₀, d ++ [.received c x], none⟩ :: below)
      (⟨o, w₀, d ++ [.received c x], none⟩ ::ₘ rest) k := by
  have asks : ¬ Frame.Parted s ⟨o, w₀, d, some c⟩ := ask.not_parted
  have asks' : ¬ Frame.Parted s ⟨o, w₀, d ++ [.received c x], none⟩ := by
    rintro ⟨visits, after⟩
    rw [Phase.of_snoc] at after
    rcases Phase.eq_after_of_next after with after | ⟨y, same⟩
    · exact asks ⟨visits, after⟩
    · cases same
  have ended : ¬ Frame.Serves s ⟨some c, w₁, deeds, none⟩ := fun h =>
    B.not_serving_of_complete h.1 complete h.2
  rw [Account.cons_iff ended] at account
  refine nothing rfl ?_ ?_
  · by_cases parted : Frame.Parted s ⟨some c, w₁, deeds, none⟩
    · exact mine.finish parted complete asks'
    · refine mine.still parted asks' ?_
      by_contra served
      obtain ⟨visits, entered⟩ : c.session? = some s ∧ deeds.any (Deed.isEntry s) = true := by
        simpa [Label.isServed] using served
      exact parted ⟨visits, B.after_of_complete visits complete entered⟩
  rw [Label.toList_work?]
  by_cases serves : Frame.Serves s ⟨o, w₀, d, some c⟩
  · have serves' : Frame.Serves s ⟨o, w₀, d ++ [.received c x], none⟩ := by
      refine ⟨serves.1, ?_⟩
      rw [Phase.of_snoc]
      exact serves.2.next fun y => by rintro ⟨⟩
    exact account.serving serves (alone serves) serves' rfl rfl
  · have idle : c.isWork s = false := by
      by_contra work
      exact serves (ask.serves (q := .call c) ((Bool.not_eq_false _).mp work))
    have none : [(Deed.received c x : Deed σ)].filter (Deed.isWork s) = [] := by
      simp [Deed.isWork, idle]
    rw [none, List.append_nil]
    rw [Account.cons_iff serves] at account
    by_cases serves' : Frame.Serves s ⟨o, w₀, d ++ [.received c x], .none⟩
    · -- It has just received the permit.
      obtain ⟨visits, serving⟩ := id serves'
      obtain ⟨c', rfl, hc⟩ := Option.bind_eq_some_iff.mp visits
      obtain ⟨cont, follows⟩ := ask
      rw [Phase.of_snoc] at serving
      obtain ⟨before, allowed⟩ :=
        Phase.eq_before_of_next_received (fun h => serves ⟨visits, h⟩) serving
      refine account.enter serves' (alone' serves') ?_
      rw [List.forall_mem_append, List.forall_mem_singleton]
      exact ⟨B.allows_of_before hc follows before, allowed⟩
    · exact (Account.cons_iff serves').mpr account

end Adds

/-- The opens and closes of a session that got the permit and gave it back in a run, as the steps in
which they end, in the order in which they gave it back. -/
structure History (B : Board σ) (s : SessionId) (P : Pool n σ α) (l es : List (Fin n × Label σ)) :
    Prop where
  order : es.map Prod.fst = who (Label.isPosting s) l
  ended : ∀ i, Ended B s l es i (P.parties i).frames
  account : Account s P.frames es (works s l) (P.world.count s)

/-- A history goes on with what a step adds to it; the other parties notice nothing. -/
lemma History.tail {es : List (Fin n × Label σ)} (h : History B s P l es) {i : Fin n} {e : Label σ}
    (others : ∀ j ≠ i, Q.parties j = P.parties j)
    (adds : Adds B s i e l es (Q.parties i).frames Q.frames (Q.world.count s)) :
    ∃ es', History B s Q (l ++ [(i, e)]) es' := by
  obtain ⟨more, own, posted, here, account⟩ := adds
  refine ⟨es ++ more, ?_, fun j => ?_, ?_⟩
  · rw [List.map_append, h.order, who_snoc, posted]
  · by_cases hj : j = i
    · subst hj
      exact here
    · rw [others j hj]
      exact (h.ended j).elsewhere hj own
  · rw [works_snoc]
    exact account

/-- Every session has a history. -/
theorem Runs.exists_history (run : Runs B (start own clients) l P) (s : SessionId) :
    ∃ es, History B s P l es := by
  induction run with
  | refl =>
    refine ⟨[], rfl, fun i => ⟨_, [], [], rfl, .inl ⟨rfl, nofun⟩, rfl⟩, [], ?_, rfl, rfl⟩
    refine (InProgress.iff_of_none fun f hf => ?_).mpr rfl
    rw [frames_start] at hf
    obtain rfl := Multiset.eq_of_mem_replicate hf
    exact nofun
  | @tail Q R l e run step ih =>
    obtain ⟨i, e⟩ := e
    obtain ⟨es, history⟩ := ih
    obtain ⟨old, new, below, hold, hnew, others, turn⟩ := run.turn step
    obtain ⟨rest, frames, frames'⟩ := frames_of_turn hold hnew others
    refine history.tail others ?_
    have mine := history.ended i
    have account := history.account
    have alone {f : Frame σ} {rest : Multiset (Frame σ)} (frames : Q.frames = f ::ₘ rest)
        (serves : f.Serves s) := run.not_serves frames serves.holds
    have alone' {f : Frame σ} {rest : Multiset (Frame σ)} (frames : R.frames = f ::ₘ rest)
        (serves : f.Serves s) := (run.tail step).not_serves frames serves.holds
    rw [hold] at mine
    rw [hnew]
    generalize R.world = w at turn ⊢
    cases turn with
    | @act o w₀ w' d a x ask ha =>
      simp only [coe_cons_add, coe_nil_add] at frames frames'
      rw [frames] at account
      rw [frames']
      by_cases post : a = .post (.guard s)
      · subst post
        have same : w.count s = Q.world.count s := ha.count_eq run.blank fun v => nofun
        rw [same]
        exact .post ask mine account (alone frames)
      · exact .act ask ha run.blank post mine account (alone frames)
    | call ask =>
      simp only [coe_cons_add, coe_nil_add] at frames frames'
      rw [frames] at account
      rw [frames']
      exact .call ask mine account
    | «return» ask complete =>
      simp only [coe_cons_add, coe_nil_add] at frames frames'
      rw [frames] at account
      rw [frames']
      refine .return ask complete mine account (fun serves => ?_) (alone' frames')
      have others := alone (frames.trans (Multiset.cons_swap _ _ _)) serves
      exact (Multiset.forall_mem_cons.mp others).2

end Pool

end LedDriver
