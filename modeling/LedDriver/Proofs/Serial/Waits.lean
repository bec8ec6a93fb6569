import LedDriver.Proofs.Lifecycle.References

/-!
# Waits that were given up

An open or a close that ends without the permit has read the profile of its session, has waited for
the permit, and has done nothing else.  Its answer is the error with which its platform told it to
give up (`Runs.given_up`).
-/

namespace LedDriver

variable {σ α : Type} {n : Nat}

/-- A wait that was given up was told so, by the platform or by the wait that it went on with. -/
lemma Semaphore.wait_given_up {g : SemaphoreId} {p : PlatformId} {d : List (Deed σ)}
    {e : DeviceError} (h : Follows (wait g p) d (.done (.error e))) :
    .received (.peer (.checkWait p)) (.error e) ∈ d ∨
      .received (.routine (.wait g p)) (.error e) ∈ d := by
  obtain ⟨taken, d₁, rfl, h₁⟩ := h.of_call
  cases taken with
  | true =>
    obtain ⟨-, same⟩ := h₁.of_done
    cases same
  | false =>
    obtain ⟨x, d₂, rfl, h₂⟩ := h₁.of_call
    cases x with
    | error e' =>
      obtain ⟨rfl, same⟩ := h₂.of_done
      cases same
      exact .inl (.tail _ (List.mem_cons_self ..))
    | ok _ =>
      obtain ⟨_, d₃, rfl, h₃⟩ := h₂.of_call
      obtain ⟨x, d₄, rfl, h₄⟩ := h₃.of_call
      obtain ⟨rfl, rfl⟩ := h₄.of_done
      exact .inr (by simp)

/-- What is done with a permit is not done without the permit. -/
lemma Session.withPermit_given_up {s : SessionId} {d : List (Deed σ)} {r : Except DeviceError Unit}
    {body : Profile → Action σ (Except DeviceError Unit)}
    (h : Follows ((Atom.profile s).act >>= fun p =>
      Semaphore.withPermit (.guard s) p.platform (body p)) d (.done r))
    (outside : d.any (Deed.isEntry s) = false) : ∃ p e, r = .error e ∧
      d = [.acted (.profile s) p,
        .received (.routine (.wait (.guard s) p.platform)) (.error e)] := by
  obtain ⟨p, d₁, rfl, h₁⟩ := h.of_atom
  obtain ⟨x, d₂, rfl, h₂⟩ := h₁.of_call
  cases x with
  | error e =>
    obtain ⟨rfl, rfl⟩ := h₂.of_done
    exact ⟨p, e, rfl, rfl⟩
  | ok _ => simp at outside

namespace Pool

variable {B : Board σ} {P Q : Pool n σ α} {l : List (Fin n × Label σ)} {own : σ}
  {clients : Fin n → Reaction σ α} {s : SessionId} {i : Fin n}

/-- An answer that a program has received is that of a call that ended. -/
lemma Runs.exists_returned (run : Runs B (start own clients) l P) {f : Frame σ}
    (hf : f ∈ (P.parties i).frames) {c : Call} {x : c.Answer} (received : .received c x ∈ f.past) :
    ∃ w d, (i, .returned c w x d) ∈ l := by
  induction run generalizing f with
  | refl =>
    obtain rfl := List.mem_singleton.mp hf
    exact absurd received List.not_mem_nil
  | @tail Q R l e run step ih =>
    obtain ⟨j, e⟩ := e
    obtain ⟨old, new, below, hold, hnew, others, turn⟩ := run.turn step
    -- An answer that was received before is that of a call that had ended before.
    have earlier {g : Frame σ} (hg : g ∈ (Q.parties i).frames) (had : .received c x ∈ g.past) :
        ∃ w d, (i, .returned c w x d) ∈ l ++ [(j, e)] := by
      obtain ⟨w, d, mem⟩ := ih hg had
      exact ⟨w, d, List.mem_append_left _ mem⟩
    by_cases hi : i = j
    · subst hi
      rw [hold] at earlier
      rw [hnew] at hf
      rcases List.mem_append.mp hf with hf | hf
      · generalize R.world = w at turn
        cases turn with
        | act _ _ =>
          obtain rfl := List.mem_singleton.mp hf
          rcases List.mem_append.mp received with received | received
          · exact earlier (List.mem_append_left _ (List.mem_singleton_self _)) received
          · simp at received
        | call _ =>
          rcases List.mem_cons.mp hf with rfl | hf
          · exact absurd received List.not_mem_nil
          · obtain rfl := List.mem_singleton.mp hf
            exact earlier (List.mem_append_left _ (List.mem_singleton_self _)) received
        | @«return» _ _ w₁ d deeds c' y _ _ =>
          obtain rfl := List.mem_singleton.mp hf
          rcases List.mem_append.mp received with received | received
          · exact earlier (List.mem_append_left _ (.tail _ (List.mem_singleton_self _))) received
          · cases List.mem_singleton.mp received
            exact ⟨w₁, deeds, List.mem_append_right _ (List.mem_singleton_self _)⟩
      · exact earlier (List.mem_append_right _ hf) received
    · rw [others i hi] at hf
      exact earlier hf received

/-- A party that gave up waiting was told so by the platform. -/
lemma Runs.told (run : Runs B (start own clients) l P) {g : SemaphoreId} {p : PlatformId}
    {w : World σ} {e : DeviceError} {d : List (Deed σ)}
    (he : (i, .returned (.routine (.wait g p)) w (.error e) d) ∈ l) :
    ∃ w' d', (i, .returned (.peer (.checkWait p)) w' (.error e) d') ∈ l := by
  induction run generalizing w d with
  | refl => exact absurd he List.not_mem_nil
  | @tail Q R l label run step ih =>
    suffices before : ∃ w' d', (i, .returned (.peer (.checkWait p)) w' (.error e) d') ∈ l by
      obtain ⟨w', d', mem⟩ := before
      exact ⟨w', d', List.mem_append_left _ mem⟩
    rcases List.mem_append.mp he with he | he
    · exact ih he
    · obtain rfl := List.mem_singleton.mp he
      obtain ⟨frame, complete⟩ := run.frame_of_return step
      rcases Semaphore.wait_given_up complete with told | waited
      · exact run.exists_returned frame told
      · obtain ⟨w', d', mem⟩ := run.exists_returned frame waited
        exact ih mem

/-- What a call that ended knows of a session is so. -/
lemma Runs.profile_of_returned (run : Runs B (start own clients) l P) {c : Call} {w : World σ}
    {x : c.Answer} {d : List (Deed σ)} {p : Profile} (he : (i, .returned c w x d) ∈ l)
    (h : Deed.acted (.profile s) p ∈ d) : s < P.world.issued ∧ p = P.world.profile s := by
  obtain ⟨_, _, R, S, -, before, step, after⟩ := run.exists_step he
  obtain ⟨old, rfl⟩ := before.profile_known (before.frame_of_return step).1 h
  obtain ⟨created, kept⟩ := (Runs.head step after).profile_kept old
  exact ⟨created, kept.symm⟩

/-- An open or a close that did not get the permit has waited for it and has done nothing else.  It
answers the error with which the platform told it to give up. -/
theorem Runs.given_up (run : Runs B (start own clients) l P) {w : World σ}
    {r : Except DeviceError Unit} {d : List (Deed σ)}
    (he : (i, .returned (.service (.openDevice s)) w r d) ∈ l ∨
      (i, .returned (.service (.closeDevice s)) w r d) ∈ l)
    (outside : d.any (Deed.isEntry s) = false) :
    ∃ p e, r = .error e ∧
      d = [.acted (.profile s) p, .received (.routine (.wait (.guard s) p.platform)) (.error e)] ∧
      p = P.world.profile s ∧
      ∃ w' d', (i, .returned (.peer (.checkWait p.platform)) w' (.error e) d') ∈ l := by
  obtain ⟨c, x, returned, follows⟩ : ∃ c x, (i, .returned c w x d) ∈ l ∧
      ∃ p e, r = .error e ∧
        d = [.acted (.profile s) p,
          .received (.routine (.wait (.guard s) p.platform)) (.error e)] := by
    rcases he with he | he
    · exact ⟨_, _, he, Session.withPermit_given_up (run.follows_of_returned he) outside⟩
    · exact ⟨_, _, he, Session.withPermit_given_up (run.follows_of_returned he) outside⟩
  obtain ⟨p, e, rfl, rfl⟩ := follows
  obtain ⟨_, _, R, S, rfl, before, step, -⟩ := run.exists_step returned
  obtain ⟨frame, -⟩ := before.frame_of_return step
  obtain ⟨w₁, d₁, waited⟩ := before.exists_returned frame (.tail _ (List.mem_singleton_self _))
  obtain ⟨w₂, d₂, told⟩ := before.told waited
  exact ⟨p, e, rfl, rfl, (run.profile_of_returned returned (List.mem_cons_self ..)).2, w₂, d₂,
    List.mem_append_left _ told⟩

end Pool

end LedDriver
