import AutoTrader.Support.State

/-!
# Clean-up, parts and loops with a bound

`try … finally`, and `for _ in range(n)` with an early return: before each of at most `n`
steps the loop looks whether it is done.  It never looks after the last step.

* `Relates.tryFinally` — what the body and the clean-up do, the whole does.
* `finalState_bind`, `finalState_tryCatch` — what holds of the state after each part holds of it
  after the whole.
* `Reads` — a computation that leaves the state.
* `boundedLoop` — the answers of the steps, or nothing when the range is used up.
* `Steps` — so many steps, none of them from a state that is done.
* `boundedLoop_eq_some_iff` — the loop returns exactly when fewer than `n` steps reach a
  state that is done.
* `boundedLoop_eq_none_iff`, `boundedLoop_eq_error_iff` — when it runs out, and which
  exceptions come out of it.
-/

namespace Stateful

universe u

variable {ε σ ρ : Type u}

/-! ## Clean-up -/

section Finally

variable {α β : Type u} {x : EStateM ε σ α} {cleanup : EStateM ε σ β} {s : σ}

/-- The clean-up runs in the state that the body leaves; its own exception wins. -/
theorem tryFinally_run : (tryFinally x cleanup) s =
    match x s with
    | .ok a t => (match cleanup t with
      | .ok _ u => .ok a u
      | .error e u => .error e u)
    | .error e t => (match cleanup t with
      | .ok _ u => .error e u
      | .error e' u => .error e' u) := by
  show EStateM.map _ (tryFinally' x fun _ => cleanup) s = _
  unfold EStateM.map
  simp only [MonadFinally.tryFinally']
  cases x s with
  | ok a t => cases h : cleanup t <;> simp only [h]
  | error e t => cases h : cleanup t <;> simp only [h]

theorem finalState_tryFinally :
    finalState ((tryFinally x cleanup) s) = finalState (cleanup (finalState (x s))) := by
  rw [tryFinally_run]
  cases x s with
  | ok a t => cases h : cleanup t <;> simp [h]
  | error e t => cases h : cleanup t <;> simp [h]

theorem Relates.tryFinally {R : σ → σ → Prop} (htrans : ∀ {a b c}, R a b → R b c → R a c)
    (hx : Relates R x) (hcleanup : Relates R cleanup) : Relates R (tryFinally x cleanup) := by
  intro s
  rw [finalState_tryFinally]
  exact htrans (hx s) (hcleanup _)

end Finally

/-! ## Parts and handlers -/

section Parts

variable {α β : Type u} {P : σ → Prop}

/-- What holds after the first part and after what follows it holds after both. -/
theorem finalState_bind {x : EStateM ε σ α} {f : α → EStateM ε σ β} {s : σ}
    (hx : P (finalState (x s))) (hf : ∀ a t, x s = .ok a t → P t → P (finalState (f a t))) :
    P (finalState ((x >>= f) s)) := by
  rw [bind_run]
  cases h : x s with
  | ok a t =>
      rw [h] at hx
      exact hf a t h hx
  | error e t => rwa [h] at hx

/-- A computation that leaves the state. -/
def Reads (x : EStateM ε σ α) : Prop := ∀ s, finalState (x s) = s

theorem Reads.eq_of_ok {x : EStateM ε σ α} (h : Reads x) {s t : σ} {a : α} (hok : x s = .ok a t) :
    t = s := by
  have := h s
  rwa [hok] at this

theorem reads_pure (a : α) : Reads (pure a : EStateM ε σ α) := fun _ => rfl

theorem reads_throw (e : ε) : Reads (throw e : EStateM ε σ α) := fun _ => rfl

theorem reads_get : Reads (get : EStateM ε σ σ) := fun _ => rfl

theorem Reads.bind {x : EStateM ε σ α} {f : α → EStateM ε σ β} (hx : Reads x)
    (hf : ∀ a, Reads (f a)) : Reads (x >>= f) := by
  intro s
  rw [bind_run]
  cases hok : x s with
  | ok a t =>
      rw [hx.eq_of_ok hok]
      exact hf a s
  | error e t =>
      have := hx s
      rwa [hok] at this

/-- After a computation that leaves the state. -/
theorem Reads.finalState_bind {x : EStateM ε σ α} {f : α → EStateM ε σ β} {s : σ} (hx : Reads x)
    (hs : P s) (hf : ∀ a, x s = .ok a s → P (finalState (f a s))) :
    P (finalState ((x >>= f) s)) := by
  refine Stateful.finalState_bind ((hx s).symm ▸ hs) fun a t hok _ => ?_
  obtain rfl := hx.eq_of_ok hok
  exact hf a hok

theorem Reads.cases {x : EStateM ε σ α} (hx : Reads x) (s : σ) :
    (∃ e, x s = .error e s) ∨ ∃ a, x s = .ok a s := by
  have := hx s
  cases hrun : x s with
  | ok a t =>
      rw [hrun] at this
      exact .inr ⟨a, by rw [show t = s from this]⟩
  | error e t =>
      rw [hrun] at this
      exact .inl ⟨e, by rw [show t = s from this]⟩

theorem finalState_tryCatch {P : σ → Prop} {x : EStateM ε σ α} {handler : ε → EStateM ε σ α} {s : σ}
    (hx : P (finalState (x s))) (hhandler : ∀ e t, P t → P (finalState (handler e t))) :
    P (finalState (tryCatch x handler s)) := by
  rw [tryCatch_run]
  cases h : x s with
  | ok a t => rwa [h] at hx
  | error e t =>
      rw [h] at hx
      exact hhandler e t hx

end Parts

/-! ## Loops -/

section Loop

variable (done : σ → Bool) (step : EStateM ε σ (Option ρ))

/-- The loop, with the answers so far. -/
def boundedLoop : ℕ → List ρ → EStateM ε σ (Option (List ρ))
  | 0, _ => pure none
  | n + 1, answers => do
      let state ← get
      if done state then pure (some answers)
      else do
        let answer ← step
        boundedLoop n (answers ++ answer.toList)

/-- So many steps with their answers, each from a state that is not done. -/
inductive Steps : ℕ → σ → List ρ → σ → Prop
  | zero (s : σ) : Steps 0 s [] s
  | succ {n : ℕ} {s t u : σ} {answer : Option ρ} {answers : List ρ} (hdone : done s = false)
      (hstep : step s = .ok answer t) (h : Steps n t answers u) :
      Steps (n + 1) s (answer.toList ++ answers) u

end Loop

variable {done : σ → Bool} {step : EStateM ε σ (Option ρ)} {n : ℕ} {s t : σ} {answers : List ρ}

theorem boundedLoop_zero : boundedLoop done step 0 answers s = .ok none s := rfl

theorem boundedLoop_done (h : done s = true) :
    boundedLoop done step (n + 1) answers s = .ok (some answers) s := by
  unfold boundedLoop
  rw [Stateful.bind_run, Stateful.get_run]
  simp only [h, if_true, Stateful.pure_run]

theorem boundedLoop_step (h : done s = false) :
    boundedLoop done step (n + 1) answers s = match step s with
      | .ok answer t => boundedLoop done step n (answers ++ answer.toList) t
      | .error e t => .error e t := by
  conv_lhs => unfold boundedLoop
  rw [Stateful.bind_run, Stateful.get_run]
  simp only [h, Bool.false_eq_true, if_false, Stateful.bind_run]
  cases step s <;> rfl

theorem Steps.zero_iff : Steps done step 0 s answers t ↔ answers = [] ∧ t = s := by
  constructor
  · rintro ⟨⟩
    exact ⟨rfl, rfl⟩
  · rintro ⟨rfl, rfl⟩
    exact .zero _

/-- No step starts from a state that is done. -/
theorem Steps.eq_zero (h : Steps done step n s answers t) (hdone : done s = true) : n = 0 := by
  cases h with
  | zero => rfl
  | succ hnot => exact absurd (hdone.symm.trans hnot) (by decide)

/-- The loop returns when fewer steps than its bound reach a state that is done. -/
theorem boundedLoop_eq_some_iff {before results : List ρ} :
    boundedLoop done step n before s = .ok (some results) t ↔
      ∃ k < n, ∃ answers, results = before ++ answers ∧ Steps done step k s answers t ∧
        done t = true := by
  induction n generalizing before s with
  | zero => simp [boundedLoop_zero]
  | succ n ih =>
      cases hdone : done s with
      | true =>
          rw [boundedLoop_done hdone]
          constructor
          · rintro ⟨⟩
            exact ⟨0, Nat.succ_pos n, [], (List.append_nil _).symm, .zero _, hdone⟩
          · rintro ⟨k, -, answers, rfl, hsteps, -⟩
            obtain rfl := hsteps.eq_zero hdone
            obtain ⟨rfl, rfl⟩ := Steps.zero_iff.mp hsteps
            rw [List.append_nil]
      | false =>
          rw [boundedLoop_step hdone]
          constructor
          · intro h
            cases hstep : step s with
            | error e u =>
                rw [hstep] at h
                cases h
            | ok answer u =>
                rw [hstep] at h
                obtain ⟨k, hk, answers, rfl, hsteps, ht⟩ := ih.mp h
                exact ⟨k + 1, Nat.succ_lt_succ hk, answer.toList ++ answers,
                  List.append_assoc _ _ _, .succ hdone hstep hsteps, ht⟩
          · rintro ⟨k, hk, answers, rfl, hsteps, ht⟩
            cases hsteps with
            | zero => exact absurd (ht.symm.trans hdone) (by decide)
            | succ _ hstep hrest =>
                rw [hstep]
                exact ih.mpr ⟨_, Nat.lt_of_succ_lt_succ hk, _, (List.append_assoc _ _ _).symm,
                  hrest, ht⟩

/-- The loop runs out when as many steps as its bound were taken. -/
theorem boundedLoop_eq_none_iff {before : List ρ} :
    boundedLoop done step n before s = .ok none t ↔ ∃ answers, Steps done step n s answers t := by
  induction n generalizing before s with
  | zero =>
      rw [boundedLoop_zero]
      constructor
      · rintro ⟨⟩
        exact ⟨[], .zero _⟩
      · rintro ⟨answers, hsteps⟩
        obtain ⟨rfl, rfl⟩ := Steps.zero_iff.mp hsteps
        rfl
  | succ n ih =>
      cases hdone : done s with
      | true =>
          rw [boundedLoop_done hdone]
          constructor
          · rintro ⟨⟩
          · rintro ⟨answers, hsteps⟩
            exact absurd (hsteps.eq_zero hdone) (Nat.succ_ne_zero n)
      | false =>
          rw [boundedLoop_step hdone]
          constructor
          · intro h
            cases hstep : step s with
            | error e u =>
                rw [hstep] at h
                cases h
            | ok answer u =>
                rw [hstep] at h
                obtain ⟨answers, hsteps⟩ := ih.mp h
                exact ⟨_, .succ hdone hstep hsteps⟩
          · rintro ⟨answers, hsteps⟩
            cases hsteps with
            | succ _ hstep hrest =>
                rw [hstep]
                exact ih.mpr ⟨_, hrest⟩

/-- An exception comes out of one of the steps. -/
theorem boundedLoop_eq_error_iff {before : List ρ} {e : ε} :
    boundedLoop done step n before s = .error e t ↔
      ∃ k < n, ∃ answers u, Steps done step k s answers u ∧ done u = false ∧
        step u = .error e t := by
  induction n generalizing before s with
  | zero => simp [boundedLoop_zero]
  | succ n ih =>
      cases hdone : done s with
      | true =>
          rw [boundedLoop_done hdone]
          constructor
          · rintro ⟨⟩
          · rintro ⟨k, -, answers, u, hsteps, hu, -⟩
            obtain rfl := hsteps.eq_zero hdone
            obtain ⟨rfl, rfl⟩ := Steps.zero_iff.mp hsteps
            exact absurd (hdone.symm.trans hu) (by decide)
      | false =>
          rw [boundedLoop_step hdone]
          constructor
          · intro h
            cases hstep : step s with
            | error e' u =>
                rw [hstep] at h
                cases h
                exact ⟨0, Nat.succ_pos n, [], s, .zero s, hdone, hstep⟩
            | ok answer u =>
                rw [hstep] at h
                obtain ⟨k, hk, answers, v, hsteps, hv, herror⟩ := ih.mp h
                exact ⟨k + 1, Nat.succ_lt_succ hk, _, v, .succ hdone hstep hsteps, hv, herror⟩
          · rintro ⟨k, hk, answers, u, hsteps, hu, herror⟩
            cases hsteps with
            | zero => rw [herror]
            | succ _ hstep hrest =>
                rw [hstep]
                exact ih.mpr ⟨_, Nat.lt_of_succ_lt_succ hk, _, u, hrest, hu, herror⟩

end Stateful
