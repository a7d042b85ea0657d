import Mathlib

/-!
# Stateful computations that may raise

A method of a mutable object is a computation in `EStateM`: a raised exception
keeps the writes made before it.  This file says how such a computation is
taken apart, and what it means that it changes the state only in a given way.

* `finalState` — the state left behind, whether the computation returned or raised.
* `bind_eq_ok_iff`, `bind_eq_error_iff` — inversion of a sequence.
* `Relates` — every run relates the state before it to the state after it; closed
  under sequencing for a transitive relation.
* `runAll` — a sequence of calls, each of which may raise without stopping the next.
-/

namespace Stateful

universe u

variable {ε σ : Type u} {α β : Type u}

/-- The state a run leaves, returned or raised. -/
def finalState : EStateM.Result ε σ α → σ
  | .ok _ s => s
  | .error _ s => s

@[simp] theorem finalState_ok (a : α) (s : σ) :
    finalState (.ok a s : EStateM.Result ε σ α) = s := rfl

@[simp] theorem finalState_error (e : ε) (s : σ) :
    finalState (.error e s : EStateM.Result ε σ α) = s := rfl

/-- Whether a run returned. -/
def returned : EStateM.Result ε σ α → Bool
  | .ok _ _ => true
  | .error _ _ => false

/-- A run that returned, of a computation without a value. -/
theorem eq_ok_of_returned {r : EStateM.Result ε σ PUnit} (h : returned r = true) :
    r = .ok ⟨⟩ (finalState r) := by
  cases r with
  | ok _ s => rfl
  | error e s => cases h

/-- A pure computation that may raise, inside a stateful one. -/
def raising : Except ε α → EStateM ε σ α
  | .ok a => fun s => .ok a s
  | .error e => fun s => .error e s

@[simp] theorem raising_ok (a : α) (s : σ) : (raising (.ok a) : EStateM ε σ α) s = .ok a s := rfl

@[simp] theorem raising_error (e : ε) (s : σ) :
    (raising (.error e) : EStateM ε σ α) s = .error e s := rfl

@[simp] theorem bind_run (x : EStateM ε σ α) (f : α → EStateM ε σ β) (s : σ) :
    (x >>= f) s = match x s with
      | .ok a t => f a t
      | .error e t => .error e t := by
  show EStateM.bind x f s = _
  unfold EStateM.bind
  cases x s <;> rfl

@[simp] theorem pure_run (a : α) (s : σ) : (pure a : EStateM ε σ α) s = .ok a s := rfl

@[simp] theorem get_run (s : σ) : (get : EStateM ε σ σ) s = .ok s s := rfl

@[simp] theorem modify_run (f : σ → σ) (s : σ) :
    (modify f : EStateM ε σ PUnit) s = .ok ⟨⟩ (f s) := rfl

@[simp] theorem throw_run (e : ε) (s : σ) : (throw e : EStateM ε σ α) s = .error e s := rfl

/-- A handler starts from the state in which the exception was raised. -/
theorem tryCatch_run (x : EStateM ε σ α) (handler : ε → EStateM ε σ α) (s : σ) :
    (tryCatch x handler) s = match x s with
      | .ok a t => .ok a t
      | .error e t => handler e t := by
  show EStateM.tryCatch x handler s = _
  unfold EStateM.tryCatch
  cases x s <;> rfl

theorem bind_eq_ok_iff {x : EStateM ε σ α} {f : α → EStateM ε σ β} {s s' : σ} {b : β} :
    (x >>= f) s = .ok b s' ↔ ∃ a t, x s = .ok a t ∧ f a t = .ok b s' := by
  rw [bind_run]
  cases x s <;> simp

theorem bind_eq_error_iff {x : EStateM ε σ α} {f : α → EStateM ε σ β} {s s' : σ} {e : ε} :
    (x >>= f) s = .error e s' ↔
      x s = .error e s' ∨ ∃ a t, x s = .ok a t ∧ f a t = .error e s' := by
  rw [bind_run]
  cases x s <;> simp

/-! ## What a run changes -/

/-- Every run of `m` relates the state before to the state after. -/
def Relates (R : σ → σ → Prop) (m : EStateM ε σ α) : Prop := ∀ s, R s (finalState (m s))

theorem Relates.bind {R : σ → σ → Prop} (htrans : ∀ {a b c}, R a b → R b c → R a c)
    {m : EStateM ε σ α} {f : α → EStateM ε σ β} (hm : Relates R m)
    (hf : ∀ a, Relates R (f a)) : Relates R (m >>= f) := by
  intro s
  have hs := hm s
  rw [bind_run]
  cases h : m s with
  | error e t => rw [h] at hs; exact hs
  | ok a t => rw [h] at hs; exact htrans hs (hf a t)

/-! ## Sequences of calls -/

/-- The state after the calls in turn; a call that raises does not stop the next one. -/
def runAll (calls : List (EStateM ε σ α)) (s : σ) : σ :=
  calls.foldl (fun t call => finalState (call t)) s

@[simp] theorem runAll_nil (s : σ) : runAll ([] : List (EStateM ε σ α)) s = s := rfl

@[simp] theorem runAll_cons (call : EStateM ε σ α) (calls : List (EStateM ε σ α)) (s : σ) :
    runAll (call :: calls) s = runAll calls (finalState (call s)) := rfl

/-- What every call preserves, the sequence preserves. -/
theorem runAll_induction {P : σ → Prop} {calls : List (EStateM ε σ α)}
    (hstep : ∀ call ∈ calls, ∀ s, P s → P (finalState (call s))) {s : σ} (hs : P s) :
    P (runAll calls s) := by
  induction calls generalizing s with
  | nil => exact hs
  | cons call calls ih =>
      rw [runAll_cons]
      exact ih (fun c hc => hstep c (by simp [hc])) (hstep call (by simp) s hs)

end Stateful
