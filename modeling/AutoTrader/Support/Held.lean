import Mathlib

/-!
# Conditions held without interruption

A condition is sampled from time to time.  The start of the present hold is remembered from
sample to sample and forgotten when the condition does not hold.

* `advance`, `start` — the remembered start, and what it is after a list of samples.
* `HeldFrom` — the condition held at a sample and at every later one.
* `held_long_iff` — the remembered start is long ago exactly when the condition held from a
  sample on that is.
-/

namespace Held

/-- The condition at one time. -/
structure Sample where
  time : ℤ
  held : Bool
  deriving DecidableEq

/-- The start of the hold after one more sample. -/
def advance (start : Option ℤ) (sample : Sample) : Option ℤ :=
  if sample.held then some (start.getD sample.time) else none

/-- The start of the hold after all samples. -/
def start (samples : List Sample) : Option ℤ := samples.foldl advance none

/-- The condition held at the `i`-th sample and at every later one. -/
def HeldFrom (samples : List Sample) (i : ℕ) : Prop :=
  i < samples.length ∧ ∀ j sample, i ≤ j → samples[j]? = some sample → sample.held = true

/-- The times of the samples do not go back. -/
def Ordered (samples : List Sample) : Prop :=
  samples.Pairwise fun first second => first.time ≤ second.time

variable {samples : List Sample} {sample : Sample} {i : ℕ} {t : ℤ}

theorem start_concat : start (samples ++ [sample]) = advance (start samples) sample := by
  unfold start
  rw [List.foldl_append]
  rfl

theorem HeldFrom.concat (h : HeldFrom samples i) (hheld : sample.held = true) :
    HeldFrom (samples ++ [sample]) i := by
  refine ⟨by rw [List.length_append]; exact h.1.trans_le (Nat.le_add_right _ _), ?_⟩
  intro j other hij hother
  rcases Nat.lt_or_ge j samples.length with hlt | hge
  · rw [List.getElem?_append_left hlt] at hother
    exact h.2 j other hij hother
  · rw [List.getElem?_append_right hge] at hother
    rw [List.mem_singleton.mp (List.mem_of_getElem? hother)]
    exact hheld

theorem heldFrom_last (hheld : sample.held = true) :
    HeldFrom (samples ++ [sample]) samples.length := by
  refine ⟨by rw [List.length_append]; exact Nat.lt_succ_self _, fun j other hj hother => ?_⟩
  rw [List.getElem?_append_right hj] at hother
  rw [List.mem_singleton.mp (List.mem_of_getElem? hother)]
  exact hheld

theorem HeldFrom.of_concat (h : HeldFrom (samples ++ [sample]) i) (hi : i < samples.length) :
    HeldFrom samples i := by
  refine ⟨hi, fun j other hij hother => h.2 j other hij ?_⟩
  rw [List.getElem?_append_left (List.getElem?_eq_some_iff.mp hother).1]
  exact hother

theorem HeldFrom.held_last (h : HeldFrom (samples ++ [sample]) i) : sample.held = true := by
  have hi := h.1
  rw [List.length_append, List.length_singleton] at hi
  refine h.2 samples.length sample (Nat.le_of_lt_succ hi) ?_
  rw [List.getElem?_append_right le_rfl, Nat.sub_self]
  rfl

/-- The remembered start is the time of a sample from which on the condition held. -/
theorem exists_heldFrom (h : start samples = some t) :
    ∃ i sample, HeldFrom samples i ∧ samples[i]? = some sample ∧ sample.time = t := by
  induction samples using List.reverseRecOn generalizing t with
  | nil => cases h
  | append_singleton samples sample ih =>
      rw [start_concat, advance] at h
      split at h
      · rename_i hheld
        cases hstart : start samples with
        | none =>
            rw [hstart] at h
            refine ⟨samples.length, sample, heldFrom_last hheld, ?_, Option.some.inj h⟩
            rw [List.getElem?_append_right le_rfl, Nat.sub_self]
            rfl
        | some since =>
            rw [hstart] at h
            cases h
            obtain ⟨i, first, hfrom, hfirst, htime⟩ := ih hstart
            refine ⟨i, first, hfrom.concat hheld, ?_, htime⟩
            rw [List.getElem?_append_left hfrom.1]
            exact hfirst
      · cases h

/-- A hold is remembered from its first sample. -/
theorem start_le (hordered : Ordered samples) (h : HeldFrom samples i)
    (hsample : samples[i]? = some sample) : ∃ t, start samples = some t ∧ t ≤ sample.time := by
  induction samples using List.reverseRecOn generalizing i sample with
  | nil => exact absurd h.1 (Nat.not_lt_zero i)
  | append_singleton samples last ih =>
      obtain ⟨hinit, -, hlast⟩ := List.pairwise_append.mp hordered
      rw [start_concat, advance, if_pos h.held_last]
      refine ⟨_, rfl, ?_⟩
      rcases Nat.lt_or_ge i samples.length with hlt | hge
      · rw [List.getElem?_append_left hlt] at hsample
        obtain ⟨t, hstart, hle⟩ := ih hinit (h.of_concat hlt) hsample
        rw [hstart]
        exact hle
      · rw [List.getElem?_append_right hge] at hsample
        rw [List.mem_singleton.mp (List.mem_of_getElem? hsample)]
        cases hstart : start samples with
        | none => exact le_rfl
        | some since =>
            -- an older start is the time of an older sample
            obtain ⟨j, first, -, hfirst, rfl⟩ := exists_heldFrom hstart
            exact hlast first (List.mem_of_getElem? hfirst) last List.mem_cons_self

/-- The remembered start is long ago exactly when the condition held from such a sample on. -/
theorem held_long_iff (hordered : Ordered samples) (duration now : ℤ) :
    (∃ t, start samples = some t ∧ duration ≤ now - t) ↔
      ∃ i sample, HeldFrom samples i ∧ samples[i]? = some sample ∧
        duration ≤ now - sample.time := by
  constructor
  · rintro ⟨t, hstart, hlong⟩
    obtain ⟨i, sample, hfrom, hsample, rfl⟩ := exists_heldFrom hstart
    exact ⟨i, sample, hfrom, hsample, hlong⟩
  · rintro ⟨i, sample, hfrom, hsample, hlong⟩
    obtain ⟨t, hstart, hle⟩ := start_le hordered hfrom hsample
    exact ⟨t, hstart, by omega⟩

end Held
