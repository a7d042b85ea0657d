import AutoTrader.Arithmetic.PlainDecimal

/-!
# Common steps of decimals

A grid of decimal steps: the whole multiples of a step, the multiples that several steps
have in common, and the greatest multiple that is not above an amount.

* `IsMultiple` — a whole number of steps.
* `truncate` — rounding toward zero to an integer.
* `commonInteger`, `commonInteger_dvd_iff` — the least common multiple of positive integers, by
  a product over a greatest common divisor.
* `isMultiple_commonStep` — the steps of finite decimals have one common step.
* `isGreatest_truncate` — the rounded down number of steps reaches the greatest multiple.
-/

namespace Arithmetic

/-! ## Rounding toward zero -/

/-- A number without its fraction. -/
def truncate (q : ℚ) : ℤ := if 0 ≤ q then ⌊q⌋ else ⌈q⌉

theorem truncate_of_nonneg {q : ℚ} (h : 0 ≤ q) : truncate q = ⌊q⌋ := if_pos h

@[simp] theorem truncate_intCast (n : ℤ) : truncate (n : ℚ) = n := by
  unfold truncate
  split
  · exact Int.floor_intCast n
  · exact Int.ceil_intCast n

/-! ## Multiples -/

/-- A whole number of steps. -/
def IsMultiple (step x : ℚ) : Prop := ∃ n : ℤ, x = n * step

theorem isMultiple_zero (step : ℚ) : IsMultiple step 0 := ⟨0, by simp⟩

/-- What is left of a number after its whole steps, rounded toward zero. -/
def remainder (x step : ℚ) : ℚ := x - truncate (x / step) * step

theorem remainder_eq_zero {step x : ℚ} (hstep : step ≠ 0) (h : IsMultiple step x) :
    remainder x step = 0 := by
  obtain ⟨n, rfl⟩ := h
  rw [remainder, mul_div_cancel_right₀ _ hstep, truncate_intCast, sub_self]

/-- The rounded down number of steps makes the greatest multiple that is not above. -/
theorem isGreatest_truncate {step quantity : ℚ} (hstep : 0 < step) (hquantity : 0 ≤ quantity) :
    IsGreatest {x | x ≤ quantity ∧ IsMultiple step x}
      (truncate (quantity / step) * step) := by
  rw [truncate_of_nonneg (div_nonneg hquantity hstep.le)]
  constructor
  · exact ⟨(le_div_iff₀ hstep).mp (Int.floor_le _), ⌊quantity / step⌋, rfl⟩
  · rintro x ⟨hle, n, rfl⟩
    have hn : (n : ℚ) ≤ quantity / step := (le_div_iff₀ hstep).mpr hle
    have hfloor : n ≤ ⌊quantity / step⌋ := Int.le_floor.mpr hn
    exact mul_le_mul_of_nonneg_right (by exact_mod_cast hfloor) hstep.le

/-! ## Common multiples of integers -/

/-- The running least common multiple. -/
def commonInteger (first : ℤ) (others : List ℤ) : ℤ :=
  others.foldl (fun common step => common * step / (Int.gcd common step : ℤ)) first

theorem mul_ediv_gcd {a b : ℤ} (ha : 0 < a) (hb : 0 < b) :
    a * b / (Int.gcd a b : ℤ) = (Int.lcm a b : ℤ) := by
  have hgcd : (Int.gcd a b : ℤ) ≠ 0 := by
    exact_mod_cast (Int.gcd_pos_of_ne_zero_left b ha.ne').ne'
  have hproduct : a * b = Int.gcd a b * (Int.lcm a b : ℤ) := by
    have h : (Int.gcd a b : ℤ) * Int.lcm a b = a.natAbs * b.natAbs := by
      exact_mod_cast Int.gcd_mul_lcm a b
    rw [h, Int.natAbs_of_nonneg ha.le, Int.natAbs_of_nonneg hb.le]
  rw [hproduct, Int.mul_ediv_cancel_left _ hgcd]

theorem commonInteger_pos {first : ℤ} {others : List ℤ} (hfirst : 0 < first)
    (hothers : ∀ step ∈ others, 0 < step) : 0 < commonInteger first others := by
  induction others generalizing first with
  | nil => exact hfirst
  | cons step others ih =>
      have hstep : 0 < step := hothers step (by simp)
      have hpos : 0 < first * step / (Int.gcd first step : ℤ) := by
        rw [mul_ediv_gcd hfirst hstep]
        exact_mod_cast Int.lcm_pos hfirst.ne' hstep.ne'
      exact ih hpos fun s hs => hothers s (by simp [hs])

/-- The running least common multiple divides exactly the common multiples. -/
theorem commonInteger_dvd_iff {first : ℤ} {others : List ℤ} (hfirst : 0 < first)
    (hothers : ∀ step ∈ others, 0 < step) (m : ℤ) :
    commonInteger first others ∣ m ↔ first ∣ m ∧ ∀ step ∈ others, step ∣ m := by
  induction others generalizing first with
  | nil => simp [commonInteger]
  | cons step others ih =>
      have hstep : 0 < step := hothers step (by simp)
      have hlcm : first * step / (Int.gcd first step : ℤ) = (Int.lcm first step : ℤ) :=
        mul_ediv_gcd hfirst hstep
      have hpos : 0 < first * step / (Int.gcd first step : ℤ) := by
        rw [hlcm]
        exact_mod_cast Int.lcm_pos hfirst.ne' hstep.ne'
      have htail := ih hpos fun s hs => hothers s (by simp [hs])
      have hhead : first * step / (Int.gcd first step : ℤ) ∣ m ↔ first ∣ m ∧ step ∣ m := by
        rw [hlcm, Int.coe_lcm, lcm_dvd_iff]
      show commonInteger (first * step / (Int.gcd first step : ℤ)) others ∣ m ↔ _
      rw [htail, hhead]
      simp [and_assoc]

/-! ## Common steps -/

/-- The scaled coefficient of a decimal at an exponent that is not above its own. -/
def PlainDecimal.scaled (d : PlainDecimal) (exponent : ℤ) : ℤ :=
  truncate (d.value * 10 ^ (-exponent))

theorem PlainDecimal.scaled_mul {d : PlainDecimal} {exponent : ℤ} (h : exponent ≤ d.exponent) :
    (d.scaled exponent : ℚ) * 10 ^ exponent = d.value := by
  have hten : (10 : ℚ) ≠ 0 := by norm_num
  have hinteger : d.value * 10 ^ (-exponent) =
      (((if d.negative then -1 else 1) * d.coefficient * 10 ^ (d.exponent - exponent).toNat : ℤ) :
        ℚ) := by
    have hpower : (10 : ℚ) ^ d.exponent * 10 ^ (-exponent) =
        10 ^ (d.exponent - exponent).toNat := by
      rw [← zpow_add₀ hten, ← zpow_natCast, Int.toNat_of_nonneg (sub_nonneg.mpr h), sub_eq_add_neg]
    rw [PlainDecimal.value, mul_assoc, hpower]
    push_cast
    rfl
  rw [PlainDecimal.scaled, hinteger, truncate_intCast, ← hinteger, mul_assoc, ← zpow_add₀ hten]
  simp

/-- The smallest exponent of decimals. -/
def commonExponent (first : PlainDecimal) (others : List PlainDecimal) : ℤ :=
  others.foldl (fun exponent d => min exponent d.exponent) first.exponent

theorem commonExponent_le {first : PlainDecimal} {others : List PlainDecimal} {d : PlainDecimal}
    (hd : d ∈ first :: others) : commonExponent first others ≤ d.exponent := by
  suffices h : ∀ (bound : ℤ) (others : List PlainDecimal),
      others.foldl (fun exponent d => min exponent d.exponent) bound ≤ bound ∧
        ∀ d ∈ others, others.foldl (fun exponent d => min exponent d.exponent) bound ≤ d.exponent by
    rcases List.mem_cons.mp hd with rfl | hd
    · exact (h _ others).1
    · exact (h _ others).2 d hd
  intro bound others
  induction others generalizing bound with
  | nil => simp
  | cons other others ih =>
      obtain ⟨hbound, hall⟩ := ih (min bound other.exponent)
      refine ⟨hbound.trans (min_le_left _ _), ?_⟩
      intro d hd
      rcases List.mem_cons.mp hd with rfl | hd
      · exact hbound.trans (min_le_right _ _)
      · exact hall d hd

/-- The common step: the common multiple of the scaled coefficients, scaled back. -/
def commonStep (first : PlainDecimal) (others : List PlainDecimal) : ℚ :=
  let exponent := commonExponent first others
  commonInteger (first.scaled exponent) (others.map (·.scaled exponent)) / 10 ^ (-exponent)

section

variable {first : PlainDecimal} {others : List PlainDecimal}

theorem scaled_pos (hpos : ∀ d ∈ first :: others, 0 < d.value) {d : PlainDecimal}
    (hd : d ∈ first :: others) : 0 < d.scaled (commonExponent first others) := by
  have hvalue := hpos d hd
  rw [← PlainDecimal.scaled_mul (commonExponent_le hd)] at hvalue
  have h := pos_of_mul_pos_left hvalue (zpow_pos (by norm_num) _).le
  exact_mod_cast h

theorem scaled_pos_others (hpos : ∀ d ∈ first :: others, 0 < d.value) :
    ∀ step ∈ others.map (·.scaled (commonExponent first others)), 0 < step := by
  intro step hstep
  obtain ⟨d, hd, rfl⟩ := List.mem_map.mp hstep
  exact scaled_pos hpos (by simp [hd])

theorem commonStep_eq : commonStep first others =
    commonInteger (first.scaled (commonExponent first others))
      (others.map (·.scaled (commonExponent first others))) *
        10 ^ commonExponent first others := by
  rw [commonStep, zpow_neg, div_inv_eq_mul]

theorem commonStep_pos (hpos : ∀ d ∈ first :: others, 0 < d.value) :
    0 < commonStep first others := by
  rw [commonStep_eq]
  have h := commonInteger_pos (scaled_pos hpos (d := first) (by simp)) (scaled_pos_others hpos)
  exact mul_pos (by exact_mod_cast h) (zpow_pos (by norm_num) _)

/-- A number of scaled steps is a multiple of a step exactly when the step's scaled
coefficient divides it. -/
theorem isMultiple_scaled_iff {unit : ℚ} (hunit : unit ≠ 0) (step m : ℤ) :
    IsMultiple (step * unit) (m * unit) ↔ step ∣ m := by
  constructor
  · rintro ⟨n, h⟩
    rw [← mul_assoc] at h
    have hm : m = n * step := by exact_mod_cast mul_right_cancel₀ hunit h
    exact ⟨n, by rw [hm, mul_comm]⟩
  · rintro ⟨n, rfl⟩
    exact ⟨n, by push_cast; ring⟩

/-- The multiples of the common step are the numbers that are multiples of every step. -/
theorem isMultiple_commonStep (hpos : ∀ d ∈ first :: others, 0 < d.value) (x : ℚ) :
    IsMultiple (commonStep first others) x ↔ ∀ d ∈ first :: others, IsMultiple d.value x := by
  set exponent := commonExponent first others with hexponent
  have hunit : (10 : ℚ) ^ exponent ≠ 0 := (zpow_pos (by norm_num) _).ne'
  have hvalue : ∀ d ∈ first :: others, d.value = d.scaled exponent * 10 ^ exponent :=
    fun d hd => (PlainDecimal.scaled_mul (commonExponent_le hd)).symm
  have hdvd := commonInteger_dvd_iff (scaled_pos hpos (d := first) (by simp))
    (scaled_pos_others hpos)
  have hmultiple : ∀ m : ℤ, IsMultiple (commonStep first others) (m * 10 ^ exponent) ↔
      ∀ d ∈ first :: others, IsMultiple d.value (m * 10 ^ exponent) := by
    intro m
    rw [commonStep_eq, isMultiple_scaled_iff hunit, hdvd]
    simp only [List.mem_map, forall_exists_index, and_imp, forall_apply_eq_imp_iff₂,
      List.forall_mem_cons]
    rw [hvalue first (by simp), isMultiple_scaled_iff hunit]
    refine and_congr Iff.rfl (forall₂_congr fun d hd => ?_)
    rw [hvalue d (by simp [hd]), isMultiple_scaled_iff hunit]
  constructor
  · rintro ⟨n, rfl⟩
    have hx : (n : ℚ) * commonStep first others =
        ((n * commonInteger (first.scaled exponent) (others.map (·.scaled exponent)) : ℤ) : ℚ) *
          10 ^ exponent := by
      rw [commonStep_eq]
      push_cast
      ring
    rw [hx, ← hmultiple, ← hx]
    exact ⟨n, rfl⟩
  · intro h
    obtain ⟨n, hn⟩ := h first (by simp)
    have hx : x = ((n * first.scaled exponent : ℤ) : ℚ) * 10 ^ exponent := by
      rw [hn, hvalue first (by simp)]
      push_cast
      ring
    rw [hx] at h ⊢
    exact (hmultiple _).mpr h

end

end Arithmetic
