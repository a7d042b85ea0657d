import Mathlib

/-!
# Rounded decimal arithmetic

A decimal context rounds every result of an arithmetic operation.  This file
develops what accounting code may rely on whatever the context's precision is:

* `DecimalContext` — a rounding function that is monotone, idempotent and keeps
  zero; `DecimalContext.exact` is the one that never rounds.
* `halfEven` — rounding of a rational to the nearest integer, ties to even.
* `DecimalContext.significant` — rounding to a number of significant decimal
  digits, half to even, which is how a general decimal arithmetic context works.
* `DecimalContext.sum` — the running sum of a list, rounded after each addition:
  its order of magnitude, its monotonicity, and its agreement with the exact sum
  when nothing is rounded away.
-/

namespace Arithmetic

/-! ## Rounding contexts -/

/-- What the arithmetic of a decimal context does to an exact result. -/
structure DecimalContext where
  /-- The representable value an exact result is replaced by. -/
  round : ℚ → ℚ
  /-- Rounding respects the order. -/
  round_mono : Monotone round
  /-- A rounded value is representable. -/
  round_round : ∀ q, round (round q) = round q
  /-- Zero is representable. -/
  round_zero : round 0 = 0

namespace DecimalContext

/-- The context that never rounds: exact rational arithmetic. -/
def exact : DecimalContext where
  round q := q
  round_mono := monotone_id
  round_round _ := rfl
  round_zero := rfl

@[simp] theorem exact_round (q : ℚ) : exact.round q = q := rfl

variable (ctx : DecimalContext)

/-- A value is representable when rounding leaves it alone. -/
def Representable (q : ℚ) : Prop := ctx.round q = q

/-- Addition in the context. -/
def add (a b : ℚ) : ℚ := ctx.round (a + b)

/-- Subtraction in the context. -/
def sub (a b : ℚ) : ℚ := ctx.round (a - b)

/-- Multiplication in the context. -/
def mul (a b : ℚ) : ℚ := ctx.round (a * b)

/-- Division in the context; the divisor is checked by the caller. -/
def div (a b : ℚ) : ℚ := ctx.round (a / b)

theorem representable_zero : ctx.Representable 0 := ctx.round_zero

theorem representable_add (a b : ℚ) : ctx.Representable (ctx.add a b) := ctx.round_round _

theorem round_nonneg {q : ℚ} (h : 0 ≤ q) : 0 ≤ ctx.round q := by
  have := ctx.round_mono h
  rwa [ctx.round_zero] at this

/-- Adding something nonnegative to a representable value never makes it smaller. -/
theorem le_add_of_nonneg {a b : ℚ} (ha : ctx.Representable a) (hb : 0 ≤ b) :
    a ≤ ctx.add a b := by
  have h : ctx.round a ≤ ctx.round (a + b) := ctx.round_mono (by linarith)
  rwa [show ctx.round a = a from ha] at h

theorem add_nonneg {a b : ℚ} (ha : 0 ≤ a) (hb : 0 ≤ b) : 0 ≤ ctx.add a b :=
  ctx.round_nonneg (by linarith)

theorem add_comm (a b : ℚ) : ctx.add a b = ctx.add b a := by
  rw [add, add, show a + b = b + a by ring]

/-! ## Running sums -/

/-- The running sum of a list, rounded after every addition. -/
def sum (qs : List ℚ) : ℚ := qs.foldl ctx.add 0

@[simp] theorem sum_nil : ctx.sum [] = 0 := rfl

theorem sum_append_singleton (qs : List ℚ) (q : ℚ) :
    ctx.sum (qs ++ [q]) = ctx.add (ctx.sum qs) q := by
  simp only [sum, List.foldl_append, List.foldl_cons, List.foldl_nil]

theorem sum_representable (qs : List ℚ) : ctx.Representable (ctx.sum qs) := by
  rcases List.eq_nil_or_concat' qs with rfl | ⟨qs, q, rfl⟩
  · exact ctx.representable_zero
  · rw [sum_append_singleton]
    exact ctx.representable_add _ _

theorem sum_nonneg {qs : List ℚ} (h : ∀ q ∈ qs, 0 ≤ q) : 0 ≤ ctx.sum qs := by
  induction qs using List.reverseRecOn with
  | nil => exact le_refl 0
  | append_singleton qs q ih =>
      rw [sum_append_singleton]
      exact ctx.add_nonneg (ih fun r hr => h r (by simp [hr])) (h q (by simp))

/-- Appending nonnegative entries never lowers a running sum, however it is
rounded. -/
theorem sum_le_sum_append (qs : List ℚ) {rs : List ℚ} (h : ∀ r ∈ rs, 0 ≤ r) :
    ctx.sum qs ≤ ctx.sum (qs ++ rs) := by
  induction rs using List.reverseRecOn with
  | nil => simp
  | append_singleton rs r ih =>
      rw [← List.append_assoc, sum_append_singleton]
      have hle := ih fun s hs => h s (by simp [hs])
      exact hle.trans (ctx.le_add_of_nonneg (ctx.sum_representable _) (h r (by simp)))

@[simp] theorem exact_add (a b : ℚ) : exact.add a b = a + b := rfl

theorem exact_sum (qs : List ℚ) : exact.sum qs = qs.sum := by
  induction qs using List.reverseRecOn with
  | nil => rfl
  | append_singleton qs q ih =>
      simp [sum_append_singleton, ih]

/-- A running sum loses nothing when every partial sum is representable. -/
def SumExact (qs : List ℚ) : Prop :=
  ∀ rs, rs <+: qs → ctx.Representable rs.sum

theorem sum_eq_of_sumExact {qs : List ℚ} (h : ctx.SumExact qs) : ctx.sum qs = qs.sum := by
  induction qs using List.reverseRecOn with
  | nil => rfl
  | append_singleton qs q ih =>
      have hprefix : ctx.SumExact qs := fun rs hrs => h rs (hrs.trans (List.prefix_append _ _))
      have hwhole : ctx.Representable (qs ++ [q]).sum := h _ (List.prefix_refl _)
      have hsum : (qs ++ [q]).sum = qs.sum + q := by simp
      rw [sum_append_singleton, ih hprefix, hsum]
      rwa [hsum] at hwhole

end DecimalContext

/-! ## Rounding to the nearest integer -/

/-- The nearest integer, the even one when two are equally near. -/
def halfEven (q : ℚ) : ℤ :=
  if q - ⌊q⌋ < 1 / 2 then ⌊q⌋
  else if 1 / 2 < q - ⌊q⌋ then ⌊q⌋ + 1
  else if ⌊q⌋ % 2 = 0 then ⌊q⌋ else ⌊q⌋ + 1

theorem floor_le_halfEven (q : ℚ) : ⌊q⌋ ≤ halfEven q := by
  unfold halfEven
  split_ifs <;> omega

theorem halfEven_le_floor_add_one (q : ℚ) : halfEven q ≤ ⌊q⌋ + 1 := by
  unfold halfEven
  split_ifs <;> omega

@[simp] theorem halfEven_intCast (n : ℤ) : halfEven n = n := by
  simp [halfEven]

/-- Rounding to the nearest integer is monotone: between two values with the same
floor only the fraction decides, and otherwise an integer lies between them. -/
theorem halfEven_mono : Monotone halfEven := by
  intro p q hpq
  rcases (Int.floor_mono hpq).lt_or_eq with hlt | heq
  · exact (halfEven_le_floor_add_one p).trans
      ((Int.add_one_le_iff.mpr hlt).trans (floor_le_halfEven q))
  · unfold halfEven
    rw [heq]
    split_ifs <;> first | omega | linarith

/-- Rounding to the nearest integer does not prefer a sign. -/
theorem halfEven_neg (q : ℚ) : halfEven (-q) = -halfEven q := by
  by_cases hint : ∃ n : ℤ, q = n
  · obtain ⟨n, rfl⟩ := hint
    rw [← Int.cast_neg, halfEven_intCast, halfEven_intCast]
  · have hlt : (⌊q⌋ : ℚ) < q :=
      lt_of_le_of_ne (Int.floor_le q) fun h => hint ⟨⌊q⌋, h.symm⟩
    have hfloor : ⌊-q⌋ = -⌊q⌋ - 1 := by
      rw [Int.floor_eq_iff]
      push_cast
      constructor <;> linarith [Int.lt_floor_add_one q]
    unfold halfEven
    rw [hfloor]
    push_cast
    split_ifs <;> first | omega | (exfalso; linarith)

theorem halfEven_nonneg {q : ℚ} (h : 0 ≤ q) : 0 ≤ halfEven q := by
  have hmono : halfEven ((0 : ℤ) : ℚ) ≤ halfEven q := halfEven_mono (by simpa using h)
  rwa [halfEven_intCast] at hmono

/-! ## Rounding to significant digits -/

/-- The exponent of the last digit kept when `q` has `digits` significant digits. -/
def lastDigit (digits : ℕ) (q : ℚ) : ℤ := Int.log 10 |q| + 1 - digits

/-- `q` rounded to `digits` significant decimal digits, half to even. -/
def roundSignificant (digits : ℕ) (q : ℚ) : ℚ :=
  halfEven (q / 10 ^ lastDigit digits q) * 10 ^ lastDigit digits q

@[simp] theorem roundSignificant_zero (digits : ℕ) : roundSignificant digits 0 = 0 := by
  simp [roundSignificant, show halfEven 0 = 0 by simpa using halfEven_intCast 0]

theorem roundSignificant_neg (digits : ℕ) (q : ℚ) :
    roundSignificant digits (-q) = -roundSignificant digits q := by
  simp [roundSignificant, lastDigit, neg_div, halfEven_neg]

theorem ten_zpow_pos (e : ℤ) : (0 : ℚ) < 10 ^ e := zpow_pos (by norm_num) e

/-- A multiple of a power of ten with at most `digits` digits is kept as it is. -/
theorem roundSignificant_digits {digits n : ℕ} (hd : 0 < digits) (hn : n ≤ 10 ^ digits) (e : ℤ) :
    roundSignificant digits (n * 10 ^ e) = n * 10 ^ e := by
  rcases Nat.eq_zero_or_pos n with rfl | hpos
  · simp
  set q : ℚ := n * 10 ^ e with hq
  have hqpos : 0 < q := mul_pos (by exact_mod_cast hpos) (ten_zpow_pos e)
  have hle : q ≤ 10 ^ (e + digits) := by
    rw [zpow_add₀ (by norm_num), mul_comm, hq]
    exact mul_le_mul_of_nonneg_right (by exact_mod_cast hn) (ten_zpow_pos e).le
  have hlog : (10 : ℚ) ^ Int.log 10 q ≤ q := Int.zpow_log_le_self (by norm_num) hqpos
  have hlogle : Int.log 10 q ≤ e + digits :=
    (zpow_le_zpow_iff_right₀ (by norm_num : (1 : ℚ) < 10)).mp (hlog.trans hle)
  -- the value is an integer multiple of the last digit that is kept
  obtain ⟨m, hm⟩ : ∃ m : ℤ, q = m * 10 ^ lastDigit digits q := by
    rcases hlogle.lt_or_eq with hlt | heq
    · have hshift : 0 ≤ e - lastDigit digits q := by
        rw [lastDigit, abs_of_pos hqpos]; omega
      refine ⟨n * 10 ^ (e - lastDigit digits q).toNat, ?_⟩
      push_cast
      rw [mul_assoc, ← zpow_natCast, Int.toNat_of_nonneg hshift, ← zpow_add₀ (by norm_num)]
      simp [hq]
    · have hqe : q = 10 ^ (e + digits) := le_antisymm hle (heq ▸ hlog)
      have hlast : lastDigit digits q = e + 1 := by
        rw [lastDigit, abs_of_pos hqpos, heq]; ring
      refine ⟨10 ^ (digits - 1), ?_⟩
      rw [hlast, hqe]
      push_cast
      rw [← zpow_natCast, ← zpow_add₀ (by norm_num)]
      congr 1
      omega
  rw [roundSignificant]
  have hquot : q / 10 ^ lastDigit digits q = m := by
    rw [div_eq_iff (ten_zpow_pos _).ne', ← hm]
  rw [hquot, halfEven_intCast, ← hm]

/-- Rounding a positive value gives at most as many digits as asked for. -/
theorem roundSignificant_eq_digits {digits : ℕ} {q : ℚ} (hd : 0 < digits) (hq : 0 < q) :
    ∃ n : ℕ, 10 ^ (digits - 1) ≤ n ∧ n ≤ 10 ^ digits ∧
      roundSignificant digits q = n * 10 ^ lastDigit digits q := by
  set s := lastDigit digits q with hs
  have hspos := ten_zpow_pos s
  have hlow : (10 : ℚ) ^ Int.log 10 q ≤ q := Int.zpow_log_le_self (by norm_num) hq
  have hhigh : q < (10 : ℚ) ^ (Int.log 10 q + 1) := Int.lt_zpow_succ_log_self (by norm_num) q
  have hlog : Int.log 10 q = s + (digits - 1 : ℕ) := by
    rw [hs, lastDigit, abs_of_pos hq]; omega
  have hge : (((10 ^ (digits - 1) : ℕ) : ℤ) : ℚ) ≤ q / 10 ^ s := by
    rw [le_div_iff₀ hspos]
    refine le_trans (le_of_eq ?_) hlow
    rw [hlog, zpow_add₀ (by norm_num)]
    push_cast
    rw [zpow_natCast]
    ring
  have hle : q / 10 ^ s ≤ (((10 ^ digits : ℕ) : ℤ) : ℚ) := by
    rw [div_le_iff₀ hspos]
    refine le_trans hhigh.le (le_of_eq ?_)
    rw [show Int.log 10 q + 1 = digits + s by omega, zpow_add₀ (by norm_num)]
    push_cast
    rw [zpow_natCast]
  have hlower := halfEven_mono hge
  have hupper := halfEven_mono hle
  rw [halfEven_intCast] at hlower hupper
  obtain ⟨n, hn⟩ := Int.eq_ofNat_of_zero_le ((Int.natCast_nonneg _).trans hlower)
  refine ⟨n, ?_, ?_, ?_⟩
  · exact_mod_cast hn ▸ hlower
  · exact_mod_cast hn ▸ hupper
  · rw [roundSignificant, ← hs, hn]
    push_cast
    rfl

theorem roundSignificant_nonneg {digits : ℕ} {q : ℚ} (hq : 0 ≤ q) :
    0 ≤ roundSignificant digits q := by
  rw [roundSignificant]
  have h : (0 : ℚ) ≤ q / 10 ^ lastDigit digits q := div_nonneg hq (ten_zpow_pos _).le
  have hint : (0 : ℚ) ≤ (halfEven (q / 10 ^ lastDigit digits q) : ℤ) := by
    exact_mod_cast halfEven_nonneg h
  exact mul_nonneg hint (ten_zpow_pos _).le

/-- On positive values rounding is monotone: values of one magnitude share the last
digit, and between values of different magnitudes lies a power of ten. -/
theorem roundSignificant_mono_pos {digits : ℕ} (hd : 0 < digits) {p q : ℚ} (hp : 0 < p)
    (hpq : p ≤ q) : roundSignificant digits p ≤ roundSignificant digits q := by
  have hq : 0 < q := hp.trans_le hpq
  rcases (Int.log_mono_right hp hpq (b := 10)).lt_or_eq with hlt | heq
  · obtain ⟨m, -, hm, hmeq⟩ := roundSignificant_eq_digits hd hp
    obtain ⟨n, hn, -, hneq⟩ := roundSignificant_eq_digits hd hq
    rw [hmeq, hneq]
    have hup : (m : ℚ) * 10 ^ lastDigit digits p ≤ 10 ^ (Int.log 10 p + 1) := by
      refine le_trans (mul_le_mul_of_nonneg_right (b := (m : ℚ)) (c := 10 ^ digits)
        (by exact_mod_cast hm) (ten_zpow_pos _).le) (le_of_eq ?_)
      rw [← zpow_natCast, ← zpow_add₀ (by norm_num), lastDigit, abs_of_pos hp]
      congr 1
      ring
    have hdown : (10 : ℚ) ^ Int.log 10 q ≤ (n : ℚ) * 10 ^ lastDigit digits q := by
      refine le_trans (le_of_eq ?_) (mul_le_mul_of_nonneg_right (b := 10 ^ (digits - 1))
        (c := (n : ℚ)) (by exact_mod_cast hn) (ten_zpow_pos _).le)
      rw [← zpow_natCast, ← zpow_add₀ (by norm_num), lastDigit, abs_of_pos hq]
      congr 1
      omega
    have hmid : (10 : ℚ) ^ (Int.log 10 p + 1) ≤ 10 ^ Int.log 10 q :=
      (zpow_le_zpow_iff_right₀ (by norm_num)).mpr (by omega)
    exact hup.trans (hmid.trans hdown)
  · have hs : lastDigit digits p = lastDigit digits q := by
      rw [lastDigit, lastDigit, abs_of_pos hp, abs_of_pos hq, heq]
    rw [roundSignificant, roundSignificant, hs]
    refine mul_le_mul_of_nonneg_right ?_ (ten_zpow_pos _).le
    exact_mod_cast halfEven_mono (div_le_div_of_nonneg_right hpq (ten_zpow_pos _).le)

theorem roundSignificant_mono {digits : ℕ} (hd : 0 < digits) :
    Monotone (roundSignificant digits) := by
  intro p q hpq
  rcases lt_or_ge 0 p with hp | hp
  · exact roundSignificant_mono_pos hd hp hpq
  rcases lt_or_ge q 0 with hq | hq
  · have h := roundSignificant_mono_pos hd (neg_pos.mpr hq) (neg_le_neg hpq)
    rw [roundSignificant_neg, roundSignificant_neg] at h
    exact neg_le_neg_iff.mp h
  · have hneg : 0 ≤ roundSignificant digits (-p) := roundSignificant_nonneg (neg_nonneg.mpr hp)
    rw [roundSignificant_neg] at hneg
    exact (neg_nonneg.mp hneg).trans (roundSignificant_nonneg hq)

theorem roundSignificant_idem {digits : ℕ} (hd : 0 < digits) (q : ℚ) :
    roundSignificant digits (roundSignificant digits q) = roundSignificant digits q := by
  have hpos : ∀ r : ℚ, 0 < r →
      roundSignificant digits (roundSignificant digits r) = roundSignificant digits r := by
    intro r hr
    obtain ⟨n, -, hn, heq⟩ := roundSignificant_eq_digits hd hr
    rw [heq, roundSignificant_digits hd hn]
  rcases lt_trichotomy q 0 with hq | rfl | hq
  · have h := hpos (-q) (neg_pos.mpr hq)
    simp only [roundSignificant_neg] at h
    exact neg_inj.mp h
  · simp
  · exact hpos q hq

/-- The context that keeps a number of significant decimal digits, half to even. -/
def DecimalContext.significant (digits : ℕ) (hd : 0 < digits) : DecimalContext where
  round := roundSignificant digits
  round_mono := roundSignificant_mono hd
  round_round := roundSignificant_idem hd
  round_zero := roundSignificant_zero digits

end Arithmetic
