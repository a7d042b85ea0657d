import AutoTrader.Arithmetic.Rounding

/-!
# Rounding down

Rounding toward zero to a number of significant digits, for nonnegative numbers.

* `truncateSignificant` — the greatest number with these digits that is not above.
* `truncateSignificant_le` — it never rounds up.
* `mul_truncate_div_le` — so many units never cost more than the amount they were bought for.
-/

namespace Arithmetic

/-- A nonnegative number, rounded down to a number of significant digits. -/
def truncateSignificant (digits : ℕ) (q : ℚ) : ℚ :=
  ⌊q / 10 ^ lastDigit digits q⌋ * 10 ^ lastDigit digits q

theorem truncateSignificant_le (digits : ℕ) (q : ℚ) : truncateSignificant digits q ≤ q := by
  have hpos : (0 : ℚ) < 10 ^ lastDigit digits q := ten_zpow_pos _
  calc (⌊q / 10 ^ lastDigit digits q⌋ : ℚ) * 10 ^ lastDigit digits q
      ≤ q / 10 ^ lastDigit digits q * 10 ^ lastDigit digits q :=
        mul_le_mul_of_nonneg_right (Int.floor_le _) hpos.le
    _ = q := div_mul_cancel₀ q hpos.ne'

/-- What a rounded down quotient of an amount buys costs at most the amount. -/
theorem mul_truncate_div_le (digits : ℕ) (amount : ℚ) {price : ℚ} (hprice : 0 < price) :
    truncateSignificant digits (amount / price) * price ≤ amount := by
  rw [← le_div_iff₀ hprice]
  exact truncateSignificant_le digits _

end Arithmetic
