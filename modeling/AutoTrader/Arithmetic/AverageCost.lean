import Mathlib

/-!
# Average-cost lots

A lot of some quantity carries values, such as its cost.  A sale takes the
proportional share of each value and leaves the rest.  How a sale is split into parts
makes no difference: the parts take together what the whole takes, and leave the same.
-/

namespace Arithmetic

variable {K : Type*} [Field K]

/-- The share of a value that a sale takes from a lot. -/
def taken (quantity sold value : K) : K := value * sold / quantity

/-- The share of a value that a sale leaves. -/
def kept (quantity sold value : K) : K := value * (quantity - sold) / quantity

/-- What is not taken is kept. -/
theorem sub_taken {quantity : K} (hq : quantity ≠ 0) (sold value : K) :
    value - taken quantity sold value = kept quantity sold value := by
  unfold taken kept
  field_simp

/-- Selling out takes everything. -/
theorem taken_self {quantity : K} (hq : quantity ≠ 0) (value : K) :
    taken quantity quantity value = value := by
  unfold taken
  field_simp

/-- Two sales leave what one sale of both leaves. -/
theorem kept_kept {quantity a : K} (hrest : quantity - a ≠ 0) (b value : K) :
    kept (quantity - a) b (kept quantity a value) = kept quantity (a + b) value := by
  unfold kept
  rw [show quantity - (a + b) = quantity - a - b by ring]
  field_simp

/-- Two sales take together what one sale of both takes. -/
theorem taken_add_taken {quantity a : K} (hq : quantity ≠ 0) (hrest : quantity - a ≠ 0)
    (b value : K) :
    taken quantity a value + taken (quantity - a) b (kept quantity a value) =
      taken quantity (a + b) value := by
  unfold taken kept
  field_simp

end Arithmetic
