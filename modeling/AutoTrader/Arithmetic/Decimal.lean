import AutoTrader.Arithmetic.Rounding

/-!
# Decimal values with infinities and NaN

General decimal arithmetic has non-finite values, and comparing with a NaN or
subtracting equal infinities signals an invalid operation.  Here a signalled
operation is `none`.

* `Decimal` — finite rationals, the two infinities and NaN.
* `Decimal.finite?` — the finite value, when there is one.
* `Decimal.lt?`, `Decimal.le?` — ordered comparisons.
* `Decimal.add?`, `Decimal.sub?`, `Decimal.scale?` — arithmetic in a context.
-/

namespace Arithmetic

/-- A decimal number as a general decimal arithmetic has them. -/
inductive Decimal where
  | finite (value : ℚ)
  | infinite (negative : Bool)
  | nan
  deriving DecidableEq

namespace Decimal

instance : Zero Decimal := ⟨finite 0⟩

/-- The value of a finite decimal; `none` for infinities and NaN. -/
def finite? : Decimal → Option ℚ
  | finite q => some q
  | _ => none

@[simp] theorem finite?_finite (q : ℚ) : (finite q).finite? = some q := rfl

/-- `a ≤ b`; comparing with NaN is an invalid operation. -/
def le? : Decimal → Decimal → Option Bool
  | nan, _ => none
  | _, nan => none
  | finite p, finite q => some (decide (p ≤ q))
  | infinite true, _ => some true
  | _, infinite false => some true
  | _, _ => some false

/-- `a < b`; comparing with NaN is an invalid operation. -/
def lt? (a b : Decimal) : Option Bool := (le? b a).map (!·)

/-- `a + b` in a context; infinities of opposite sign do not add. -/
def add? (ctx : DecimalContext) : Decimal → Decimal → Option Decimal
  | finite p, finite q => some (finite (ctx.add p q))
  | nan, _ => some nan
  | _, nan => some nan
  | infinite m, infinite n => if m = n then some (infinite m) else none
  | infinite m, finite _ => some (infinite m)
  | finite _, infinite n => some (infinite n)

/-- Sign change. -/
def neg : Decimal → Decimal
  | finite p => finite (-p)
  | infinite m => infinite (!m)
  | nan => nan

/-- `a - b` in a context. -/
def sub? (ctx : DecimalContext) (a b : Decimal) : Option Decimal := add? ctx a b.neg

/-- The product of a finite number and a decimal; zero times an infinity is invalid. -/
def scale? (ctx : DecimalContext) (p : ℚ) : Decimal → Option Decimal
  | finite q => some (finite (ctx.mul p q))
  | nan => some nan
  | infinite m => if p = 0 then none else some (infinite (if p < 0 then !m else m))

@[simp] theorem le?_finite (p q : ℚ) : le? (finite p) (finite q) = some (decide (p ≤ q)) := rfl

@[simp] theorem lt?_finite (p q : ℚ) : lt? (finite p) (finite q) = some (decide (p < q)) := by
  simp [lt?, ← not_le]

@[simp] theorem add?_finite (ctx : DecimalContext) (p q : ℚ) :
    add? ctx (finite p) (finite q) = some (finite (ctx.add p q)) := rfl

end Decimal

end Arithmetic
