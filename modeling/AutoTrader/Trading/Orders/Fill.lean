import AutoTrader.Trading.Context

/-!
# Fills and their aggregate

The execution facts of `domain/trading/order.py` and the fee valuation of
`domain/trading/fee_valuation.py`.

* `BnbFeeValuation` — the one-second close that values a BNB fee, and
  `BnbFeeValuation.quoteAmount`.
* `FillFields`, `Fill` — one execution, first as the bare record and then with the
  checks of its constructor passed.
* `aggregateFills` — quantity, amount, average price, fees and time of a list of fills.

Everything is stated over a decimal context: `decimal128` is the one the source
uses, and `DecimalContext.exact` is exact arithmetic.
-/

namespace Trading

open Arithmetic

/-- 34 significant digits, half to even. -/
def decimal128 : DecimalContext := DecimalContext.significant 34 (by decide)

/-! ## Fee assets -/

/-- The assets a fee may be charged in; a fill with any other one is refused. -/
inductive FeeAsset where
  | eth | usdt | bnb
  deriving DecidableEq, Repr

/-- The fee asset of an aggregate: one asset, or `MIXED`. -/
inductive AggregateFeeAsset where
  | single (asset : FeeAsset)
  | mixed
  deriving DecidableEq, Repr

/-! ## BNB valuation -/

/-- The close of one complete second of BNBUSDT. -/
structure BnbFeeValuation where
  openTimeMs : ℕ
  closeTimeMs : ℕ
  rate : ℚ
  complete_second : openTimeMs % 1000 = 0 ∧ closeTimeMs = openTimeMs + 999
  rate_pos : 0 < rate
  deriving DecidableEq

/-- The millisecond at which the second of a time begins. -/
def secondMs (time : Timestamp) : Int := time / 1000000 * 1000

/-- `quote_amount`: the fee in USDT, when the valuation is the second before the fill. -/
def BnbFeeValuation.quoteAmount (ctx : DecimalContext) (valuation : BnbFeeValuation) (amount : ℚ)
    (executedAt : Timestamp) : Except TradingError ℚ :=
  if (valuation.closeTimeMs : Int) ≠ secondMs executedAt - 1 then
    .error (.valueError "valuation is not the immediately preceding second")
  else if amount < 0 then
    .error (.valueError "BNB commission must be nonnegative Decimal")
  else
    .ok (ctx.mul amount valuation.rate)

/-! ## Fills -/

/-- The fields of a fill. -/
structure FillFields where
  exchangeOrderId : String
  tradeId : String
  quantity : ℚ
  price : ℚ
  feeAmount : ℚ
  feeAsset : FeeAsset
  feeQuoteAmount : ℚ
  executedAt : Timestamp
  feeValuation : Option BnbFeeValuation := none
  deriving DecidableEq

/-- The valuation checks of a fill's constructor, by fee asset. -/
def FillFields.validateFee (ctx : DecimalContext) (fill : FillFields) : Except TradingError Unit :=
  match fill.feeAsset, fill.feeValuation with
  | .usdt, valuation => do
      Except.require (fill.feeQuoteAmount = fill.feeAmount)
        (.valueError "USDT fee_quote_amount must equal fee_amount")
      Except.require (valuation = none) (.valueError "only BNB fills may carry BNB valuation")
  | .eth, valuation => do
      Except.require (fill.feeQuoteAmount = ctx.mul fill.feeAmount fill.price)
        (.valueError "ETH fee_quote_amount must use the fill price")
      Except.require (valuation = none) (.valueError "only BNB fills may carry BNB valuation")
  | .bnb, none =>
      .error (.valueError "fee asset BNB requires quote conversion reconciliation")
  | .bnb, some valuation => do
      let quote ← valuation.quoteAmount ctx fill.feeAmount fill.executedAt
      Except.require (fill.feeQuoteAmount = quote)
        (.valueError "BNB quote fee does not match valuation")

/-- `__post_init__` of a fill. -/
def FillFields.validate (ctx : DecimalContext) (fill : FillFields) : Except TradingError Unit := do
  Except.require (0 < fill.quantity) (.valueError "quantity must be greater than zero")
  Except.require (0 < fill.price) (.valueError "price must be greater than zero")
  Except.require (0 ≤ fill.feeAmount) (.valueError "fee_amount must not be negative")
  Except.require (0 ≤ fill.feeQuoteAmount) (.valueError "fee_quote_amount must not be negative")
  fill.validateFee ctx

/-- An execution its constructor accepts. -/
structure Fill (ctx : DecimalContext) extends FillFields where
  valid : toFillFields.validate ctx = .ok ()
  deriving DecidableEq

/-- What the constructor's checks say. -/
theorem FillFields.validate_eq_ok_iff {ctx : DecimalContext} {fill : FillFields} :
    fill.validate ctx = .ok () ↔ 0 < fill.quantity ∧ 0 < fill.price ∧ 0 ≤ fill.feeAmount ∧
      0 ≤ fill.feeQuoteAmount ∧ fill.validateFee ctx = .ok () := by
  simp only [validate, Except.require_bind_eq_ok_iff]

namespace Fill

variable {ctx : DecimalContext}

/-- The identity under which a fill is stored once. -/
abbrev Key := String × String

def key (fill : Fill ctx) : Key := (fill.exchangeOrderId, fill.tradeId)

/-- The quote amount of the execution. -/
def executedAmount (fill : Fill ctx) : ℚ := ctx.mul fill.quantity fill.price

theorem quantity_pos (fill : Fill ctx) : 0 < fill.quantity :=
  (FillFields.validate_eq_ok_iff.mp fill.valid).1

theorem price_pos (fill : Fill ctx) : 0 < fill.price :=
  (FillFields.validate_eq_ok_iff.mp fill.valid).2.1

theorem feeAmount_nonneg (fill : Fill ctx) : 0 ≤ fill.feeAmount :=
  (FillFields.validate_eq_ok_iff.mp fill.valid).2.2.1

end Fill

/-! ## Aggregates -/

/-- The values `_aggregate_fills` returns. -/
structure FillAggregate where
  executedQuantity : ℚ
  executedAmount : ℚ
  averageFillPrice : ℚ
  feeAmount : ℚ
  feeAsset : AggregateFeeAsset
  feeQuoteAmount : ℚ
  executedAt : Timestamp
  deriving DecidableEq

section Aggregate

variable {ctx : DecimalContext}

/-- The one fee asset of a list of fills, or `MIXED` when BNB is among several. -/
def aggregateFeeAsset (fills : List (Fill ctx)) (first : Fill ctx) :
    Except TradingError AggregateFeeAsset :=
  if ∀ fill ∈ fills, fill.feeAsset = first.feeAsset then .ok (.single first.feeAsset)
  else if ∃ fill ∈ fills, fill.feeAsset = .bnb then .ok .mixed
  else .error (.valueError "execution fills use mixed fee assets: ETH, USDT")

/-- The latest execution time of a non-empty list of fills. -/
def latestExecution (first : Fill ctx) (rest : List (Fill ctx)) : Timestamp :=
  rest.foldl (fun latest fill => max latest fill.executedAt) first.executedAt

/-- `_aggregate_fills`: sums run from left to right and are rounded at each addition.
Nominal fees of different assets are not added. -/
def aggregateFills : List (Fill ctx) → Except TradingError FillAggregate
  | [] => .error (.valueError "execution summary requires fills")
  | first :: rest => do
      let fills := first :: rest
      let feeAsset ← aggregateFeeAsset fills first
      let executedQuantity := ctx.sum (fills.map (·.quantity))
      let executedAmount := ctx.sum (fills.map Fill.executedAmount)
      Except.require (executedQuantity ≠ 0) .divisionByZero
      .ok {
        executedQuantity
        executedAmount
        averageFillPrice := ctx.div executedAmount executedQuantity
        feeAmount := if feeAsset = .mixed then 0 else ctx.sum (fills.map (·.feeAmount))
        feeAsset
        feeQuoteAmount := ctx.sum (fills.map (·.feeQuoteAmount))
        executedAt := latestExecution first rest }

/-- What an aggregate says about its fills. -/
theorem aggregateFills_eq_ok {fills : List (Fill ctx)} {aggregate : FillAggregate}
    (h : aggregateFills fills = .ok aggregate) :
    fills ≠ [] ∧ aggregate.executedQuantity ≠ 0 ∧
      aggregate.executedQuantity = ctx.sum (fills.map (·.quantity)) ∧
      aggregate.executedAmount = ctx.sum (fills.map Fill.executedAmount) ∧
      aggregate.averageFillPrice = ctx.div aggregate.executedAmount aggregate.executedQuantity ∧
      aggregate.feeAmount =
        (if aggregate.feeAsset = .mixed then 0 else ctx.sum (fills.map (·.feeAmount))) ∧
      aggregate.feeQuoteAmount = ctx.sum (fills.map (·.feeQuoteAmount)) := by
  cases fills with
  | nil => simp [aggregateFills] at h
  | cons first rest =>
      obtain ⟨feeAsset, -, h⟩ := Except.bind_eq_ok_iff.mp h
      obtain ⟨_, hquantity, h⟩ := Except.bind_eq_ok_iff.mp h
      have hne := Except.require_eq_ok_iff.mp hquantity
      cases h
      exact ⟨List.cons_ne_nil _ _, hne, rfl, rfl, rfl, rfl, rfl⟩

/-- The fee asset of an aggregate says which assets its fills were charged in. -/
theorem aggregateFills_feeAsset {fills : List (Fill ctx)} {aggregate : FillAggregate}
    (h : aggregateFills fills = .ok aggregate) :
    (∃ asset, aggregate.feeAsset = .single asset ∧ ∀ fill ∈ fills, fill.feeAsset = asset) ∨
      (aggregate.feeAsset = .mixed ∧ (¬ ∃ asset, ∀ fill ∈ fills, fill.feeAsset = asset) ∧
        ∃ fill ∈ fills, fill.feeAsset = .bnb) := by
  cases fills with
  | nil => simp [aggregateFills] at h
  | cons first rest =>
      obtain ⟨feeAsset, hasset, h⟩ := Except.bind_eq_ok_iff.mp h
      obtain ⟨_, -, h⟩ := Except.bind_eq_ok_iff.mp h
      cases h
      unfold aggregateFeeAsset at hasset
      split at hasset
      · rename_i hall
        cases hasset
        exact .inl ⟨first.feeAsset, rfl, hall⟩
      · rename_i hdiffer
        split at hasset
        · rename_i hbnb
          cases hasset
          refine .inr ⟨rfl, ?_, hbnb⟩
          rintro ⟨asset, hall⟩
          have hfirst := hall first (by simp)
          exact hdiffer fun fill hfill => (hall fill hfill).trans hfirst.symm
        · cases hasset

theorem quantities_nonneg (fills : List (Fill ctx)) :
    ∀ q ∈ fills.map (·.quantity), 0 ≤ q := by
  intro q hq
  obtain ⟨fill, -, rfl⟩ := List.mem_map.mp hq
  exact fill.quantity_pos.le

/-- The aggregate quantity is positive. -/
theorem aggregateFills_quantity_pos {fills : List (Fill ctx)} {aggregate : FillAggregate}
    (h : aggregateFills fills = .ok aggregate) : 0 < aggregate.executedQuantity := by
  obtain ⟨-, hne, hquantity, -⟩ := aggregateFills_eq_ok h
  have hnonneg := ctx.sum_nonneg (quantities_nonneg fills)
  rw [← hquantity] at hnonneg
  exact lt_of_le_of_ne hnonneg (Ne.symm hne)

/-- More fills never aggregate to a smaller quantity. -/
theorem aggregateFills_quantity_mono {fills more : List (Fill ctx)} {a b : FillAggregate}
    (ha : aggregateFills fills = .ok a) (hb : aggregateFills (fills ++ more) = .ok b) :
    a.executedQuantity ≤ b.executedQuantity := by
  obtain ⟨-, -, hqa, -⟩ := aggregateFills_eq_ok ha
  obtain ⟨-, -, hqb, -⟩ := aggregateFills_eq_ok hb
  rw [hqa, hqb, List.map_append]
  exact ctx.sum_le_sum_append _ (quantities_nonneg more)

end Aggregate

end Trading
