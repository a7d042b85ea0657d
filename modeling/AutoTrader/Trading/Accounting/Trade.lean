import AutoTrader.Trading.Orders.Order

/-!
# Durable trades

`Trade` of `domain/history/trade.py`: one finished order as the history stores it.

* `TradeSchemaVersion` — which accounting a stored row follows: `v1` with gross base
  quantities, `v2` with asset flows, `v3` with the fills as fee evidence, `v4` for
  sales made outside the application.
* `TradeFields`, `Trade` — the stored values, first bare and then with the checks of the
  constructor passed.
* `Trade.baseFeeAmount`, `Trade.nonBaseFeeQuoteAmount` — the ETH taken as a fee and the
  quote value of the other fees.
* `calculateRealizedResult`, `Trade.fromOrderExecution`, `recordOrderExecution` — how a
  trade is made from a finished order.
-/

namespace Trading

open Arithmetic

inductive TradeSchemaVersion where
  | v1 | v2 | v3 | v4
  deriving DecidableEq, Repr

/-- The fields of a trade. -/
structure TradeFields (ctx : DecimalContext) where
  tradeId : String
  orderId : String
  clientOrderId : String
  symbol : String := supportedSymbol
  executedAt : Timestamp
  side : OrderSide
  regimeType : RegimeType
  strategy : StrategyType
  requestedQuantity : ℚ
  executedQuantity : ℚ
  executedAmount : ℚ
  averageFillPrice : ℚ
  marketPriceAtDecision : Option ℚ
  feeAmount : ℚ
  feeAsset : AggregateFeeAsset
  feeQuoteAmount : ℚ
  allocatedCostBasis : Option ℚ := none
  realizedPnl : Option ℚ := none
  realizedReturnRate : Option ℚ := none
  exitReason : Option ExitReason := none
  schemaVersion : TradeSchemaVersion := .v2
  feeFills : List (Fill ctx) := []
  deriving DecidableEq

variable {ctx : DecimalContext}

/-- Eight decimal places, half to even. -/
def quantizeRate (rate : ℚ) : ℚ := halfEven (rate * 10 ^ 8) / 10 ^ 8

/-- Whether a client order ID is one the application makes. -/
def isAppClientOrderId (id : String) : Bool := "bat-".toList.isPrefixOf id.toList

namespace TradeFields

/-- The values of the trade that its fee evidence determines. -/
def aggregate (trade : TradeFields ctx) : FillAggregate where
  executedQuantity := trade.executedQuantity
  executedAmount := trade.executedAmount
  averageFillPrice := trade.averageFillPrice
  feeAmount := trade.feeAmount
  feeAsset := trade.feeAsset
  feeQuoteAmount := trade.feeQuoteAmount
  executedAt := trade.executedAt

/-- Whether the version stores the fills as fee evidence. -/
def hasFeeEvidence (trade : TradeFields ctx) : Bool :=
  decide (trade.schemaVersion = .v3 ∨ trade.schemaVersion = .v4)

/-- A sale from outside has no decision price of the application; every other trade does. -/
def validateProvenance (trade : TradeFields ctx) : Except TradingError Unit :=
  if trade.schemaVersion = .v4 then do
    Except.require (trade.side = .sell ∧ trade.exitReason = some .externalManual)
      (.valueError "v4 is reserved for reconciled external SELL")
    Except.require (trade.marketPriceAtDecision = none ∧ isAppClientOrderId trade.clientOrderId = false)
      (.valueError "external SELL cannot claim app decision provenance")
  else do
    Except.require (trade.exitReason ≠ some .externalManual)
      (.valueError "external SELL requires v4 evidence")
    Except.require (∃ price ∈ trade.marketPriceAtDecision, 0 < price)
      (.valueError "market_price_at_decision must be greater than zero")

/-- The fee evidence belongs to the order and aggregates to the stored values. -/
def validateFeeEvidence (trade : TradeFields ctx) : Except TradingError Unit :=
  if trade.hasFeeEvidence then do
    Except.require (trade.feeFills ≠ [] ∧
        ∀ fill ∈ trade.feeFills, fill.exchangeOrderId = trade.orderId)
      (.valueError "v3/v4 requires order-bound fee fills")
    Except.require (trade.feeFills.map Fill.key).Nodup (.valueError "duplicate fee fill evidence")
    let aggregate ← aggregateFills trade.feeFills
    Except.require (aggregate = trade.aggregate)
      (.valueError "v3/v4 aggregate does not match fee evidence")
  else
    Except.require (trade.feeFills = []) (.valueError "legacy schema cannot contain fee evidence")

/-- `_validate_fee_conversion`. -/
def validateFeeConversion (trade : TradeFields ctx) : Except TradingError Unit :=
  if trade.hasFeeEvidence then .ok ()
  else match trade.feeAsset with
    | .single .usdt =>
        Except.require (trade.feeQuoteAmount = trade.feeAmount)
          (.valueError "fee_quote_amount does not match the USDT fee amount")
    | .single .eth =>
        Except.require (trade.feeAmount = 0 ↔ trade.feeQuoteAmount = 0)
          (.valueError "ETH fee amount and per-fill quote aggregate must be zero together")
    | .single .bnb => .error (.valueError "fee asset BNB requires quote conversion reconciliation")
    | .mixed => .error (.valueError "fee asset MIXED requires quote conversion reconciliation")

/-- `_validate_realized_fields`: none for a purchase, all and consistent for a sale. -/
def validateRealizedFields (trade : TradeFields ctx) : Except TradingError Unit :=
  match trade.side with
  | .buy =>
      Except.require (trade.allocatedCostBasis = none ∧ trade.realizedPnl = none ∧
          trade.realizedReturnRate = none ∧ trade.exitReason = none)
        (.valueError "BUY realized and exit fields must all be null")
  | .sell =>
      match trade.allocatedCostBasis, trade.realizedPnl, trade.realizedReturnRate,
          trade.exitReason with
      | some allocated, some pnl, some rate, some _ => do
          Except.require (0 < allocated)
            (.valueError "allocated_cost_basis must be greater than zero")
          Except.require
            (pnl = ctx.sub (ctx.sub trade.executedAmount trade.feeQuoteAmount) allocated)
            (.valueError "realized_pnl does not match net sell proceeds")
          Except.require (rate = quantizeRate (ctx.mul (ctx.div pnl allocated) 100))
            (.valueError "realized_return_rate does not match realized_pnl")
      | _, _, _, _ => .error (.valueError "SELL realized and exit fields must all be present")

/-- `__post_init__` of a trade. -/
def validate (trade : TradeFields ctx) : Except TradingError Unit := do
  Except.require (trade.symbol = supportedSymbol) (.valueError "Trade supports only ETHUSDT")
  Except.require (0 < trade.requestedQuantity)
    (.valueError "requested_quantity must be greater than zero")
  Except.require (0 < trade.executedQuantity)
    (.valueError "executed_quantity must be greater than zero")
  Except.require (0 < trade.executedAmount)
    (.valueError "executed_amount must be greater than zero")
  Except.require (0 < trade.averageFillPrice)
    (.valueError "average_fill_price must be greater than zero")
  trade.validateProvenance
  Except.require (0 ≤ trade.feeAmount) (.valueError "fee_amount must not be negative")
  Except.require (0 ≤ trade.feeQuoteAmount) (.valueError "fee_quote_amount must not be negative")
  trade.validateFeeEvidence
  trade.validateFeeConversion
  trade.validateRealizedFields

end TradeFields

/-- A trade its constructor accepts. -/
structure Trade (ctx : DecimalContext) extends TradeFields ctx where
  valid : toTradeFields.validate = .ok ()
  deriving DecidableEq

/-- The constructor: the bare record becomes a trade or raises. -/
def TradeFields.create (trade : TradeFields ctx) : Except TradingError (Trade ctx) :=
  match h : trade.validate with
  | .ok () => .ok ⟨trade, h⟩
  | .error error => .error error

theorem TradeFields.create_eq_ok {fields : TradeFields ctx} {trade : Trade ctx}
    (h : fields.create = .ok trade) : trade.toTradeFields = fields := by
  unfold create at h
  split at h
  · cases h; rfl
  · cases h

namespace Trade

/-- `base_fee_amount`: the ETH taken as a fee. -/
def baseFeeAmount (trade : Trade ctx) : ℚ :=
  if trade.feeFills = [] then
    if trade.feeAsset = .single .eth then trade.feeAmount else 0
  else ExecutionSummary.baseFees trade.feeFills

/-- `non_base_fee_quote_amount`: the quote value of the fees in other assets. -/
def nonBaseFeeQuoteAmount (trade : Trade ctx) : ℚ :=
  if trade.feeFills = [] then
    if trade.feeAsset ≠ .single .eth then trade.feeQuoteAmount else 0
  else ExecutionSummary.nonBaseFeeQuotes trade.feeFills

theorem executedQuantity_pos (trade : Trade ctx) : 0 < trade.executedQuantity := by
  have h := trade.valid
  simp only [TradeFields.validate, Except.require_bind_eq_ok_iff] at h
  exact h.2.2.1

end Trade

/-! ## Trades of finished orders -/

/-- The realized result of a sale. -/
structure RealizedResult where
  allocatedCostBasis : ℚ
  realizedPnl : ℚ
  realizedReturnRate : ℚ
  allocated_pos : 0 < allocatedCostBasis

/-- `calculate_realized_result`. -/
def calculateRealizedResult (summary : ExecutionSummary ctx) (allocatedCostBasis : ℚ) :
    Except TradingError RealizedResult :=
  if summary.side ≠ .sell then
    .error (.valueError "realized result is available only for SELL")
  else if allocatedCostBasis = 0 then
    .error (.valueError "SELL allocated_cost_basis must not be zero")
  else if h : 0 < allocatedCostBasis then
    let pnl := ctx.sub (ctx.sub summary.aggregate.executedAmount summary.aggregate.feeQuoteAmount)
      allocatedCostBasis
    .ok {
      allocatedCostBasis
      realizedPnl := pnl
      realizedReturnRate := quantizeRate (ctx.mul (ctx.div pnl allocatedCostBasis) 100)
      allocated_pos := h }
  else .error (.valueError "allocated_cost_basis must be greater than zero")

/-- The summary is that of the finished order. -/
def validateTradeSource (order : Order ctx) (summary : ExecutionSummary ctx) :
    Except TradingError Unit := do
  Except.require (order.isTerminal = true) (.valueError "Trade requires a terminal Order")
  Except.require (order.exchangeOrderId ≠ none)
    (.valueError "order must contain an exchange_order_id")
  Except.require (some summary.exchangeOrderId = order.exchangeOrderId)
    (.valueError "summary exchange_order_id does not match order")
  Except.require (summary.clientOrderId = order.clientOrderId)
    (.valueError "summary client_order_id does not match order")
  Except.require (summary.symbol = order.symbol ∧ summary.side = order.side)
    (.valueError "summary symbol and side must match order")
  Except.require (summary.strategy = order.strategy)
    (.valueError "summary strategy does not match order")
  Except.require (summary.regimeType = order.regimeType)
    (.valueError "summary regime_type does not match order")
  Except.require (summary.exitReason = order.exitReason)
    (.valueError "summary exit_reason does not match order")
  Except.require (summary.requestedQuantity = order.requestedQuantity)
    (.valueError "summary requested_quantity does not match order")
  Except.require (summary.submittedQuantity = order.submittedQuantity)
    (.valueError "summary submitted_quantity does not match order")
  Except.require (summary.fills = order.fills)
    (.valueError "Trade requires the terminal Order cumulative fills")

/-- Some fee of the summary was charged in BNB, so the fills are kept as evidence. -/
def ExecutionSummary.hasBnbFee (summary : ExecutionSummary ctx) : Bool :=
  summary.fills.any fun fill => decide (fill.feeAsset = .bnb)

/-- The stored values of a finished order. -/
def tradeFieldsOf (order : Order ctx) (summary : ExecutionSummary ctx)
    (realized : Option RealizedResult) : TradeFields ctx where
  tradeId := "trade-" ++ summary.exchangeOrderId
  orderId := summary.exchangeOrderId
  clientOrderId := order.clientOrderId
  symbol := order.symbol
  executedAt := summary.aggregate.executedAt
  side := order.side
  regimeType := order.regimeType
  strategy := order.strategy
  requestedQuantity := order.requestedQuantity
  executedQuantity := summary.aggregate.executedQuantity
  executedAmount := summary.aggregate.executedAmount
  averageFillPrice := summary.aggregate.averageFillPrice
  marketPriceAtDecision := some order.marketPriceAtDecision
  feeAmount := summary.aggregate.feeAmount
  feeAsset := summary.aggregate.feeAsset
  feeQuoteAmount := summary.aggregate.feeQuoteAmount
  allocatedCostBasis := realized.map (·.allocatedCostBasis)
  realizedPnl := realized.map (·.realizedPnl)
  realizedReturnRate := realized.map (·.realizedReturnRate)
  exitReason := order.exitReason
  schemaVersion := if summary.hasBnbFee then .v3 else .v2
  feeFills := if summary.hasBnbFee then summary.fills else []

/-- `from_order_execution`: the exchange order IDs of order and summary are equal here. -/
def Trade.fromOrderExecution (order : Order ctx) (summary : ExecutionSummary ctx)
    (realized : Option RealizedResult) : Except TradingError (Trade ctx) := do
  validateTradeSource order summary
  (tradeFieldsOf order summary realized).create

/-- The part of `record_order_execution` that makes the trade: a sale needs the cost
basis allocated to it, a purchase has none. -/
def recordOrderExecution (order : Order ctx) (summary : ExecutionSummary ctx)
    (allocatedCostBasis : Option ℚ) : Except TradingError (Trade ctx) :=
  match order.side, allocatedCostBasis with
  | .sell, none => .error (.valueError "allocated_cost_basis is required for SELL")
  | .sell, some allocated => do
      let realized ← calculateRealizedResult summary allocated
      Trade.fromOrderExecution order summary (some realized)
  | .buy, some _ => .error (.valueError "allocated_cost_basis must be None for BUY")
  | .buy, none => Trade.fromOrderExecution order summary none

end Trading
