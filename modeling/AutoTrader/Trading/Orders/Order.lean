import AutoTrader.Support.KeptOnce
import AutoTrader.Support.State
import AutoTrader.Trading.Orders.Result

/-!
# The order aggregate

`Order` of `domain/trading/order.py`: the intent of an order and the exchange facts
observed about it.

* `OrderIntentFields`, `OrderIntent` — the fields an order is created with.
* `Order` — the mutable aggregate; `_fills_by_key` is the insertion-ordered index of
  `fills` under `Fill.key`, so the list of fills stands for both.
* `Order.checkResult` — the part of `_apply_result` that reads and may raise.
* `Order.commitResult` — the part that writes.
* `applyOrderResult`, `reapplyOrderResult` — the two methods, as computations that
  keep what they wrote when they raise.
* `ExecutionSummary`, `Order.buildExecutionSummary`, `Order.markFillsApplied` — what
  the position and the history read.
-/

namespace Trading

open Arithmetic KeptOnce

inductive RegimeType where
  | type0 | type1 | type2 | type3 | type4
  deriving DecidableEq, Repr

/-! ## Intents -/

/-- The fields an order is created with. -/
structure OrderIntentFields where
  intentId : String
  clientOrderId : String
  submissionAttempt : ℕ
  symbol : String := supportedSymbol
  side : OrderSide
  strategy : StrategyType
  regimeType : RegimeType
  requestedQuantity : ℚ
  submittedQuantity : ℚ
  marketPriceAtDecision : ℚ
  riskPolicyVersion : Option Int := none
  exitReason : Option ExitReason := none
  exitPctBAtIntent : Option ℚ := none
  deriving DecidableEq

/-- The checks on the %B a Case C sale was decided at. -/
def OrderIntentFields.validateExitPctB (order : OrderIntentFields) : Except TradingError Unit := do
  Except.require (order.exitPctBAtIntent ≠ none →
      order.side = .sell ∧ order.exitReason ≠ none)
    (.valueError "exit_pct_b_at_intent requires a SELL exit reason")
  Except.require (order.exitPctBAtIntent ≠ none → order.strategy = .caseC)
    (.valueError "exit_pct_b_at_intent is supported only for Case C")

/-- `__post_init__` of an order. -/
def OrderIntentFields.validate (order : OrderIntentFields) : Except TradingError Unit := do
  Except.require (order.symbol = supportedSymbol) (.valueError "symbol must be ETHUSDT")
  Except.require (order.exitReason ≠ some .externalManual)
    (.valueError "external execution cannot create an app order intent")
  Except.require (order.side = .buy → order.exitReason = none)
    (.valueError "BUY order must not have exit_reason")
  order.validateExitPctB
  Except.require (0 < order.requestedQuantity)
    (.valueError "requested_quantity must be greater than zero")
  Except.require (0 < order.submittedQuantity)
    (.valueError "submitted_quantity must be greater than zero")
  Except.require (0 < order.marketPriceAtDecision)
    (.valueError "market_price_at_decision must be greater than zero")
  Except.require (order.submittedQuantity ≤ order.requestedQuantity)
    (.valueError "submitted_quantity must not exceed requested_quantity")
  Except.require (∀ version ∈ order.riskPolicyVersion, (1 : Int) ≤ version)
    (.valueError "risk_policy_version must be a positive integer or None")

/-- An intent its constructor accepts. -/
structure OrderIntent extends OrderIntentFields where
  valid : toOrderIntentFields.validate = .ok ()
  deriving DecidableEq

/-- What the constructor's checks on the quantities say. -/
theorem OrderIntent.quantities (intent : OrderIntent) :
    0 < intent.requestedQuantity ∧ 0 < intent.submittedQuantity ∧
      intent.submittedQuantity ≤ intent.requestedQuantity := by
  have h := intent.valid
  simp only [OrderIntentFields.validate, Except.require_bind_eq_ok_iff] at h
  obtain ⟨-, -, -, h⟩ := h
  obtain ⟨_, -, h⟩ := Except.bind_eq_ok_iff.mp h
  simp only [Except.require_bind_eq_ok_iff] at h
  exact ⟨h.1, h.2.1, h.2.2.2.1⟩

theorem OrderIntent.submittedQuantity_pos (intent : OrderIntent) : 0 < intent.submittedQuantity :=
  intent.quantities.2.1

/-! ## Orders -/

/-- An order: its intent and what has been observed of it. -/
structure Order (ctx : DecimalContext) extends OrderIntent where
  exchangeOrderId : Option String := none
  status : Option OrderStatus := none
  filledQuantity : ℚ := 0
  filledAmount : ℚ := 0
  fillPrice : Option ℚ := none
  feeAmount : ℚ := 0
  feeAsset : Option AggregateFeeAsset := none
  feeQuoteAmount : ℚ := 0
  processedAt : Option Timestamp := none
  fills : List (Fill ctx) := []
  failureReason : Option String := none
  hasAppliedResult : Bool := false
  positionAppliedFillKeys : List Fill.Key := []
  deriving DecidableEq

variable {ctx : DecimalContext}

/-- A newly created order. -/
def OrderIntent.order (ctx : DecimalContext) (intent : OrderIntent) : Order ctx :=
  { toOrderIntent := intent }

namespace Order

/-- `is_terminal`. -/
def isTerminal (order : Order ctx) : Bool := order.status.any OrderStatus.isTerminal

/-- The stored fill under a key. -/
def storedFill (fills : List (Fill ctx)) (key : Fill.Key) : Option (Fill ctx) :=
  fills.find? fun fill => decide (fill.key = key)

/-- `unapplied_fills`: the stored fills the position has not taken over. -/
def unappliedFills (order : Order ctx) : List (Fill ctx) :=
  order.fills.filter fun fill => decide (fill.key ∉ order.positionAppliedFillKeys)

/-! ### Applying a result -/

/-- `_validate_result_identity`. -/
def validateResultIdentity (order : Order ctx) (result : OrderResult ctx) :
    Except TradingError Unit := do
  Except.require (result.symbol = order.symbol) (.valueError "result symbol does not match order")
  Except.require (result.clientOrderId = order.clientOrderId)
    (.valueError "result client_order_id does not match order")
  Except.require (order.exchangeOrderId ≠ none → result.exchangeOrderId ≠ none →
      result.exchangeOrderId = order.exchangeOrderId)
    (.valueError "result exchange_order_id does not match order")
  Except.require (order.exchangeOrderId ≠ none →
      ∀ fill ∈ result.fills, some fill.exchangeOrderId = order.exchangeOrderId)
    (.valueError "result fill belongs to another order")

/-- One fill of a result joins the stored ones: a new key is appended, a known key must
have the known content. -/
def mergeFill : List (Fill ctx) → Fill ctx → Except TradingError (List (Fill ctx)) :=
  keepOnce Fill.key fun fill => .valueError ("fill key ('" ++ fill.key.1 ++ "', '" ++
    fill.key.2 ++ "') has conflicting content")

/-- The stored fills with those of a result. -/
def mergeFills (stored fills : List (Fill ctx)) : Except TradingError (List (Fill ctx)) :=
  fills.foldlM mergeFill stored

/-- The aggregate of the next fills, which must fit into the submitted quantity. -/
def nextAggregate (submittedQuantity : ℚ) (fills : List (Fill ctx)) :
    Except TradingError (Option FillAggregate) :=
  if fills = [] then .ok none
  else do
    let aggregate ← aggregateFills fills
    Except.require (aggregate.executedQuantity ≤ submittedQuantity)
      (.valueError "executed quantity exceeds submitted_quantity")
    .ok (some aggregate)

/-- A partial or complete status needs the quantity it stands for. -/
def validateQuantity (submittedQuantity : ℚ) (status : OrderStatus)
    (aggregate : Option FillAggregate) : Except TradingError Unit := do
  Except.require (status = .partiallyFilled →
      ∃ a ∈ aggregate, a.executedQuantity < submittedQuantity)
    (.valueError "PARTIALLY_FILLED requires a positive quantity below submitted_quantity")
  Except.require (status = .filled → ∃ a ∈ aggregate, a.executedQuantity = submittedQuantity)
    (.valueError "FILLED quantity must equal submitted_quantity")

/-- The local values `_apply_result` computes before it writes anything. -/
structure AcceptedResult (ctx : DecimalContext) where
  fills : List (Fill ctx)
  status : OrderStatus
  aggregate : Option FillAggregate

/-- The checks of `_apply_result`, in its order. -/
def checkResult (order : Order ctx) (result : OrderResult ctx) :
    Except TradingError (AcceptedResult ctx) := do
  order.validateResultIdentity result
  let fills ← mergeFills order.fills result.fills
  let status ← resolveOrderStatus order.status result.status
  let aggregate ← nextAggregate order.submittedQuantity fills
  validateQuantity order.submittedQuantity status aggregate
  .ok { fills, status, aggregate }

/-- The aggregate fields, which keep their values while there is no fill. -/
def commitAggregate (order : Order ctx) : Option FillAggregate → Order ctx
  | none => order
  | some aggregate =>
      { order with
        filledQuantity := aggregate.executedQuantity
        filledAmount := aggregate.executedAmount
        fillPrice := some aggregate.averageFillPrice
        feeAmount := aggregate.feeAmount
        feeAsset := some aggregate.feeAsset
        feeQuoteAmount := aggregate.feeQuoteAmount }

/-- The latest processing time. -/
def nextProcessedAt (order : Order ctx) (result : OrderResult ctx) : Timestamp :=
  match order.processedAt with
  | none => result.processedAt
  | some previous => max previous result.processedAt

/-- The failure reason after a result: the first one, or that of the latest result. -/
def nextFailureReason (order : Order ctx) (result : OrderResult ctx) : Option String :=
  match result.failureReason with
  | none => order.failureReason
  | some reason =>
      if order.failureReason = none ∨ order.nextProcessedAt result ≤ result.processedAt then
        some reason
      else order.failureReason

/-- The writes of `_apply_result`. -/
def commitResult (order : Order ctx) (result : OrderResult ctx) (accepted : AcceptedResult ctx) :
    Order ctx :=
  ({ order with
    exchangeOrderId := order.exchangeOrderId.or result.exchangeOrderId
    status := some accepted.status
    fills := accepted.fills
    processedAt := some (order.nextProcessedAt result)
    failureReason := order.nextFailureReason result
    hasAppliedResult := true }).commitAggregate accepted.aggregate

/-- `_apply_result`: every check comes before the first write. -/
def applyResult (result : OrderResult ctx) : EStateM TradingError (Order ctx) Unit := do
  let order ← get
  let accepted ← Stateful.raising (order.checkResult result)
  modify fun order => order.commitResult result accepted

/-- `apply_order_result`: the first result of an order. -/
def applyOrderResult (result : OrderResult ctx) : EStateM TradingError (Order ctx) Unit := do
  let order ← get
  Stateful.raising (Except.require (order.hasAppliedResult = false)
    (.valueError "initial order result was already applied"))
  applyResult result

/-- `reapply_order_result`: every later result. -/
def reapplyOrderResult (result : OrderResult ctx) : EStateM TradingError (Order ctx) Unit := do
  let order ← get
  Stateful.raising (Except.require (order.hasAppliedResult = true)
    (.valueError "initial order result must be applied first"))
  applyResult result

end Order

/-! ## Execution summaries -/

/-- The aggregate of some fills of an order, with the order's identity and intent. -/
structure ExecutionSummary (ctx : DecimalContext) where
  exchangeOrderId : String
  clientOrderId : String
  symbol : String
  side : OrderSide
  strategy : StrategyType
  regimeType : RegimeType
  exitReason : Option ExitReason
  requestedQuantity : ℚ
  submittedQuantity : ℚ
  aggregate : FillAggregate
  fills : List (Fill ctx)
  deriving DecidableEq

namespace ExecutionSummary

/-- The fees charged in ETH. -/
def baseFees (fills : List (Fill ctx)) : ℚ :=
  ctx.sum ((fills.filter fun fill => decide (fill.feeAsset = .eth)).map (·.feeAmount))

/-- The quote values of the fees charged in other assets. -/
def nonBaseFeeQuotes (fills : List (Fill ctx)) : ℚ :=
  ctx.sum ((fills.filter fun fill => decide (fill.feeAsset ≠ .eth)).map (·.feeQuoteAmount))

/-- `base_fee_amount`; a summary has fills. -/
def baseFeeAmount (summary : ExecutionSummary ctx) : ℚ := baseFees summary.fills

/-- `non_base_fee_quote_amount`. -/
def nonBaseFeeQuoteAmount (summary : ExecutionSummary ctx) : ℚ := nonBaseFeeQuotes summary.fills

/-- `__post_init__` of a summary. -/
def validate (summary : ExecutionSummary ctx) : Except TradingError Unit := do
  Except.require (summary.symbol = supportedSymbol) (.valueError "symbol must be ETHUSDT")
  Except.require (0 < summary.requestedQuantity)
    (.valueError "requested_quantity must be greater than zero")
  Except.require (0 < summary.submittedQuantity)
    (.valueError "submitted_quantity must be greater than zero")
  Except.require (0 < summary.aggregate.executedQuantity)
    (.valueError "executed_quantity must be greater than zero")
  Except.require (0 < summary.aggregate.executedAmount)
    (.valueError "executed_amount must be greater than zero")
  Except.require (0 < summary.aggregate.averageFillPrice)
    (.valueError "average_fill_price must be greater than zero")
  Except.require (summary.submittedQuantity ≤ summary.requestedQuantity)
    (.valueError "submitted_quantity must not exceed requested_quantity")
  Except.require (summary.aggregate.executedQuantity ≤ summary.submittedQuantity)
    (.valueError "executed_quantity must not exceed submitted_quantity")
  Except.require (0 ≤ summary.aggregate.feeAmount) (.valueError "fee_amount must not be negative")
  Except.require (0 ≤ summary.aggregate.feeQuoteAmount)
    (.valueError "fee_quote_amount must not be negative")
  Except.require (summary.fills ≠ []) (.valueError "fills must be a non-empty tuple")
  Except.require (∀ fill ∈ summary.fills, fill.exchangeOrderId = summary.exchangeOrderId)
    (.valueError "summary fills must belong to exchange_order_id")
  Except.require (summary.fills.map Fill.key).Nodup
    (.valueError "execution summary cannot contain duplicate fill keys")
  let aggregate ← aggregateFills summary.fills
  Except.require (aggregate = summary.aggregate)
    (.valueError "execution aggregate does not match fills")

end ExecutionSummary

namespace Order

/-- `_validate_fill_subset`: distinct fills that the order stores. -/
def validateFillSubset (order : Order ctx) (fills : List (Fill ctx)) : Except TradingError Unit := do
  Except.require (fills ≠ []) (.valueError "fill subset must not be empty")
  Except.require (fills.map Fill.key).Nodup (.valueError "fill subset contains duplicate keys")
  Except.require (∀ fill ∈ fills, storedFill order.fills fill.key = some fill)
    (.valueError "fill subset must contain exact fills owned by the order")

/-- The summary of some fills, which its constructor may refuse. -/
def summarize (order : Order ctx) (exchangeOrderId : String) (fills : List (Fill ctx)) :
    Except TradingError (ExecutionSummary ctx) := do
  Except.require (fills ≠ []) (.valueError "execution summary requires fills")
  let aggregate ← aggregateFills fills
  let summary : ExecutionSummary ctx := {
    exchangeOrderId
    clientOrderId := order.clientOrderId
    symbol := order.symbol
    side := order.side
    strategy := order.strategy
    regimeType := order.regimeType
    exitReason := order.exitReason
    requestedQuantity := order.requestedQuantity
    submittedQuantity := order.submittedQuantity
    aggregate
    fills }
  summary.validate
  .ok summary

/-- `build_execution_summary`: of the given fills, or of all of them. -/
def buildExecutionSummary (order : Order ctx) (fills? : Option (List (Fill ctx)) := none)
    (requireTerminal : Bool := true) : Except TradingError (ExecutionSummary ctx) := do
  Except.require (requireTerminal = true → order.isTerminal = true)
    (.valueError "terminal order status is required for the full execution summary")
  match order.exchangeOrderId with
  | none => .error (.valueError "execution summary requires exchange_order_id")
  | some exchangeOrderId =>
      match fills? with
      | none => order.summarize exchangeOrderId order.fills
      | some fills => do
          order.validateFillSubset fills
          order.summarize exchangeOrderId fills

/-- `mark_fills_applied`: the position has taken over these fills. -/
def markFillsApplied (order : Order ctx) (fills : List (Fill ctx)) :
    Except TradingError (Order ctx) := do
  order.validateFillSubset fills
  .ok { order with
    positionAppliedFillKeys := order.positionAppliedFillKeys ++ fills.map Fill.key }

end Order

end Trading
