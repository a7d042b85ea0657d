import AutoTrader.Trading.Accounting.Trade

/-!
# The position

`Position` of `domain/trading/position.py`: quantity and average cost of the ETH a
strategy holds.

* `PositionStateFields`, `PositionStateSnapshot` — one state, bare and then with the
  checks of its constructor passed.
* `Position.getCostBasis` — the cost a sale takes with it.
* `Position.applyExecution` — the live path: one execution summary.
* `Position.applyHistoricalTrade` — the restart path: one stored trade.
* `Position.detachResidual` — a rest below the order step leaves the position.
-/

namespace Trading

open Arithmetic

inductive PositionStatus where
  | open | closed
  deriving DecidableEq, Repr

/-- The fields of a position state. -/
structure PositionStateFields where
  symbol : String := supportedSymbol
  owner : Option StrategyType := none
  quantity : ℚ := 0
  averageEntryPrice : ℚ := 0
  costBasis : ℚ := 0
  enteredAt : Option Timestamp := none
  status : PositionStatus := .closed
  exitReason : Option ExitReason := none
  entryExecutedQuantity : ℚ := 0
  entryExecutedAmount : ℚ := 0
  deriving DecidableEq

variable {ctx : DecimalContext}

/-- An open position holds something, at the average price of its cost. -/
def PositionStateFields.validateOpen (ctx : DecimalContext) (state : PositionStateFields) :
    Except TradingError Unit := do
  Except.require (0 < state.entryExecutedQuantity)
    (.valueError "entry_executed_quantity must be positive")
  Except.require (0 < state.entryExecutedAmount)
    (.valueError "entry_executed_amount must be positive")
  Except.require (0 < state.quantity) (.valueError "An OPEN Position requires positive quantity")
  Except.require (0 < state.costBasis)
    (.valueError "An OPEN Position requires positive cost_basis")
  Except.require (0 < state.averageEntryPrice)
    (.valueError "An OPEN Position requires positive average_entry_price")
  Except.require (state.owner ≠ none) (.valueError "An OPEN Position requires an owner")
  Except.require (state.enteredAt ≠ none) (.valueError "An OPEN Position requires entered_at")
  Except.require (state.averageEntryPrice = ctx.div state.costBasis state.quantity)
    (.valueError "average_entry_price must equal cost_basis / quantity")

/-- A closed position holds nothing. -/
def PositionStateFields.validateClosed (state : PositionStateFields) :
    Except TradingError Unit := do
  Except.require (0 ≤ state.entryExecutedQuantity)
    (.valueError "entry_executed_quantity must be non-negative")
  Except.require (0 ≤ state.entryExecutedAmount)
    (.valueError "entry_executed_amount must be non-negative")
  Except.require (state.quantity = 0) (.valueError "A CLOSED Position requires zero quantity")
  Except.require (state.costBasis = 0) (.valueError "A CLOSED Position requires zero cost_basis")
  Except.require (state.averageEntryPrice = 0)
    (.valueError "A CLOSED Position requires zero average_entry_price")
  Except.require (state.entryExecutedQuantity = 0 ∧ state.entryExecutedAmount = 0)
    (.valueError "A CLOSED Position requires zero entry execution values")
  Except.require (state.owner = none) (.valueError "A CLOSED Position cannot have an owner")
  Except.require (state.enteredAt = none) (.valueError "A CLOSED Position cannot have entered_at")

/-- `__post_init__` of a position state. -/
def PositionStateFields.validate (ctx : DecimalContext) (state : PositionStateFields) :
    Except TradingError Unit := do
  Except.require (state.symbol = supportedSymbol) (.valueError "Position supports only ETHUSDT")
  Except.require (0 ≤ state.quantity) (.valueError "quantity must be non-negative")
  Except.require (0 ≤ state.averageEntryPrice)
    (.valueError "average_entry_price must be non-negative")
  Except.require (0 ≤ state.costBasis) (.valueError "cost_basis must be non-negative")
  match state.status with
  | .open => state.validateOpen ctx
  | .closed => state.validateClosed

/-- A position state its constructor accepts. -/
structure PositionStateSnapshot (ctx : DecimalContext) extends PositionStateFields where
  valid : toPositionStateFields.validate ctx = .ok ()
  deriving DecidableEq

/-- The constructor: the bare record becomes a state or raises. -/
def PositionStateFields.create (ctx : DecimalContext) (state : PositionStateFields) :
    Except TradingError (PositionStateSnapshot ctx) :=
  match h : state.validate ctx with
  | .ok () => .ok ⟨state, h⟩
  | .error error => .error error

/-- A position: its state, and whether its lot goes back to a row with gross quantities. -/
structure Position (ctx : DecimalContext) where
  state : PositionStateSnapshot ctx
  legacyBaseFeeHistoryOpen : Bool := false
  deriving DecidableEq

/-- The state without holdings, with the reason of the sale that closed it. -/
def closedState (ctx : DecimalContext) (exitReason : Option ExitReason) :
    PositionStateSnapshot ctx where
  exitReason
  valid := by simp [PositionStateFields.validate, PositionStateFields.validateClosed, Except.require]

/-- `Position()`: nothing held. -/
def Position.empty (ctx : DecimalContext) : Position ctx where
  state := closedState ctx none

/-! ## Formulas shared by both paths -/

/-- The ETH a purchase brings, less the fee taken in ETH. -/
def calculateNetBuyQuantity (ctx : DecimalContext) (executedQuantity baseFee : ℚ) :
    Except TradingError ℚ := do
  let netQuantity := ctx.sub executedQuantity baseFee
  Except.require (0 < netQuantity)
    (.valueError "BUY base fee must be smaller than executed quantity")
  .ok netQuantity

/-- A purchase added to a state. -/
def buyState (state : PositionStateSnapshot ctx) (strategy : StrategyType)
    (acquiredQuantity executedQuantity executedAmount acquisitionFee : ℚ)
    (executedAt : Timestamp) : Except TradingError (PositionStateSnapshot ctx) := do
  let nextQuantity := ctx.add state.quantity acquiredQuantity
  let nextCostBasis := ctx.add (ctx.add state.costBasis executedAmount) acquisitionFee
  Except.require (nextQuantity ≠ 0) .divisionByZero
  PositionStateFields.create ctx {
    symbol := state.symbol
    owner := some strategy
    quantity := nextQuantity
    averageEntryPrice := ctx.div nextCostBasis nextQuantity
    costBasis := nextCostBasis
    enteredAt := state.enteredAt.or (some executedAt)
    status := .open
    exitReason := none
    entryExecutedQuantity := ctx.add state.entryExecutedQuantity executedQuantity
    entryExecutedAmount := ctx.add state.entryExecutedAmount executedAmount }

/-- The cost a sale of `soldQuantity` takes with it: everything when the lot is sold out,
else its share. -/
def allocateCost (state : PositionStateSnapshot ctx) (soldQuantity : ℚ) : ℚ :=
  if soldQuantity = state.quantity then state.costBasis
  else ctx.div (ctx.mul state.costBasis soldQuantity) state.quantity

/-- A sale taken from a state, with the cost allocated to it. -/
def sellState (state : PositionStateSnapshot ctx) (soldQuantity allocatedCost : ℚ)
    (exitReason : Option ExitReason) : Except TradingError (PositionStateSnapshot ctx) :=
  let nextQuantity := ctx.sub state.quantity soldQuantity
  if nextQuantity = 0 then .ok (closedState ctx exitReason)
  else
    let nextCostBasis := ctx.sub state.costBasis allocatedCost
    PositionStateFields.create ctx {
      symbol := state.symbol
      owner := state.owner
      quantity := nextQuantity
      averageEntryPrice := ctx.div nextCostBasis nextQuantity
      costBasis := nextCostBasis
      enteredAt := state.enteredAt
      status := .open
      exitReason
      entryExecutedQuantity :=
        ctx.div (ctx.mul state.entryExecutedQuantity nextQuantity) state.quantity
      entryExecutedAmount :=
        ctx.div (ctx.mul state.entryExecutedAmount nextQuantity) state.quantity }

namespace Position

/-- `require_history_accounting_compatibility`. -/
def requireHistoryAccountingCompatibility (position : Position ctx) : Except TradingError Unit :=
  Except.require (position.legacyBaseFeeHistoryOpen = false)
    (.valueError "open Position uses legacy base-fee accounting and requires migration")

/-- `get_cost_basis`: the cost a sale of this quantity would take with it. -/
def getCostBasis (position : Position ctx) (executedQuantity : ℚ) : Except TradingError ℚ := do
  Except.require (0 < executedQuantity) (.valueError "executed_quantity must be positive")
  Except.require (position.state.status = .open)
    (.valueError "Cannot allocate cost basis from a CLOSED Position")
  Except.require (executedQuantity ≤ position.state.quantity)
    (.valueError "executed_quantity exceeds Position quantity")
  .ok (allocateCost position.state executedQuantity)

/-! ## The live path -/

/-- `_build_buy_state`. -/
def buildBuyState (position : Position ctx) (summary : ExecutionSummary ctx) :
    Except TradingError (PositionStateSnapshot ctx) := do
  Except.require (∀ owner ∈ position.state.owner, owner = summary.strategy)
    (.valueError "BUY strategy does not own the open Position")
  let acquired ← calculateNetBuyQuantity ctx summary.aggregate.executedQuantity
    summary.baseFeeAmount
  buyState position.state summary.strategy acquired summary.aggregate.executedQuantity
    summary.aggregate.executedAmount summary.nonBaseFeeQuoteAmount summary.aggregate.executedAt

/-- `_build_sell_state`. -/
def buildSellState (position : Position ctx) (summary : ExecutionSummary ctx) :
    Except TradingError (PositionStateSnapshot ctx) := do
  Except.require (summary.baseFeeAmount ≤ 0)
    (.valueError "SELL base fee requires asset-flow reconciliation")
  Except.require (position.state.status = .open)
    (.valueError "Cannot apply SELL to a CLOSED Position")
  Except.require (position.state.owner = some summary.strategy)
    (.valueError "SELL strategy does not own the open Position")
  Except.require (summary.aggregate.executedQuantity ≤ position.state.quantity)
    (.valueError "SELL executed_quantity exceeds Position quantity")
  let allocated ← position.getCostBasis summary.aggregate.executedQuantity
  sellState position.state summary.aggregate.executedQuantity allocated summary.exitReason

/-- `apply_execution`: nothing is kept of an execution that raises. -/
def applyExecution (position : Position ctx) (summary : ExecutionSummary ctx) :
    Except TradingError (Position ctx) := do
  Except.require (0 < summary.aggregate.executedQuantity)
    (.valueError "executed_quantity must be positive")
  Except.require (0 < summary.aggregate.executedAmount)
    (.valueError "executed_amount must be positive")
  Except.require (0 ≤ summary.aggregate.feeQuoteAmount)
    (.valueError "fee_quote_amount must be non-negative")
  position.requireHistoryAccountingCompatibility
  Except.require (summary.symbol = position.state.symbol)
    (.valueError "Execution symbol does not match Position symbol")
  let state ← match summary.side with
    | .buy => position.buildBuyState summary
    | .sell => position.buildSellState summary
  .ok { position with state }

/-! ## The restart path -/

/-- The ETH a stored purchase brought; legacy rows count gross quantities. -/
def historicalAcquiredQuantity (trade : Trade ctx) : Except TradingError ℚ :=
  if trade.schemaVersion = .v1 then .ok trade.executedQuantity
  else calculateNetBuyQuantity ctx trade.executedQuantity trade.baseFeeAmount

/-- The fee a stored purchase adds to its cost. -/
def historicalAcquisitionFee (trade : Trade ctx) : ℚ :=
  if trade.schemaVersion = .v1 then trade.feeQuoteAmount else trade.nonBaseFeeQuoteAmount

/-- A stored purchase. -/
def applyHistoricalBuy (position : Position ctx) (trade : Trade ctx) :
    Except TradingError (Position ctx) := do
  Except.require (∀ owner ∈ position.state.owner, owner = trade.strategy)
    (.valueError "historical BUY strategy does not own the Position")
  let acquired ← historicalAcquiredQuantity trade
  let state ← buyState position.state trade.strategy acquired trade.executedQuantity
    trade.executedAmount (historicalAcquisitionFee trade) trade.executedAt
  .ok {
    state
    legacyBaseFeeHistoryOpen := position.legacyBaseFeeHistoryOpen ||
      decide (trade.schemaVersion = .v1 ∧ trade.feeAsset = .single .eth ∧ 0 < trade.feeAmount) }

/-- A stored sale; an external one may take a part of the residual with it. -/
def applyHistoricalSell (position : Position ctx) (trade : Trade ctx)
    (residualQuantity residualCostBasis : ℚ) : Except TradingError (Position ctx) := do
  Except.require (trade.schemaVersion ≠ .v1 → trade.baseFeeAmount ≤ 0)
    (.valueError "historical SELL base fee requires asset-flow reconciliation")
  Except.require (position.state.status = .open)
    (.valueError "historical SELL requires an open Position")
  Except.require (position.state.owner = some trade.strategy)
    (.valueError "historical SELL strategy does not own Position")
  let positionSold := ctx.sub trade.executedQuantity residualQuantity
  Except.require (residualQuantity ≠ 0 → positionSold = position.state.quantity)
    (.valueError "external residual is used only after exhausting the open lot")
  Except.require (0 < positionSold ∧ positionSold ≤ position.state.quantity)
    (.valueError "historical SELL exceeds Position quantity")
  let allocated := allocateCost position.state positionSold
  Except.require (residualQuantity ≠ 0 →
      trade.allocatedCostBasis = some (ctx.add allocated residualCostBasis))
    (.valueError "external SELL cost conflicts with position and residual ledger")
  let state ← sellState position.state positionSold allocated trade.exitReason
  .ok {
    state
    legacyBaseFeeHistoryOpen :=
      if state.status = .closed then false else position.legacyBaseFeeHistoryOpen }

/-- `apply_historical_trade`. -/
def applyHistoricalTrade (position : Position ctx) (trade : Trade ctx)
    (residualQuantity : ℚ := 0) (residualCostBasis : ℚ := 0) :
    Except TradingError (Position ctx) := do
  Except.require (trade.symbol = position.state.symbol)
    (.valueError "historical Trade symbol does not match Position")
  Except.require (0 ≤ residualQuantity ∧ 0 ≤ residualCostBasis)
    (.valueError "external residual allocation must be non-negative")
  Except.require (residualQuantity ≠ 0 ∨ residualCostBasis ≠ 0 →
      trade.schemaVersion = .v4 ∧ trade.exitReason = some .externalManual ∧ trade.side = .sell ∧
        0 < residualQuantity ∧ 0 < residualCostBasis)
    (.valueError "residual allocation requires a verified external SELL")
  Except.require (position.legacyBaseFeeHistoryOpen = true → trade.schemaVersion = .v1)
    (.valueError "open Position uses legacy base-fee accounting and requires migration")
  match trade.side with
  | .buy => position.applyHistoricalBuy trade
  | .sell => position.applyHistoricalSell trade residualQuantity residualCostBasis

/-! ## Residuals -/

/-- `detach_residual`: exactly the whole rest below one order step leaves the position. -/
def detachResidual (position : Position ctx) (quantity costBasis stepSize : ℚ) :
    Except TradingError (Position ctx) := do
  Except.require (0 < quantity ∧ 0 < costBasis ∧ 0 < stepSize)
    (.valueError "residual value must be positive")
  Except.require (quantity < stepSize ∧ position.state.quantity = quantity ∧
      position.state.costBasis = costBasis)
    (.valueError "residual does not match the entire sub-step Position")
  position.requireHistoryAccountingCompatibility
  .ok { position with state := closedState ctx position.state.exitReason }

end Position

end Trading
