import AutoTrader.Arithmetic.Truncation
import AutoTrader.Trading.Accounting.Residual
import AutoTrader.Trading.Transitions.Global
import AutoTrader.Trading.Risk
import AutoTrader.Trading.Session.FreeBalance

/-!
# Submitting an order intent

`_submit_order_action` of `application/trading_controller.py`: from an intent of the state
machine to an order at the gateway.

* `SubmissionSession` — what a submission reads and writes of the session.
* `SubmissionEnvironment` — the exchange and the other threads during one submission.
* `calculateOrderQuantity`, `limitBuyQuantity`, `buildBuyRiskBudget` — the quantities.
* `checkAdmission`, `screen`, `prepareOrder`, `finalGate`, `register` — the stages, each of which may
  end the submission.
* `submitOrderAction` — the whole submission.
-/

namespace Trading

open Arithmetic

inductive TradingSessionStatus where
  | notStarted | running | stopping | reconciliationRequired | terminated
  deriving DecidableEq, Repr

variable (ctx : DecimalContext)

/-! ## The session -/

/-- `_OrderExecutionState`: an order with what keeps its intent from being submitted again. -/
structure OrderExecution where
  order : Order ctx
  forceSell : Bool := false
  persistencePending : Bool := false
  pendingRecoveryPending : Bool := false
  awaitingTerminalZeroConfirmation : Bool := false
  stopAfterReconciliation : Bool := false

/-- The order is active, unknown, or not yet stored. -/
def OrderExecution.isUnresolved {ctx : DecimalContext} (state : OrderExecution ctx) : Bool :=
  state.persistencePending || state.pendingRecoveryPending ||
    state.awaitingTerminalZeroConfirmation ||
    state.order.status.all fun status => status == .unknown || status.isActive

/-- The scheduled repetition of a preparation that failed for the moment. -/
structure PreparationRetry where
  intentId : String
  dueAt : Option Timestamp
  attempt : ℕ := 0

/-- What makes a blocked entry worth another look. -/
structure BuyWaitFingerprint where
  riskPolicy : Option RiskPolicy
  sessionRiskPolicyVersion : Option ℤ
  accountVersion : ℕ
  freeQuote : ℚ
  exposure : ℚ × ℚ × ℚ
  manualKillActive : Bool
  lowerEventId : Option String
  signal : Option String × Option Timestamp
  deriving DecidableEq

/-- `_BuyBudgetWait`. -/
structure BuyBudgetWait where
  reason : RiskBlockReason
  fingerprint : BuyWaitFingerprint
  retryAt : Timestamp
  quantity : ℚ
  previewQuantity : Option ℚ

/-- What makes a deferred exit worth another look. -/
structure SellWaitFingerprint where
  sessionId : String
  lowerEventId : Option String
  enteredAt : Option Timestamp
  positionQuantity : ℚ
  accountVersion : ℕ
  freeBase : ℚ
  scaleOutRatio : ℚ
  riskPolicy : Option RiskPolicy
  tradingRules : Option String
  deriving DecidableEq

/-- `_SellMinimumWait`. -/
structure SellMinimumWait where
  fingerprint : SellWaitFingerprint
  retryAt : Timestamp
  previewQuantity : Option ℚ

/-- What a submission reads and writes of the session. -/
structure SubmissionSession where
  sessionId : String := "session"
  status : TradingSessionStatus := .running
  externalStopRequested : Bool := false
  shutdownPreparing : Bool := false
  shutdownLiquidationAllowed : Bool := false
  /-- The owner of the shutdown is the one who submits. -/
  ownsShutdown : Bool := false
  recoveredPositionLiquidation : Bool := false
  stmState : TradingStateConfiguration
  regimeType : RegimeType := .type0
  runtime : RuntimeFields := {}
  scaleInRatio : ℚ
  scaleOutRatio : ℚ
  contextVersion : ℕ := 0
  accountVersion : ℕ := 0
  realtimePrice : Decimal
  latestMarketEvaluationVersion : ℕ := 1
  fourHourPrice : Except TradingError ℚ := .error (.runtimeError "market snapshot is not ready")
  marketSnapshotVersion : ℕ := 0
  balances : FreeBalances
  position : Position ctx
  residual : Option ResidualSettlement := none
  trades : List (Trade ctx) := []
  /-- The executions by client order ID, oldest first; every submission has a new one. -/
  orders : List (OrderExecution ctx) := []
  hasPersistenceStates : Bool := false
  submissionAttempts : String → ℕ := fun _ => 0
  maximumOrderSubmissions : ℕ := 5
  quantityOverrides : String → Option ℚ := fun _ => none
  preparationRetry : Option PreparationRetry := none
  unsubmittedPreparation : Option String := none
  buyBudgetWaits : StrategyType → Option BuyBudgetWait := fun _ => none
  sellMinimumWaits : StrategyType × Option ExitReason → Option SellMinimumWait := fun _ => none
  maximumOrderNotional : Option ℚ := none
  riskPolicy : Option RiskPolicy := none
  sessionRiskPolicyVersion : Option ℤ := none
  manualKillActive : Bool := false

/-- Why the preparation of an order failed. -/
inductive PreparationError where
  /-- The exchange or the network is not available; the exchange may name a delay. -/
  | transient (retryAfter : Option Duration)
  | belowMinimum | filterRejected | invalidData | failed
  deriving DecidableEq, Repr

variable {ctx}

/-- The exchange and the other threads during one submission. -/
structure SubmissionEnvironment (ctx : DecimalContext) where
  now : Timestamp
  /-- The digest of session and intent in a client order ID. -/
  digest : String → String → String
  /-- `_preparation_signal_valid`. -/
  signalValid : StrategyType → Bool := fun _ => true
  /-- `prepare_order` of the REST client: its filters may only lower the submitted quantity. -/
  prepare : OrderIntentFields → Except PreparationError OrderIntentFields
  /-- What other threads do to the session while its lock is yielded. -/
  meanwhile : SubmissionSession ctx → SubmissionSession ctx := id
  previewBuyQuantity : ℚ → ℚ → Option ℚ := fun _ _ => none
  previewSellQuantity : ℚ → ℚ → Option ℚ := fun _ _ => none
  /-- The cached rules of the symbol. -/
  tradingRules : Option String := none
  allowsResidualRounding : Bool := false
  savesPendingOrder : Bool := true
  accountReady : Bool := true
  savesLifecycle : Bool := true

/-- What a submission has come to. -/
inductive Submission (ctx : DecimalContext) where
  | ignored
  | expired
  | raised (error : TradingError)
  | reconciliation
  | buyBlocked (decision : RiskDecision ctx)
  | sellDeferred
  /-- The intent failed before it was submitted, and is tried again. -/
  | failed
  | submitted (order : OrderIntent)

/-- A stage either ends the submission or goes on with a value. -/
abbrev Stage (ctx : DecimalContext) := Except (Submission ctx × SubmissionSession ctx)

namespace SubmissionSession

variable (session : SubmissionSession ctx) (env : SubmissionEnvironment ctx)

/-! ## Quantities -/

/-- `residual_totals`. -/
def residualTotals : ℚ × ℚ :=
  match session.residual with
  | none => (0, 0)
  | some settlement => settlement.totals ctx

/-- The order is an entry that may still be filled. -/
def isOpenBuy (state : OrderExecution ctx) : Bool :=
  state.order.side == .buy && !state.order.isTerminal

/-- The value an open entry reserves. -/
def reservedValue (state : OrderExecution ctx) : ℚ :=
  ctx.mul (max 0 (ctx.sub state.order.submittedQuantity state.order.filledQuantity))
    state.order.marketPriceAtDecision

/-- `_buy_exposure`: the value of the position, of the residual, and the reserved value. -/
def buyExposure (decisionPrice : ℚ) : ℚ × ℚ × ℚ :=
  (ctx.mul session.position.state.quantity decisionPrice,
    ctx.mul session.residualTotals.1 decisionPrice,
    ctx.sum ((session.orders.filter isOpenBuy).map reservedValue))

/-- What an amount buys at a price, rounded down. -/
def unitsFor (amount price : ℚ) : ℚ := truncateSignificant 34 (amount / price)

/-- The least of a quantity and what a limit buys. -/
def capQuantity (price quantity : ℚ) : Option ℚ → ℚ
  | none => quantity
  | some limit => min quantity (unitsFor limit price)

/-- `_limit_buy_quantity`. -/
def limitBuyQuantity (quantity price : ℚ) : ℚ :=
  match session.riskPolicy with
  | none => quantity
  | some policy =>
      let (strategy, residual, reserved) := session.buyExposure price
      let remaining := policy.maxPositionNotional.map fun maximum =>
        max 0 (ctx.sub (ctx.sub maximum (ctx.add strategy residual)) reserved)
      capQuantity price (capQuantity price quantity policy.maxOrderNotional) remaining

/-- `_get_effective_free_balance`. -/
def effectiveFree (asset : FeeAsset) : Except TradingError (ℚ × SubmissionSession ctx) :=
  match FreeBalances.getEffectiveFreeBalance ctx asset session.balances with
  | .ok free balances => .ok (free, { session with balances := balances })
  | .error error _ => .error error

/-- The quantity before the ceiling of a single order. -/
def naturalQuantity (side : OrderSide) (splitRatio marketPrice : ℚ) (quantityOverride : Option ℚ)
    (forceSell : Bool) (free : ℚ) : ℚ :=
  match side with
  | .buy =>
      match quantityOverride with
      | some quantity => min quantity (ctx.div free marketPrice)
      | none => ctx.div (ctx.mul free splitRatio) marketPrice
  | .sell =>
      let maximum := min session.position.state.quantity free
      match quantityOverride with
      | some quantity => min quantity maximum
      | none => if forceSell then maximum else ctx.mul maximum splitRatio

/-- `_calculate_order_quantity`; a forced sale has no ceiling. -/
def calculateOrderQuantity (side : OrderSide) (splitRatio marketPrice : ℚ)
    (quantityOverride : Option ℚ) (forceSell : Bool) :
    Except TradingError (ℚ × SubmissionSession ctx) := do
  Except.require (0 < marketPrice) (.valueError "market_price must be a positive Decimal")
  let (free, next) ← session.effectiveFree (if side = .buy then .usdt else .eth)
  let natural :=
    session.naturalQuantity side splitRatio marketPrice quantityOverride forceSell free
  .ok (if side = .sell ∧ forceSell then natural
    else capQuantity marketPrice natural session.maximumOrderNotional, next)

/-! ## The risk budget of an entry -/

/-- The realized result of the day: its sales, in the history's sequence. -/
def dailyRealizedPnl (now : Timestamp) : Except TradingError ℚ :=
  session.trades.foldlM (fun total trade =>
    if trade.side ≠ .sell ∨ kstDate trade.executedAt ≠ kstDate now then .ok total
    else match trade.realizedPnl with
      | none => .error (.runtimeError "durable SELL Trade is missing realized PnL")
      | some realizedPnl => .ok (defaultContext.add total realizedPnl)) 0

/-- The fields of the budget of an entry. -/
def buyRiskBudgetFields (now : Timestamp) (decisionPrice quantity : ℚ)
    (requestedOrderNotional : Option ℚ) (dailyRealizedPnl : ℚ) : RiskBudgetFields :=
  let (strategy, residual, reserved) := session.buyExposure decisionPrice
  let current := ctx.add strategy residual
  let candidate := ctx.mul quantity decisionPrice
  let unrealizedPnl :=
    ctx.sub (ctx.sub current session.position.state.costBasis) session.residualTotals.2
  let scope := (session.riskPolicy.map RiskPolicy.dailyLossScope).getD .realizedOnly
  let maximum := session.riskPolicy.bind RiskPolicy.maxPositionNotional
  { policyVersion := session.sessionRiskPolicyVersion
    marketVersion := if 0 < session.latestMarketEvaluationVersion then
      session.latestMarketEvaluationVersion else session.marketSnapshotVersion
    accountVersion := session.accountVersion
    contextVersion := session.contextVersion
    currentPositionNotional := current
    reservedBuyNotional := reserved
    candidateOrderNotional := candidate
    projectedPositionNotional := ctx.add (ctx.add current reserved) candidate
    dailyRealizedPnl := dailyRealizedPnl
    unrealizedPnl := unrealizedPnl
    dailyLoss := calculateDailyLoss ctx scope dailyRealizedPnl unrealizedPnl
    manualKillActive := session.manualKillActive
    evaluatedAt := some now
    strategyPositionNotional := some strategy
    residualPositionNotional := some residual
    remainingPositionNotional := maximum.map fun maximum =>
      max 0 (ctx.sub (ctx.sub maximum current) reserved)
    requestedOrderNotional := requestedOrderNotional
    maxPositionNotional := maximum }

/-- `_build_buy_risk_budget`. -/
def buildBuyRiskBudget (now : Timestamp) (decisionPrice quantity : ℚ)
    (requestedOrderNotional : Option ℚ) : Except TradingError (RiskBudgetSnapshot ctx) := do
  let realizedPnl ← session.dailyRealizedPnl now
  (session.buyRiskBudgetFields now decisionPrice quantity requestedOrderNotional realizedPnl).create
    ctx

/-- The budget of an entry and its evaluation. -/
def evaluateBuy (now : Timestamp) (decisionPrice quantity : ℚ)
    (requestedOrderNotional : Option ℚ) : Except TradingError (RiskDecision ctx) := do
  let budget ← session.buildBuyRiskBudget now decisionPrice quantity requestedOrderNotional
  evaluateBuyRisk session.riskPolicy budget

/-! ## Waiting for a better moment -/

/-- `_buy_wait_fingerprint`. -/
def buyWaitFingerprint (strategy : StrategyType) :
    Except TradingError (BuyWaitFingerprint × SubmissionSession ctx) := do
  let (freeQuote, next) ← session.effectiveFree .usdt
  .ok ({ riskPolicy := session.riskPolicy
         sessionRiskPolicyVersion := session.sessionRiskPolicyVersion
         accountVersion := session.accountVersion
         freeQuote := freeQuote
         exposure := session.buyExposure 1
         manualKillActive := session.manualKillActive
         lowerEventId := session.runtime.lowerEventId
         signal :=
          match strategy with
          | .caseB => (none, session.runtime.signalTime)
          | .caseC => (session.runtime.lastCaseCSetupCandleId, session.runtime.timerBaseTime) },
    next)

/-- `_sell_wait_fingerprint`. -/
def sellWaitFingerprint : Except TradingError (SellWaitFingerprint × SubmissionSession ctx) := do
  let (freeBase, next) ← session.effectiveFree .eth
  .ok ({ sessionId := session.sessionId
         lowerEventId := session.runtime.lowerEventId
         enteredAt := session.position.state.enteredAt
         positionQuantity := session.position.state.quantity
         accountVersion := session.accountVersion
         freeBase := freeBase
         scaleOutRatio := session.scaleOutRatio
         riskPolicy := session.riskPolicy
         tradingRules := env.tradingRules }, next)

/-- The preview is no more than the one of the wait. -/
def previewWithin (preview waited : Option ℚ) : Bool :=
  preview.all fun quantity => decide (quantity ≤ waited.getD 0)

/-- `_defer_buy_budget_preparation`. -/
def deferBuyBudgetPreparation (strategy : StrategyType) (quantity price : ℚ) :
    Except TradingError Bool :=
  match session.buyBudgetWaits strategy with
  | none => .ok false
  | some wait => do
      if wait.reason ≠ .riskBuyBudgetInsufficient then return false
      let (fingerprint, _) ← session.buyWaitFingerprint strategy
      return decide (wait.fingerprint = fingerprint) && decide (env.now < wait.retryAt) &&
        decide (0 < wait.quantity) &&
        previewWithin (env.previewBuyQuantity quantity price) wait.previewQuantity

/-- Thirty seconds. -/
def waitDelay : Duration := 30000000

/-- The retry of a failed preparation is dropped. -/
def clearPreparationRetry : SubmissionSession ctx := { session with preparationRetry := none }

/-- `_block_buy_budget`: the entry goes back to its signal, and the wait is renewed when its
reason or its circumstances have changed, or after an actual preparation. -/
def blockBuyBudget (action : SubmitOrder) (decision : RiskDecision ctx) (quantity price : ℚ)
    (prepared : Bool := false) : Submission ctx × SubmissionSession ctx :=
  match decision.blockReason, session.buyWaitFingerprint action.strategy with
  | none, _ => (.raised (.valueError "a blocked buy decision is required"), session)
  | _, .error error => (.raised error, session)
  | some reason, .ok (fingerprint, next) =>
      let fresh : BuyBudgetWait :=
        ⟨reason, fingerprint, env.now + waitDelay, quantity, env.previewBuyQuantity quantity price⟩
      let wait :=
        match session.buyBudgetWaits action.strategy with
        | none => fresh
        | some wait =>
            if wait.reason ≠ reason ∨ wait.fingerprint ≠ fingerprint ∨ prepared then fresh else wait
      (.buyBlocked decision,
        { next.clearPreparationRetry with
          unsubmittedPreparation := none
          buyBudgetWaits := fun strategy =>
            if strategy = action.strategy then some wait else next.buyBudgetWaits strategy })

/-- `_can_defer_sell_minimum`. -/
def canDeferSellMinimum (action : SubmitOrder) : Bool :=
  session.status == .running && !session.shutdownPreparing && !session.externalStopRequested &&
    decide (0 < session.position.state.quantity) &&
    session.stmState.rootState == .tradeManagement &&
    session.runtime.pendingOrderId.isNone &&
    session.runtime.pendingIntentId == some action.idempotencyKey &&
    session.runtime.pendingStrategy == some action.strategy &&
    session.runtime.positionOwner == some action.strategy &&
    session.runtime.pendingReturnState.any (returnsToPositionState session.stmState action.strategy)

/-- `_defer_sell_minimum`: the exit waits where it was decided. -/
def deferSellMinimum (action : SubmitOrder) (quantity price : ℚ) (prepared : Bool) :
    Submission ctx × SubmissionSession ctx :=
  match session.sellWaitFingerprint env with
  | .error error => (.raised error, session)
  | .ok (fingerprint, next) =>
      let key := (action.strategy, action.exitReason)
      let fresh : SellMinimumWait :=
        ⟨fingerprint, env.now + waitDelay, env.previewSellQuantity quantity price⟩
      let wait :=
        match session.sellMinimumWaits key with
        | none => fresh
        | some wait => if wait.fingerprint ≠ fingerprint ∨ prepared then fresh else wait
      (.sellDeferred,
        { next.clearPreparationRetry with
          unsubmittedPreparation := some action.idempotencyKey
          sellMinimumWaits := fun other =>
            if other = key then some wait else next.sellMinimumWaits other })

/-! ## Stages -/

/-- A stage that raises. -/
def raising {α : Type} : Except TradingError α → Stage ctx α
  | .ok a => .ok a
  | .error error => .error (.raised error, session)

/-- `_enter_order_reconciliation`. -/
def enterReconciliation : SubmissionSession ctx :=
  { session with status := .reconciliationRequired }

/-- The latest execution of an intent that is not settled. -/
def findActiveStateForIntent (intentId : String) : Option (OrderExecution ctx) :=
  session.orders.reverse.find? fun state =>
    decide (state.order.intentId = intentId) && state.isUnresolved

/-- The submission is refused while the session stops or shuts down. -/
def isClosedTo (forceSell : Bool) : Bool :=
  (session.externalStopRequested && !forceSell) ||
    (session.shutdownPreparing &&
      !(forceSell && session.shutdownLiquidationAllowed && session.ownsShutdown))

/-- An unforced exit of Case C is exactly the one the state machine decided. -/
def hasExitProvenance (action : SubmitOrder) (forceSell : Bool) : Bool :=
  forceSell || action.strategy != .caseC || action.side != .sell ||
    (action.exitReason.isSome && action.exitReason == session.runtime.pendingExitReason &&
      action.exitPctBAtIntent.any (fun pctB => pctB.finite?.isSome) &&
      session.runtime.pendingExitPctB == action.exitPctBAtIntent)

/-- `_handle_submission_budget_exhausted`. -/
def exhaustSubmissionBudget (intentId : String) : SubmissionSession ctx :=
  if 0 < session.position.state.quantity then session.enterReconciliation
  else
    { session with
      quantityOverrides := fun other =>
        if other = intentId then none else session.quantityOverrides other
      runtime := { session.runtime with
        pendingStrategy := none
        pendingOrderSide := none
        pendingOrderId := none
        pendingOrderAttemptKind := none
        pendingIntentId := none
        tradingPhase := .idle } }

/-- The checks before anything is calculated. -/
def checkAdmission (action : SubmitOrder) (forceSell : Bool) (quantityOverride : Option ℚ) :
    Stage ctx Unit :=
  let retry := session.preparationRetry.filter (·.intentId = action.idempotencyKey)
  if session.isClosedTo forceSell then .error (.ignored, session)
  else if retry.any (fun retry => retry.dueAt.any fun dueAt => decide (env.now < dueAt)) then
    .error (.ignored, session)
  else if retry.isSome ∧ action.side = .buy ∧ env.signalValid action.strategy = false then
    .error (.expired, { session.clearPreparationRetry with unsubmittedPreparation := none })
  else if session.hasExitProvenance action forceSell = false then
    .error (.raised (.valueError "non-force Case C SELL requires exact exit intent provenance"),
      session)
  else if quantityOverride.any (fun quantity => decide (quantity ≤ 0)) then
    .error (.raised (.valueError "quantity_override must be a positive finite Decimal"), session)
  else if session.status = .reconciliationRequired then .error (.ignored, session)
  else if session.hasPersistenceStates then .error (.reconciliation, session.enterReconciliation)
  else if (session.findActiveStateForIntent action.idempotencyKey).isSome then
    .error (.ignored, session)
  else if session.maximumOrderSubmissions ≤ session.submissionAttempts action.idempotencyKey then
    .error (.ignored, session.exhaustSubmissionBudget action.idempotencyKey)
  else .ok ()

/-- `get_split_ratio`. -/
def splitRatio : Except TradingError ℚ :=
  match session.runtime.pendingOrderSide with
  | some .buy => .ok session.scaleInRatio
  | some .sell => .ok session.scaleOutRatio
  | none => .error (.runtimeError "A pending order side is required")

/-- The price of the claimed evaluation, or that of the four-hour candle before any. -/
def decisionPrice : Except TradingError ℚ :=
  if 0 < session.latestMarketEvaluationVersion then
    match session.realtimePrice.finite? with
    | some price =>
        if 0 < price then .ok price
        else .error (.runtimeError "claimed market evaluation price must remain positive and finite")
    | none =>
        .error (.runtimeError "claimed market evaluation price must remain positive and finite")
  else session.fourHourPrice

/-- The recorded quantity of an intent is taken once. -/
def popQuantityOverride (intentId : String) : SubmissionSession ctx :=
  { session with
    quantityOverrides := fun other =>
      if other = intentId then none else session.quantityOverrides other }

/-- An entry is lowered to its limits and checked before it is prepared.  The second value is
what it asked for. -/
def screenBuy (action : SubmitOrder) (price quantity : ℚ) : Stage ctx (ℚ × Option ℚ) := do
  let requestedNotional := ctx.mul quantity price
  let limited := session.limitBuyQuantity quantity price
  let decision ← session.raising (session.evaluateBuy env.now price limited (some requestedNotional))
  let insufficient : RiskDecision ctx := ⟨some .riskBuyBudgetInsufficient, decision.budget⟩
  if decision.allowed = false then
    .error (session.blockBuyBudget env action decision limited price)
  else if limited ≤ 0 then
    .error (session.blockBuyBudget env action insufficient limited price)
  else do
    let deferred ← session.raising
      (session.deferBuyBudgetPreparation env action.strategy limited price)
    if deferred then .error (session.blockBuyBudget env action insufficient limited price)
    else .ok (limited, some requestedNotional)

/-- A quantity of zero never reaches the gateway. -/
def rejectZeroQuantity (action : SubmitOrder) (quantity : ℚ) : Stage ctx Unit :=
  if 0 < quantity then .ok ()
  else if session.recoveredPositionLiquidation then
    .error (.raised (.runtimeError "recovered-position liquidation quantity is zero"), session)
  else
    .error (.reconciliation,
      { session.enterReconciliation with
        unsubmittedPreparation := some action.idempotencyKey })

/-- An exit below the minimum is not prepared again before something has changed. -/
def deferKnownSell (action : SubmitOrder) (forceSell : Bool) (price quantity : ℚ) :
    Stage ctx Unit :=
  if action.side = .sell ∧ forceSell = false ∧ session.canDeferSellMinimum action then
    match session.sellMinimumWaits (action.strategy, action.exitReason) with
    | none => .ok ()
    | some wait => do
        let (fingerprint, next) ← session.raising (session.sellWaitFingerprint env)
        if wait.fingerprint = fingerprint ∧ env.now < wait.retryAt ∧
            previewWithin (env.previewSellQuantity quantity price) wait.previewQuantity then
          .error (next.deferSellMinimum env action quantity price false)
        else .ok ()
  else .ok ()

/-- An exit keeps its calculated quantity. -/
def screenSide (action : SubmitOrder) (price quantity : ℚ) : Stage ctx (ℚ × Option ℚ) :=
  if action.side = .buy then session.screenBuy env action price quantity
  else .ok (quantity, none)

/-- What is checked between the calculation and the order. -/
def screen (action : SubmitOrder) (forceSell : Bool) (price quantity : ℚ) :
    Stage ctx (ℚ × Option ℚ) := do
  let screened ← session.screenSide env action price quantity
  session.rejectZeroQuantity action screened.1
  session.deferKnownSell env action forceSell price screened.1
  return screened

/-- `_create_client_order_id`. -/
def createClientOrderId (intentId : String) (submissionAttempt : ℕ) : String :=
  "bat-" ++ env.digest session.sessionId intentId ++ "-" ++ toString submissionAttempt

/-- The %B of an exit has to be finite. -/
def finiteExitPctB (action : SubmitOrder) : Except TradingError (Option ℚ) :=
  match action.exitPctBAtIntent with
  | none => .ok none
  | some pctB =>
      match pctB.finite? with
      | some value => .ok (some value)
      | none => .error (.valueError "exit_pct_b_at_intent must be finite")

/-- The order of an attempt, before the filters of the exchange. -/
def orderFields (action : SubmitOrder) (price quantity : ℚ) (exitPctB : Option ℚ) :
    OrderIntentFields where
  intentId := action.idempotencyKey
  clientOrderId := session.createClientOrderId env action.idempotencyKey
    (session.submissionAttempts action.idempotencyKey)
  submissionAttempt := session.submissionAttempts action.idempotencyKey
  side := action.side
  strategy := action.strategy
  regimeType := session.regimeType
  requestedQuantity := quantity
  submittedQuantity := quantity
  marketPriceAtDecision := price
  riskPolicyVersion := session.sessionRiskPolicyVersion
  exitReason := action.exitReason
  exitPctBAtIntent := exitPctB

/-- The constructor: the fields become an order or raise. -/
def createOrder (fields : OrderIntentFields) : Except TradingError OrderIntent :=
  match h : fields.validate with
  | .ok () => .ok ⟨fields, h⟩
  | .error error => .error error

/-- `prepare_order` of the gateway: the client may change nothing but lower the quantity. -/
def prepareOrder (order : OrderIntent) : Except PreparationError OrderIntent :=
  match env.prepare order.toOrderIntentFields with
  | .error error => .error error
  | .ok fields =>
      if fields =
            { order.toOrderIntentFields with
              submittedQuantity := fields.submittedQuantity
              riskPolicyVersion := fields.riskPolicyVersion } ∧
          fields.submittedQuantity ≤ order.submittedQuantity then
        match createOrder fields with
        | .ok prepared => .ok prepared
        | .error _ => .error .failed
      else .error .failed

/-- `_PREPARATION_RETRY_SECONDS`, and the delay the exchange asks for. -/
def preparationDelay (attempt : ℕ) (retryAfter : Option Duration) : Duration :=
  let seconds : Duration := [1, 2, 5, 10, 30].getD (min attempt 4) 30
  max (seconds * 1000000) (retryAfter.getD 0)

/-- The next repetition of a preparation that failed for the moment. -/
def nextPreparationRetry (intentId : String) (retryAfter : Option Duration) : PreparationRetry :=
  let attempt :=
    ((session.preparationRetry.filter (·.intentId = intentId)).map PreparationRetry.attempt).getD 0
  ⟨intentId, some (env.now + preparationDelay attempt retryAfter), attempt + 1⟩

/-- A preparation that cannot be repeated locks the session. -/
def rejectPreparation : Submission ctx × SubmissionSession ctx :=
  if session.recoveredPositionLiquidation then
    (.raised (.runtimeError "recovered-position liquidation order preflight failed"), session)
  else (.reconciliation, session.enterReconciliation)

/-- What a failed preparation comes to. -/
def failPreparation (action : SubmitOrder) (forceSell : Bool) (price quantity : ℚ)
    (requestedNotional : Option ℚ) (error : PreparationError) :
    Submission ctx × SubmissionSession ctx :=
  let unsubmitted := { session with unsubmittedPreparation := some action.idempotencyKey }
  if error = .belowMinimum ∧ action.side = .buy then
    match session.buildBuyRiskBudget env.now price quantity requestedNotional with
    | .error error => (.raised error, session)
    | .ok budget =>
        session.blockBuyBudget env action ⟨some .riskBuyBudgetInsufficient, budget⟩ quantity price
          true
  else if error = .belowMinimum ∧ action.side = .sell ∧ forceSell = false ∧
      session.canDeferSellMinimum action then
    session.deferSellMinimum env action quantity price true
  else match error with
    | .transient retryAfter =>
        if session.recoveredPositionLiquidation = false ∨ session.ownsShutdown then
          (.failed,
            { unsubmitted with
              preparationRetry :=
                some (session.nextPreparationRetry env action.idempotencyKey retryAfter) })
        else rejectPreparation unsubmitted
    | _ => rejectPreparation unsubmitted

/-- A recovered position is only sold whole. -/
def checkRecoveredQuantity (order : OrderIntent) (quantity : ℚ) : Stage ctx Unit :=
  if session.recoveredPositionLiquidation ∧
      (quantity ≠ session.position.state.quantity ∨
        (order.submittedQuantity ≠ session.position.state.quantity ∧
          env.allowsResidualRounding = false)) then
    .error (.raised
      (.runtimeError "recovered-position liquidation must submit the exact full Position"), session)
  else .ok ()

/-- The filtered entry passes the same limits once more. -/
def gateBuy (action : SubmitOrder) (order : OrderIntent) (price : ℚ)
    (requestedNotional : Option ℚ) : Stage ctx (SubmissionSession ctx) :=
  if order.side = .buy then do
    let decision ← session.raising (session.evaluateBuy env.now order.marketPriceAtDecision
      order.submittedQuantity requestedNotional)
    if decision.allowed = false then
      .error (session.blockBuyBudget env action decision order.submittedQuantity price true)
    else
      .ok { session with
        buyBudgetWaits := fun strategy =>
          if strategy = action.strategy then none else session.buyBudgetWaits strategy }
  else .ok session

/-- A prepared exit waits no more. -/
def clearWaits (action : SubmitOrder) : SubmissionSession ctx :=
  { session.clearPreparationRetry with
    unsubmittedPreparation := none
    sellMinimumWaits := fun other =>
      if action.side = .sell ∧ other = (action.strategy, action.exitReason) then none
      else session.sellMinimumWaits other }

/-- The checks after the preparation; the session may have changed meanwhile. -/
def finalGate (action : SubmitOrder) (forceSell : Bool) (order : OrderIntent) (price quantity : ℚ)
    (requestedNotional : Option ℚ) : Stage ctx (SubmissionSession ctx) :=
  let unsubmitted := { session with unsubmittedPreparation := some action.idempotencyKey }
  if session.externalStopRequested ∧ forceSell = false then .error (.failed, unsubmitted)
  else do
    let cleared := session.clearWaits action
    cleared.checkRecoveredQuantity env order quantity
    let gated ← cleared.gateBuy env action order price requestedNotional
    if gated.shutdownPreparing ∧
        ¬(forceSell ∧ gated.shutdownLiquidationAllowed ∧ gated.ownsShutdown) then
      .error (.ignored, { gated with unsubmittedPreparation := some action.idempotencyKey })
    else .ok gated

/-- The order becomes an execution of the session, and its attempt counts. -/
def registerOrder (order : OrderIntent) (forceSell : Bool) : SubmissionSession ctx :=
  { session with
    orders := session.orders ++ [{ order := order.order ctx, forceSell := forceSell }]
    submissionAttempts := fun intentId =>
      if intentId = order.intentId then order.submissionAttempt + 1
      else session.submissionAttempts intentId
    runtime := { session.runtime with
      pendingStrategy := some order.strategy
      pendingOrderSide := some order.side
      pendingOrderId := some order.clientOrderId
      pendingOrderAttemptKind := some (if order.submissionAttempt = 0 then .initial else .retry) } }

/-- The order is registered and, when everything durable is written, handed to the gateway. -/
def register (order : OrderIntent) (forceSell : Bool) : Submission ctx × SubmissionSession ctx :=
  let registered := session.registerOrder order forceSell
  if env.savesPendingOrder = false then (.reconciliation, registered.enterReconciliation)
  else if env.accountReady = false ∧ session.ownsShutdown = false then
    (.reconciliation, registered.enterReconciliation)
  else if env.savesLifecycle = false then (.reconciliation, registered.enterReconciliation)
  else (.submitted order, registered)

/-! ## The submission -/

/-- How a stage that ended the submission, or its last value, comes out. -/
def outcome : Stage ctx (Submission ctx × SubmissionSession ctx) →
    Submission ctx × SubmissionSession ctx
  | .error ended => ended
  | .ok finished => finished

/-- The preparation of an order, while the lock of the session is yielded. -/
def prepare (action : SubmitOrder) (forceSell : Bool) (price quantity : ℚ)
    (requestedNotional : Option ℚ) (order : OrderIntent) : Stage ctx OrderIntent :=
  match prepareOrder env order with
  | .ok prepared => .ok prepared
  | .error error =>
      .error ((env.meanwhile session).failPreparation env action forceSell price quantity
        requestedNotional error)

/-- The stages from a calculated quantity to the gateway. -/
def placing (action : SubmitOrder) (forceSell : Bool) (price quantity : ℚ) :
    Stage ctx (Submission ctx × SubmissionSession ctx) := do
  let screened ← session.screen env action forceSell price quantity
  let exitPctB ← session.raising (finiteExitPctB action)
  let order ← session.raising
    (createOrder (session.orderFields env action price screened.1 exitPctB))
  let prepared ← session.prepare env action forceSell price screened.1 screened.2 order
  let gated ← (env.meanwhile session).finalGate env action forceSell prepared price screened.1
    screened.2
  return gated.register env prepared forceSell

/-- From a calculated quantity to the gateway. -/
def place (action : SubmitOrder) (forceSell : Bool) (price quantity : ℚ) :
    Submission ctx × SubmissionSession ctx :=
  outcome (session.placing env action forceSell price quantity)

end SubmissionSession

/-- A submission: the quantity it calculated, if it came to that, and what it came to. -/
structure SubmissionStep (ctx : DecimalContext) where
  calculated : Option ℚ := none
  outcome : Submission ctx
  session : SubmissionSession ctx

namespace SubmissionSession

variable (session : SubmissionSession ctx) (env : SubmissionEnvironment ctx)

/-- `_submit_order_action`. -/
def submitOrderAction (action : SubmitOrder) (forceSell : Bool := false)
    (quantityOverride : Option ℚ := none) : SubmissionStep ctx :=
  match session.checkAdmission env action forceSell quantityOverride with
  | .error (outcome, next) => { outcome := outcome, session := next }
  | .ok () =>
    match session.splitRatio, session.decisionPrice with
    | .error error, _ => { outcome := .raised error, session := session }
    | _, .error error => { outcome := .raised error, session := session }
    | .ok splitRatio, .ok price =>
      let selected := quantityOverride.or (session.quantityOverrides action.idempotencyKey)
      let popped :=
        if quantityOverride.isSome then session
        else session.popQuantityOverride action.idempotencyKey
      match popped.calculateOrderQuantity action.side splitRatio price selected forceSell with
      | .error error => { outcome := .raised error, session := popped }
      | .ok (quantity, next) =>
          let (outcome, final) := next.place env action forceSell price quantity
          { calculated := some quantity, outcome := outcome, session := final }

end SubmissionSession

end Trading
