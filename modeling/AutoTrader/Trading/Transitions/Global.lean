import AutoTrader.Trading.Transitions.Helpers

/-!
# Global transitions G-01 to G-07

`domain/trading/transitions/global_transitions.py`: the transitions evaluated before
every parallel region, among them STOP, the forced sale and the band touches that
open and close lower-touch events.
-/

namespace Trading

open Arithmetic

/-- Every pending order and exit field of a fresh session, with the given phase. -/
def clearAllPatch (phase : TradingPhase) : TradingActionRequest :=
  patch [
    ⟨.positionOwner, none⟩,
    ⟨.pendingStrategy, none⟩,
    ⟨.pendingOrderSide, none⟩,
    ⟨.pendingOrderId, none⟩,
    ⟨.pendingOrderAttemptKind, none⟩,
    ⟨.pendingIntentId, none⟩,
    ⟨.pendingExitReason, none⟩,
    ⟨.pendingExitPctB, none⟩,
    ⟨.pendingReturnState, none⟩,
    ⟨.tradingPhase, phase⟩]

/-- `_handle_upper_band_touch`. -/
def handleUpperBandTouch (state : TradingStateConfiguration) (context : TradingContextView)
    (isMarketObservation : Bool) : Option TransitionOutcome :=
  if context.runtime.pendingOrderId.isSome || context.runtime.pendingIntentId.isSome ||
      context.position.isOpen then
    -- an actual market observation goes on to the Case evaluations
    if isMarketObservation then none
    else some (createTransitionOutcome "G-07" state [] [] true)
  else
    some (createTransitionOutcome "G-07" .lowerTouchWatch [
      .closeLowerEvent "UPPER_BAND_RETURN_TO_LOWER_WATCH",
      .resetCaseBContext false,
      .resetCaseCContext false false,
      clearAllPatch .idle,
      .cancelScheduledEvaluation "lower-event"] [] true)

/-- Is the event a market observation, not an internal re-evaluation of old values? -/
def isMarketObservation (event : TradingEvent) : Bool :=
  event.eventType == .marketDataUpdated && event.market.isSome

/-- G-02, the first lower touch. -/
def canOpenFirstLowerEvent (state : TradingStateConfiguration) (event : TradingEvent)
    (context : TradingContextView) : Bool :=
  state.rootState == .lowerTouchWatch &&
    (event.eventType == .lowerBandTouched ||
      (isMarketObservation event && context.runtime.lowerEventId.isNone))

/-- G-03, a lower touch of a new candle. -/
def canReopenLowerEvent (state : TradingStateConfiguration) (event : TradingEvent)
    (context : TradingContextView) : Bool :=
  state.rootState == .tradeManagement &&
    (event.eventType == .new30mLowerBandTouched ||
      (isMarketObservation event && context.runtime.lowerEventId.isSome &&
        context.market.current30mCandleId.isSome)) &&
    context.runtime.positionOwner.isNone &&
    context.runtime.pendingOrderId.isNone &&
    context.market.current30mCandleId != context.runtime.touchCandleId &&
    (!context.runtime.caseCConsumedForEvent || context.runtime.caseCRecoveryConfirmed)

/-- The internal event that enters trade management for a new lower event. -/
def activateTradeManagement (event : TradingEvent) (context : TradingContextView) :
    TradingActionRequest :=
  .queueEvent
    { eventType := .activateTradeManagement
      lowerEventId := some (resolveLowerEventId event context) }

/-- The event may report an upper touch, and the price is at the upper band. -/
def isUpperTouch (event : TradingEvent) (context : TradingContextView) :
    Except TradingError Bool := do
  let candidate ←
    if event.eventType = .upperBandTouched then pure true
    else if isMarketObservation event then raiseInvalid (Decimal.lt? 0 context.market.upperBand)
    else pure false
  return candidate && conditionMet .upperSafeExit context

/-- The event may report a lower touch, and the price is at the lower band. -/
def isLowerTouch (event : TradingEvent) (context : TradingContextView) :
    Except TradingError Bool := do
  let candidate ←
    if isMarketObservation event then
      (raiseInvalid (Decimal.le? context.market.lowerBand 0)).map (!·)
    else pure (event.eventType = .lowerBandTouched ∨ event.eventType = .new30mLowerBandTouched)
  return candidate && isLowerTouchConditionMet context

/-- The actions of G-02 and G-03 that open a lower event. -/
def openLowerEventActions (event : TradingEvent) (context : TradingContextView) :
    Except TradingError (List TradingActionRequest) := do
  let initialization ← createLowerEventInitializationPatch context
  return [
    .openLowerEvent (createOpenLowerEventAction event context),
    initialization,
    patch [⟨.positionOwner, none⟩],
    activateTradeManagement event context]

/-- G-02. -/
def openFirstLowerEvent (event : TradingEvent) (context : TradingContextView) :
    Except TradingError TransitionOutcome := do
  let actions ← openLowerEventActions event context
  return createTransitionOutcome "G-02" .createTradeManagementInitialState actions
    ["O-01", "C-01", "B-01"] true

/-- G-03. -/
def reopenLowerEvent (event : TradingEvent) (context : TradingContextView) :
    Except TradingError TransitionOutcome := do
  let actions ← openLowerEventActions event context
  return createTransitionOutcome "G-03" .createTradeManagementInitialState
    (.closeLowerEvent "NEW_30M_LOWER_TOUCH" :: actions) ["O-01", "C-01", "B-01"] true

/-- `_handle_band_touch`. -/
def handleBandTouch (state : TradingStateConfiguration) (event : TradingEvent)
    (context : TradingContextView) : Except TradingError (Option TransitionOutcome) := do
  if ← isUpperTouch event context then
    if state.rootState = .tradeManagement then
      .ok (handleUpperBandTouch state context (isMarketObservation event))
    else .ok none
  else if ← isLowerTouch event context then
    if canOpenFirstLowerEvent state event context then
      (openFirstLowerEvent event context).map some
    else if canReopenLowerEvent state event context then
      (reopenLowerEvent event context).map some
    else .ok none
  else .ok none

/-- The position substate of the strategy has the value the return state names. -/
def returnsToPositionState (state : TradingStateConfiguration) (strategy : StrategyType)
    (returnState : PositionReturnState) : Bool :=
  match strategy with
  | .caseB => state.caseBPositionState.isSome && state.caseBPositionState == returnState.caseB
  | .caseC => state.caseCPositionState.isSome && state.caseCPositionState == returnState.caseC

/-- SELL_PREPARATION_DEFERRED: an exit order that was never submitted is released. -/
def handleSellPreparationDeferred (state : TradingStateConfiguration) (event : TradingEvent)
    (context : TradingContextView) : Option TransitionOutcome :=
  match event.payload with
  | some (.sellPreparationDeferred strategy intentId) =>
      if state.rootState = .tradeManagement ∧ context.position.isOpen ∧
          context.runtime.positionOwner = some strategy ∧
          context.runtime.pendingStrategy = some strategy ∧
          context.runtime.pendingIntentId = some intentId ∧
          context.runtime.pendingOrderId = none ∧
          context.runtime.pendingOrderSide = some .sell ∧
          context.runtime.pendingReturnState.any (returnsToPositionState state strategy) then
        some { transitionIds := [], stateAfter := state, actionRequests := [clearExitPatch],
               exclusive := true }
      else none
  | _ => none

/-- STOP_CONFIRMED: G-06P with a pending order, G-06 with a position, G-05 otherwise. -/
def handleStopConfirmed (state : TradingStateConfiguration) (context : TradingContextView) :
    Option TransitionOutcome :=
  if state.rootState = .logicTerminated ∨ state.rootState = .stopping then none
  else match context.runtime.pendingOrderId with
    | some pendingOrderId =>
        some (createTransitionOutcome "G-06P" .stopping (
          [patch [⟨.tradingPhase, .stopping⟩]] ++
          (if context.runtime.pendingOrderSide = some .buy then
            [.cancelPendingOrder (some pendingOrderId) "STOP_CONFIRMED"] else []) ++
          [.reconcileOrder pendingOrderId true]) [] true)
    | none =>
        if context.position.isOpen then
          some (createTransitionOutcome "G-06" .stopping [
            patch [⟨.tradingPhase, .stopping⟩],
            .cancelScheduledEvaluation "trading-strategy",
            .forceSellAll false false] [] true)
        else
          some (createTransitionOutcome "G-05" .logicTerminated [
            .closeLowerEvent "STOP_WITHOUT_POSITION",
            .resetCaseBContext false,
            .resetCaseCContext false false,
            patch [
              ⟨.positionOwner, none⟩,
              ⟨.pendingStrategy, none⟩,
              ⟨.pendingOrderSide, none⟩,
              ⟨.pendingOrderId, none⟩,
              ⟨.pendingOrderAttemptKind, none⟩,
              ⟨.pendingIntentId, none⟩,
              ⟨.tradingPhase, .terminated⟩],
            .cancelScheduledEvaluation "trading-session",
            .stopTradingRuntime "STOP_WITHOUT_POSITION"] [] true)

/-- `_is_force_sell_completion_valid`. -/
def isForceSellCompletionValid (event : TradingEvent) : Bool :=
  match event.payload with
  | some (.forceSellOutcome executionApplied historyPersisted _) =>
      executionApplied && historyPersisted
  | _ => false

/-- `_is_force_sell_failure_terminal`. -/
def isForceSellFailureTerminal (event : TradingEvent) : Bool :=
  match event.payload with
  | some (.forceSellOutcome _ _ terminalUnfilled) => terminalUnfilled
  | _ => false

/-- G-06F. -/
def handleForceSellFinished : TransitionOutcome :=
  createTransitionOutcome "G-06F" .logicTerminated [
    .closeLowerEvent "FORCE_SELL_FINISHED",
    .resetCaseBContext false,
    .resetCaseCContext false false,
    clearAllPatch .terminated,
    .cancelScheduledEvaluation "trading-session",
    .stopTradingRuntime "FORCE_SELL_FINISHED"] [] true

/-- G-06R: an unfilled forced sale is tried again. -/
def retryForceSell (state : TradingStateConfiguration) : TransitionOutcome :=
  createTransitionOutcome "G-06R" state [.forceSellAll true true] [] true

/-- G-01 and G-04, when no band is touched. -/
def handleSessionTransition (state : TradingStateConfiguration) (event : TradingEvent)
    (context : TradingContextView) : Option TransitionOutcome :=
  if state.rootState = .notStarted ∧ event.eventType = .logicStarted then
    some (createTransitionOutcome "G-01" .lowerTouchWatch [
      .resetCaseBContext false,
      .resetCaseCContext false false,
      clearAllPatch .idle] [] true)
  else if state.rootState = .tradeManagement ∧ event.eventType = .tradeManagementCompleted ∧
      context.runtime.positionOwner = none ∧ state.tradeManagementIsComplete then
    some (createTransitionOutcome "G-04" .lowerTouchWatch [
      .closeLowerEvent "TRADE_MANAGEMENT_COMPLETED",
      .cancelScheduledEvaluation "lower-event"] [] true)
  else none

/-- `handle_global_transition`. -/
def handleGlobalTransition (state : TradingStateConfiguration) (event : TradingEvent)
    (context : TradingContextView) : Except TradingError (Option TransitionOutcome) := do
  if event.eventType = .sellPreparationDeferred then
    .ok (handleSellPreparationDeferred state event context)
  else if event.eventType = .stopConfirmed then
    .ok (handleStopConfirmed state context)
  else if state.rootState = .stopping ∧ event.eventType = .forceSellFinished ∧
      ¬context.position.isOpen ∧ context.runtime.pendingOrderId = none ∧
      isForceSellCompletionValid event then
    .ok (some handleForceSellFinished)
  else if state.rootState = .stopping ∧ event.eventType = .forceSellFailed ∧
      context.position.isOpen ∧ context.runtime.pendingOrderId = none ∧
      isForceSellFailureTerminal event then
    .ok (some (retryForceSell state))
  else match ← handleBandTouch state event context with
    | some bandOutcome => .ok (some bandOutcome)
    | none => .ok (handleSessionTransition state event context)

end Trading
