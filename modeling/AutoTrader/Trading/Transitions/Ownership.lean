import AutoTrader.Trading.Transitions.Helpers

/-!
# Ownership transitions O-01 to O-09

`domain/trading/transitions/ownership_transitions.py`: entry outcomes and entry
retries while nobody owns the position.
-/

namespace Trading

/-- `_get_buy_attempt_kind`. -/
def getBuyAttemptKind (event : TradingEvent) : Option OrderAttemptKind :=
  match event.payload with
  | some (.buyAttempt attemptKind) => some attemptKind
  | _ => none

/-- `_create_entry_retry_action`. -/
def createEntryRetryAction (eventType : TradingEventType) (context : TradingContextView)
    (reason : String) : TradingActionRequest :=
  .scheduleReevaluation
    { eventType := eventType
      trigger := .retryBackoff
      lowerEventId := context.runtime.lowerEventId
      reason := reason }

/-- The strategy named by a feedback on an order that was not submitted. -/
def preparationFeedbackStrategy (event : TradingEvent) : Option StrategyType :=
  match event.payload with
  | some (.buyRiskBlocked strategy _) => some strategy
  | some (.preparationExpired strategy) => some strategy
  | _ => none

/-- BUY_RISK_BLOCKED and ORDER_PREPARATION_EXPIRED: the signal is watched again. -/
def handlePreparationFeedback (state : TradingStateConfiguration) (event : TradingEvent)
    (context : TradingContextView) : Option TransitionOutcome :=
  let clearedOrderPatch : TradingActionRequest := patch [
    ⟨.pendingStrategy, none⟩,
    ⟨.pendingOrderSide, none⟩,
    ⟨.pendingOrderAttemptKind, none⟩,
    ⟨.pendingIntentId, none⟩,
    ⟨.tradingPhase, .idle⟩]
  let expired := event.eventType = .orderPreparationExpired
  let reschedule (eventType : TradingEventType) : List TradingActionRequest :=
    if expired then
      [.scheduleReevaluation
        { eventType := eventType
          trigger := .deadlineOrMarketChange
          lowerEventId := context.runtime.lowerEventId
          reason := "Order preparation signal expired" }]
    else []
  match preparationFeedbackStrategy event with
  | some .caseB =>
      if expired ∨ state.caseBSignalState = some .bPositionOpenSignalled then
        some (createTransitionOutcome "O-03" (state.withCaseBSignal .bWaitPullback)
          (clearedOrderPatch :: reschedule .retryCaseBWaitPullbackConditionCheck))
      else none
  | some .caseC =>
      if expired ∨ state.caseCSignalState = some .cPositionOpenSignalled then
        some (createTransitionOutcome "O-07" (state.withCaseCSignal .cSetup)
          (clearedOrderPatch :: reschedule .retryCaseCSetupConditionCheck))
      else none
  | none => none

/-- The entry retry of Case B is still allowed. -/
def canRetryCaseBEntry (context : TradingContextView) : Bool :=
  context.runtime.positionOwner.isNone && context.runtime.pendingOrderId.isNone &&
    !context.runtime.caseBEntryPaused && context.runtime.signalCreated &&
    conditionMet .bSignalAge context

/-- The entry retry of Case C is still allowed. -/
def canRetryCaseCEntry (context : TradingContextView) : Bool :=
  context.runtime.positionOwner.isNone && context.runtime.pendingOrderId.isNone &&
    context.runtime.allowNewCaseCSetup && !context.runtime.caseCConsumedForEvent

/-- The strategy owns an open position and no order is pending. -/
def ownsOpenPosition (strategy : StrategyType) (context : TradingContextView) : Bool :=
  context.runtime.positionOwner == some strategy && context.runtime.pendingOrderId.isNone &&
    context.position.isOpen

/-- `handle_ownership_transition`. -/
def handleOwnershipTransition (state : TradingStateConfiguration) (event : TradingEvent)
    (context : TradingContextView) : Option TransitionOutcome :=
  if state.ownershipState ≠ some .noPosition then none
  else match event.eventType with
  | .buyRiskBlocked | .orderPreparationExpired => handlePreparationFeedback state event context
  | .caseBPositionOpened =>
      if ownsOpenPosition .caseB context then
        some (createTransitionOutcome "O-02" (state.withOwnership (.caseB .caseBHolding))
          [createQueueEventAction .startCaseBConditionCheck context] ["PB-01"])
      else none
  | .caseBBuyFailed =>
      if context.runtime.positionOwner.isSome then none
      else match getBuyAttemptKind event with
        | some .initial => some (createTransitionOutcome "O-03" state
            [createEntryRetryAction .caseBBuyRetry context "Case B initial buy failed"])
        | some .retry => some (createTransitionOutcome "O-05" state
            [createEntryRetryAction .caseBBuyRetry context "Case B retry buy failed"])
        | none => none
  | .caseBBuyRetry =>
      if canRetryCaseBEntry context then
        some (createTransitionOutcome "O-04" state
          (createEntryOrderActions .caseB .retry event context))
      else none
  | .caseCPositionOpened =>
      if ownsOpenPosition .caseC context then
        some (createTransitionOutcome "O-06" (state.withOwnership (.caseC .caseCHolding))
          [patch [⟨.caseBEntryPaused, true⟩],
           createQueueEventAction .startCaseCConditionCheck context] ["PC-01"])
      else none
  | .caseCBuyFailed =>
      if context.runtime.positionOwner.isSome then none
      else match getBuyAttemptKind event with
        | some .initial => some (createTransitionOutcome "O-07" state
            [createEntryRetryAction .caseCBuyRetry context "Case C initial buy failed"])
        | some .retry => some (createTransitionOutcome "O-09" state
            [createEntryRetryAction .caseCBuyRetry context "Case C retry buy failed"])
        | none => none
  | .caseCBuyRetry =>
      if canRetryCaseCEntry context then
        some (createTransitionOutcome "O-08" state
          (createEntryOrderActions .caseC .retry event context))
      else none
  | _ => none

end Trading
