import AutoTrader.Trading.Transitions.Helpers

/-!
# Case B position transitions PB-01 to PB-24

`domain/trading/transitions/case_b_position_transitions.py`: exit checks in their
priority order, the exit order of a chosen reason, its retries and what follows the
fill.
-/

namespace Trading

/-- `CASE_B_HOLDING_EXIT_BY_EVENT`. -/
def caseBHoldingExitByEvent : TradingEventType → Option (String × ExitReason)
  | .caseBEmergencyStop => some ("PB-06", .emergencyStop)
  | .caseBStop => some ("PB-08", .stop)
  | .caseBTimeExit => some ("PB-10", .time)
  | .caseBTakeProfit => some ("PB-12", .takeProfit)
  | _ => none

/-- `CASE_B_INITIAL_FAILURE_TRANSITION_ID_BY_REASON`. -/
def caseBInitialFailureTransitionIdByReason : ExitReason → Option String
  | .emergencyStop => some "PB-07"
  | .stop => some "PB-09"
  | .time => some "PB-11"
  | .takeProfit => some "PB-13"
  | _ => none

/-- `_is_upper_trend_guard_satisfied`. -/
def isUpperTrendGuardSatisfied (context : TradingContextView) : Bool :=
  conditionMet .bProfitZone context && conditionMet .bTrendSlope context

/-- `_is_trend_hold_exit_guard_satisfied`. -/
def isTrendHoldExitGuardSatisfied (context : TradingContextView) : Bool :=
  conditionMet .bTrendExitSlope context || conditionMet .bTrendExitPctB context

/-- `_is_holding_exit_guard_satisfied`. -/
def isHoldingExitGuardSatisfied (eventType : TradingEventType) (context : TradingContextView) :
    Bool :=
  match eventType with
  | .caseBEmergencyStop =>
      context.position.entryPrice.isSome && conditionMet .bEmergencyStop context
  | .caseBStop => context.market.confirmed30mClose && conditionMet .bStop context
  | .caseBUpperTrend => isUpperTrendGuardSatisfied context
  | .caseBTakeProfit => conditionMet .bProfitZone context && conditionMet .bTakeProfitSlope context
  | .caseBTimeExit => conditionMet .bTimeExit context
  | _ => false

/-- `_select_holding_exit_event`: the first exit whose guard holds. -/
def selectHoldingExitEvent (context : TradingContextView) : Option TradingEventType :=
  [TradingEventType.caseBEmergencyStop, .caseBStop, .caseBUpperTrend, .caseBTakeProfit,
    .caseBTimeExit].find? (isHoldingExitGuardSatisfied · context)

/-- An initial Case B exit order. -/
def caseBExitOrder (transitionId : String) (state : TradingStateConfiguration)
    (reason : ExitReason) (returnState : PositionReturnState) (event : TradingEvent)
    (context : TradingContextView) (attemptKind : OrderAttemptKind) : TransitionOutcome :=
  createTransitionOutcome transitionId state
    (createExitOrderActions .caseB reason returnState event context attemptKind)

/-- The backoff before a Case B exit is tried again. -/
def scheduleCaseBSellRetry (transitionId : String) (state : TradingStateConfiguration)
    (context : TradingContextView) (reason : String) : TransitionOutcome :=
  createTransitionOutcome transitionId state
    [scheduleMarketReevaluation .caseBSellRetry context reason .retryBackoff]

/-- The exit condition check of CASE_B_HOLDING. -/
def checkCaseBHolding (state : TradingStateConfiguration) (isStart : Bool)
    (context : TradingContextView) : TransitionOutcome :=
  match selectHoldingExitEvent context with
  | none => createTransitionOutcome (if isStart then "PB-02" else "PB-04") state
      [scheduleMarketReevaluation .retryCaseBConditionCheck context
        "No Case B exit guard is currently true"]
  | some selected => createTransitionOutcome (if isStart then "PB-03" else "PB-05") state
      [createQueueEventAction selected context]

/-- The state a failed exit returns to. -/
def caseBReturnState (state : TradingStateConfiguration) : PositionReturnState :=
  if state.caseBPositionState = some .caseBTrendHold then .caseBTrendHold else .caseBHolding

/-- `_handle_holding` of Case B. -/
def handleCaseBHolding (state : TradingStateConfiguration) (event : TradingEvent)
    (context : TradingContextView) : Option TransitionOutcome :=
  match event.eventType with
  | .startCaseBConditionCheck => some (checkCaseBHolding state true context)
  | .retryCaseBConditionCheck => some (checkCaseBHolding state false context)
  | .caseBUpperTrend =>
      if isUpperTrendGuardSatisfied context && canStartExit context then
        some (createTransitionOutcome "PB-14" (state.withOwnership (.caseB .caseBTrendHold))
          [createQueueEventAction .caseBTrendHoldConditionCheck context])
      else none
  | .caseBSellFailed =>
      match context.runtime.pendingExitReason.bind caseBInitialFailureTransitionIdByReason with
      | some initialFailureId =>
          if context.runtime.pendingReturnState = some (caseBReturnState state) then
            some (scheduleCaseBSellRetry
              (if getSellAttemptKind event context = .initial then initialFailureId else "PB-20")
              state context "Retry the same Case B holding exit intent")
          else none
      | none => none
  | .caseBSellRetry =>
      match context.runtime.pendingExitReason with
      | some reason =>
          if (caseBInitialFailureTransitionIdByReason reason).isSome ∧
              context.runtime.pendingReturnState = some (caseBReturnState state) ∧
              context.runtime.pendingOrderId = none then
            some (caseBExitOrder "PB-19" state reason (caseBReturnState state) event context .retry)
          else none
      | none => none
  | eventType =>
      match caseBHoldingExitByEvent eventType with
      | some (id, reason) =>
          if isHoldingExitGuardSatisfied eventType context && canStartExit context then
            some (caseBExitOrder id state reason (caseBReturnState state) event context .initial)
          else none
      | none => none

/-- `_handle_trend_hold`. -/
def handleTrendHold (state : TradingStateConfiguration) (event : TradingEvent)
    (context : TradingContextView) : Option TransitionOutcome :=
  match event.eventType with
  | .caseBTrendHoldConditionCheck =>
      if isTrendHoldExitGuardSatisfied context then
        some (createTransitionOutcome "PB-16" state
          [createQueueEventAction .caseBTrendHoldSell context])
      else
        some (createTransitionOutcome "PB-15" state
          [scheduleMarketReevaluation .caseBTrendHoldConditionCheck context
            "Case B Trend Hold remains valid"])
  | .caseBTrendHoldSell =>
      if isTrendHoldExitGuardSatisfied context && canStartExit context then
        some (caseBExitOrder "PB-17" state .trendHold .caseBTrendHold event context .initial)
      else none
  | .caseBSellFailed =>
      if context.runtime.pendingExitReason = some .trendHold ∧
          context.runtime.pendingReturnState = some .caseBTrendHold then
        some (scheduleCaseBSellRetry
          (if getSellAttemptKind event context = .initial then "PB-18" else "PB-22")
          state context "Retry the same Case B Trend Hold exit intent")
      else none
  | .caseBSellRetry =>
      if context.runtime.pendingExitReason = some .trendHold ∧
          context.runtime.pendingReturnState = some .caseBTrendHold ∧
          context.runtime.pendingOrderId = none then
        some (caseBExitOrder "PB-21" state .trendHold .caseBTrendHold event context .retry)
      else none
  | _ => none

/-- PB-23F: the fill is reflected in position and history. -/
def handleCaseBSellFilled (state : TradingStateConfiguration) (substate : CaseBPositionState)
    (context : TradingContextView) : Option TransitionOutcome :=
  if (substate = .caseBHolding ∨ substate = .caseBTrendHold) ∧
      context.runtime.positionOwner = none ∧ context.runtime.pendingExitReason.isSome ∧
      context.runtime.caseBExitReason = context.runtime.pendingExitReason then
    some (createTransitionOutcome "PB-23F" (state.withOwnership (.caseB .caseBClosed))
      [clearExitPatch, createQueueEventAction .caseBSellFinished context])
  else none

/-- PB-23 and PB-24: a stop re-enters at once on a lower touch, other exits go back to
watching. -/
def handleCaseBClosed (event : TradingEvent) (context : TradingContextView) :
    Except TradingError TransitionOutcome := do
  let stopped := context.runtime.caseBExitReason == some .stop ||
    context.runtime.caseBExitReason == some .emergencyStop
  if stopped && isLowerTouchConditionMet context then
    let openAction := createOpenLowerEventAction event context
    let initialization ← createLowerEventInitializationPatch context
    return createTransitionOutcome "PB-23" .createTradeManagementInitialState [
      .closeLowerEvent "CASE_B_STOP_REENTRY",
      .resetCaseBContext false,
      .resetCaseCContext false true,
      .openLowerEvent openAction,
      initialization,
      patch [⟨.positionOwner, none⟩],
      .queueEvent
        { eventType := .activateTradeManagement
          lowerEventId := some openAction.lowerEventId }] ["O-01", "C-01", "B-01"] true
  else
    return createTransitionOutcome "PB-24" .lowerTouchWatch [
      .resetCaseBContext false,
      .closeLowerEvent "CASE_B_CLOSED",
      .cancelScheduledEvaluation "lower-event"] [] true

/-- `handle_case_b_position_transition`. -/
def handleCaseBPositionTransition (state : TradingStateConfiguration) (event : TradingEvent)
    (context : TradingContextView) : Except TradingError (Option TransitionOutcome) :=
  match state.caseBPositionState with
  | none => .ok none
  | some substate =>
    if event.eventType = .caseBSellFilled then .ok (handleCaseBSellFilled state substate context)
    else if substate = .caseBClosed then
      if event.eventType = .caseBSellFinished then (handleCaseBClosed event context).map some
      else .ok none
    -- while an exit is pending only its outcome and its retry count
    else if context.runtime.pendingExitReason.isSome ∧ event.eventType ≠ .caseBSellFailed ∧
        event.eventType ≠ .caseBSellRetry then .ok none
    else match substate with
      | .caseBHolding => .ok (handleCaseBHolding state event context)
      | .caseBTrendHold => .ok (handleTrendHold state event context)
      | .caseBClosed => .ok none

end Trading
