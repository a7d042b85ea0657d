import AutoTrader.Trading.Transitions.Helpers

/-!
# Case C position transitions PC-01 to PC-28

`domain/trading/transitions/case_c_position_transitions.py`: holding, take-profit
trailing, exit retries, and the recovery that hands over to Case B after the exit.
-/

namespace Trading

open Arithmetic

/-- An initial or repeated Case C exit order. -/
def caseCExitOrder (transitionId : String) (state : TradingStateConfiguration)
    (reason : ExitReason) (returnState : PositionReturnState) (event : TradingEvent)
    (context : TradingContextView) (attemptKind : OrderAttemptKind) : TransitionOutcome :=
  createTransitionOutcome transitionId state
    (createExitOrderActions .caseC reason returnState event context attemptKind)

/-- `_schedule_sell_retry`. -/
def scheduleCaseCSellRetry (transitionId : String) (state : TradingStateConfiguration)
    (context : TradingContextView) : TransitionOutcome :=
  createTransitionOutcome transitionId state
    [scheduleMarketReevaluation .caseCSellRetry context "Retry the same Case C exit intent"
      .retryBackoff]

/-- `_select_holding_event`. -/
def selectHoldingEvent (context : TradingContextView) : Option TradingEventType :=
  if conditionMet .cProfitZone context then some .caseCEnterProfitZone
  else if conditionMet .cStop context then some .caseCStop
  else if conditionMet .cTimeExit context then some .caseCTimeExit
  else none

/-- `_select_trailing_event`. -/
def selectTrailingEvent (context : TradingContextView) : Option TradingEventType :=
  let comparable := context.market.confirmed1mClose && context.runtime.previousTrailEmaSlope.isSome
  if conditionMet .cTrailFallback context then some .caseCSellAtTpPrice
  else if comparable && conditionMet .cTrailIncrease context then some .caseCEmaIncreasement
  else if comparable && conditionUnmet .cTrailIncrease context then some .caseCEmaDecreasement
  else if conditionMet .cTimeExit context then some .caseCTimeExit
  else none

/-- `_handle_time_exit_or_failure`. -/
def handleTimeExitOrFailure (state : TradingStateConfiguration) (event : TradingEvent)
    (context : TradingContextView) (returnState : PositionReturnState)
    (repeatedFailureId : String) : Option TransitionOutcome :=
  if event.eventType = .caseCTimeExit ∧ conditionMet .cTimeExit context ∧ canStartExit context then
    some (caseCExitOrder "PC-08" state .time returnState event context .initial)
  else if event.eventType = .caseCSellFailed ∧ context.runtime.pendingExitReason = some .time ∧
      context.runtime.pendingReturnState = some returnState then
    some (scheduleCaseCSellRetry
      (if getSellAttemptKind event context = .initial then "PC-09" else repeatedFailureId)
      state context)
  else none

/-- The retry of a pending Case C exit. -/
def retryCaseCExit (transitionId : String) (state : TradingStateConfiguration)
    (returnState : PositionReturnState) (event : TradingEvent) (context : TradingContextView) :
    Option TransitionOutcome :=
  match context.runtime.pendingExitReason with
  | some reason =>
      if event.eventType = .caseCSellRetry ∧
          context.runtime.pendingReturnState = some returnState ∧
          context.runtime.pendingOrderId = none then
        some (caseCExitOrder transitionId state reason returnState event context .retry)
      else none
  | none => none

/-- The exit condition check of CASE_C_HOLDING. -/
def checkCaseCHolding (state : TradingStateConfiguration) (isStart : Bool)
    (context : TradingContextView) : TransitionOutcome :=
  match selectHoldingEvent context with
  | none => createTransitionOutcome (if isStart then "PC-02" else "PC-04") state
      [scheduleMarketReevaluation .retryCaseCConditionCheck context
        "No Case C holding transition is currently enabled"]
  | some selected => createTransitionOutcome (if isStart then "PC-03" else "PC-05") state
      [createQueueEventAction selected context]

/-- PC-10: trailing starts with the take-profit price a tenth into the band. -/
def enterProfitZone (state : TradingStateConfiguration) (context : TradingContextView) :
    Except TradingError TransitionOutcome := do
  let width ← raiseInvalid
    (Decimal.sub? defaultContext context.market.upperBand context.market.lowerBand)
  let tenth ← raiseInvalid (Decimal.scale? defaultContext (10 / 100) width)
  let tpPrice ← raiseInvalid (Decimal.add? defaultContext context.market.lowerBand tenth)
  return createTransitionOutcome "PC-10" (state.withOwnership (.caseC .caseCTpTrailing)) [
    patch [
      ⟨.tpPrice, some tpPrice⟩,
      ⟨.previousTrailEmaSlope, some context.market.tpReferenceEmaSlope⟩],
    createQueueEventAction .startTpTrailingConditionCheck context]

/-- `_handle_holding` of Case C. -/
def handleCaseCHolding (state : TradingStateConfiguration) (event : TradingEvent)
    (context : TradingContextView) : Except TradingError (Option TransitionOutcome) :=
  if event.eventType = .startCaseCConditionCheck then
    .ok (some (checkCaseCHolding state true context))
  else if event.eventType = .retryCaseCConditionCheck then
    .ok (some (checkCaseCHolding state false context))
  else if event.eventType = .caseCStop ∧ conditionMet .cStop context ∧ canStartExit context then
    .ok (some (caseCExitOrder "PC-06" state .stop .caseCHolding event context .initial))
  else if event.eventType = .caseCEnterProfitZone ∧ conditionMet .cProfitZone context ∧
      canStartExit context then
    (enterProfitZone state context).map some
  else match handleTimeExitOrFailure state event context .caseCHolding "PC-21" with
    | some shared => .ok (some shared)
    | none =>
      if event.eventType = .caseCSellFailed ∧ context.runtime.pendingExitReason = some .stop ∧
          context.runtime.pendingReturnState = some .caseCHolding then
        .ok (some (scheduleCaseCSellRetry
          (if getSellAttemptKind event context = .initial then "PC-07" else "PC-21")
          state context))
      else .ok (retryCaseCExit "PC-20" state .caseCHolding event context)

/-- The transition ID of a failed trailing exit. -/
def trailingFailureId (event : TradingEvent) (context : TradingContextView) : String :=
  if getSellAttemptKind event context = .retry then "PC-23"
  else if context.runtime.pendingExitReason = some .tpFallback then "PC-17"
  else "PC-19"

/-- The exit condition check of CASE_C_TP_TRAILING. -/
def checkTpTrailing (state : TradingStateConfiguration) (isStart : Bool)
    (context : TradingContextView) : TransitionOutcome :=
  match selectTrailingEvent context with
  | none => createTransitionOutcome (if isStart then "PC-11" else "PC-13") state
      [scheduleMarketReevaluation .retryTpTrailingConditionCheck context
        "Case C TP trailing remains active"]
  | some selected => createTransitionOutcome (if isStart then "PC-12" else "PC-14") state
      [createQueueEventAction selected context]

/-- `_handle_tp_trailing`. -/
def handleTpTrailing (state : TradingStateConfiguration) (event : TradingEvent)
    (context : TradingContextView) : Option TransitionOutcome :=
  let comparable := context.market.confirmed1mClose && context.runtime.previousTrailEmaSlope.isSome
  if event.eventType = .startTpTrailingConditionCheck then
    some (checkTpTrailing state true context)
  else if event.eventType = .retryTpTrailingConditionCheck then
    some (checkTpTrailing state false context)
  else if event.eventType = .caseCEmaIncreasement ∧ comparable ∧
      conditionMet .cTrailIncrease context then
    some (createTransitionOutcome "PC-15" state [
      patch [⟨.previousTrailEmaSlope, some context.market.currentCloseEmaSlope⟩],
      scheduleMarketReevaluation .retryTpTrailingConditionCheck context
        "Continue TP trailing after EMA slope increased"])
  else if event.eventType = .caseCSellAtTpPrice ∧ conditionMet .cTrailFallback context ∧
      canStartExit context then
    some (caseCExitOrder "PC-16" state .tpFallback .caseCTpTrailing event context .initial)
  else if event.eventType = .caseCEmaDecreasement ∧ comparable ∧
      conditionUnmet .cTrailIncrease context ∧ canStartExit context then
    some (caseCExitOrder "PC-18" state .tpTrail .caseCTpTrailing event context .initial)
  else match handleTimeExitOrFailure state event context .caseCTpTrailing "PC-23" with
    | some shared => some shared
    | none =>
      if event.eventType = .caseCSellFailed ∧
          context.runtime.pendingReturnState = some .caseCTpTrailing ∧
          (context.runtime.pendingExitReason = some .tpFallback ∨
            context.runtime.pendingExitReason = some .tpTrail) then
        some (scheduleCaseCSellRetry (trailingFailureId event context) state context)
      else retryCaseCExit "PC-22" state .caseCTpTrailing event context

/-- PC-23F: the fill is reflected in position and history. -/
def handleCaseCSellFilled (state : TradingStateConfiguration) (substate : CaseCPositionState)
    (context : TradingContextView) : Option TransitionOutcome :=
  if (substate = .caseCHolding ∨ substate = .caseCTpTrailing) ∧
      context.runtime.positionOwner = none ∧ context.runtime.pendingExitReason.isSome ∧
      context.runtime.caseCExitReason = context.runtime.pendingExitReason then
    some (createTransitionOutcome "PC-23F" (state.withOwnership (.caseC .caseCClosed))
      [clearExitPatch, createQueueEventAction .caseCSellFinished context])
  else none

/-- PC-24 to PC-26: after the exit the %B recovery is awaited. -/
def handleCaseCClosed (state : TradingStateConfiguration) (event : TradingEvent)
    (context : TradingContextView) : Option TransitionOutcome :=
  match event.eventType with
  | .caseCSellFinished =>
      some (createTransitionOutcome "PC-24" state [
        patch [
          ⟨.caseCConsumedForEvent, true⟩,
          ⟨.allowNewCaseCSetup, false⟩,
          ⟨.caseBEntryPaused, true⟩],
        createQueueEventAction .checkCaseCRecovery context])
  | .checkCaseCRecovery =>
      if conditionUnmet .cRecovery context then
        some (createTransitionOutcome "PC-25" state
          [scheduleMarketReevaluation .checkCaseCRecovery context
            "Wait for Case C post-exit %B recovery"])
      else if conditionMet .cRecovery context then
        some (createTransitionOutcome "PC-26"
          (state.withOwnership (.caseC .caseCRecoverySucceeded)) [
          patch [⟨.caseCRecoveryConfirmed, true⟩],
          createQueueEventAction .checkCaseBHandoff context])
      else none
  | _ => none

/-- PC-27 and PC-28: Case B resumes actively or only waits. -/
def handleCaseCRecovered (state : TradingStateConfiguration) (event : TradingEvent)
    (context : TradingContextView) : Option TransitionOutcome :=
  if event.eventType ≠ .checkCaseBHandoff then none
  else
    let active := isHandoffActive context
    some (createTransitionOutcome (if active then "PC-27" else "PC-28")
      (state.withOwnership .noPosition) [
      patch [
        ⟨.caseBEntryPaused, !active⟩,
        ⟨.caseBOnlyUntilNextLowerTouch, true⟩,
        ⟨.allowNewCaseCSetup, false⟩],
      createQueueEventAction (if active then .caseBActiveResume else .caseBWaitOnly) context])

/-- `handle_case_c_position_transition`. -/
def handleCaseCPositionTransition (state : TradingStateConfiguration) (event : TradingEvent)
    (context : TradingContextView) : Except TradingError (Option TransitionOutcome) :=
  match state.caseCPositionState with
  | none => .ok none
  | some substate =>
    if event.eventType = .caseCSellFilled then .ok (handleCaseCSellFilled state substate context)
    else match substate with
      | .caseCClosed => .ok (handleCaseCClosed state event context)
      | .caseCRecoverySucceeded => .ok (handleCaseCRecovered state event context)
      | .caseCHolding =>
          if context.runtime.pendingExitReason.isSome ∧ event.eventType ≠ .caseCSellFailed ∧
              event.eventType ≠ .caseCSellRetry then .ok none
          else handleCaseCHolding state event context
      | .caseCTpTrailing =>
          if context.runtime.pendingExitReason.isSome ∧ event.eventType ≠ .caseCSellFailed ∧
              event.eventType ≠ .caseCSellRetry then .ok none
          else .ok (handleTpTrailing state event context)

end Trading
