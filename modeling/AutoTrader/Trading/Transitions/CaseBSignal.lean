import AutoTrader.Trading.Transitions.Helpers

/-!
# Case B signal transitions B-01 to B-19

`domain/trading/transitions/case_b_signal_transitions.py`: from the touch over the
signal candle and the pullback to the entry order.
-/

namespace Trading

/-- `_is_signal_candle_guard_satisfied`. -/
def isSignalCandleGuardSatisfied (context : TradingContextView) : Bool :=
  context.market.confirmed30mClose && conditionMet .bSignalSlope context &&
    conditionMet .bSignalPctB context &&
    context.market.previous3ClosedCandleLows.length == 3 && conditionMet .bSignalLow context

/-- `_is_active_resume_guard_satisfied`. -/
def isActiveResumeGuardSatisfied (context : TradingContextView) : Bool :=
  context.runtime.caseCRecoveryConfirmed && isHandoffActive context

/-- B-02 and B-03: the band width at the touch decides whether Case B takes part. -/
def handleBWaitTouch (state : TradingStateConfiguration) (event : TradingEvent)
    (context : TradingContextView) : Option TransitionOutcome :=
  if event.eventType ≠ .activateTradeManagement then none
  else if context.runtime.touchCandleBbw.isSome && conditionMet .bTouchBbw context then
    some (createTransitionOutcome "B-03" (state.withCaseBSignal .bWaitSignal) [
      patch [⟨.caseBEnabled, true⟩, ⟨.signalCreated, false⟩],
      scheduleMarketReevaluation .thirtyMinuteCandleClosed context
        "Wait for the first valid Case B signal candle" .next30mClose])
  else
    some (createTransitionOutcome "B-02" (state.withCaseBSignal .caseBFinalState) [
      patch [⟨.caseBEnabled, false⟩],
      .resetCaseBContext false])

/-- B-12 to B-17: Case C opened a position or hands over, while Case B waits. -/
def handleCaseBPermission (state : TradingStateConfiguration) (event : TradingEvent)
    (context : TradingContextView) (pausedId resumedId waitOnlyId : String) :
    Option TransitionOutcome :=
  match event.eventType with
  | .caseCPositionOpened =>
      if context.runtime.positionOwner = some .caseC then
        some (createTransitionOutcome pausedId state [patch [⟨.caseBEntryPaused, true⟩]])
      else none
  | .caseBActiveResume =>
      if isActiveResumeGuardSatisfied context then
        some (createTransitionOutcome resumedId state [patch [⟨.caseBEntryPaused, false⟩]])
      else none
  | .caseBWaitOnly =>
      if isHandoffActive context then none
      else some (createTransitionOutcome waitOnlyId state [patch [⟨.caseBEntryPaused, true⟩]])
  | _ => none

/-- B-05: the first valid signal candle.  A production event carries the close time of
its candle. -/
def createCaseBSignal (state : TradingStateConfiguration) (event : TradingEvent)
    (context : TradingContextView) : TransitionOutcome :=
  createTransitionOutcome "B-05" (state.withCaseBSignal .bWaitPullback) [
    patch [
      ⟨.signalCreated, true⟩,
      ⟨.signalCandleId, orElse event.candleId context.market.current30mCandleId⟩,
      ⟨.signalTime, some (context.market.confirmed30mCloseTime.getD event.occurredAt)⟩],
    createQueueEventAction .startCaseBWaitPullbackConditionCheck context]

/-- B_WAIT_SIGNAL. -/
def handleBWaitSignal (state : TradingStateConfiguration) (event : TradingEvent)
    (context : TradingContextView) : Option TransitionOutcome :=
  if event.eventType = .thirtyMinuteCandleClosed then
    if !isSignalCandleGuardSatisfied context then
      some (createTransitionOutcome "B-04" state
        [scheduleMarketReevaluation .thirtyMinuteCandleClosed context
          "Case B signal candle guard not yet met" .next30mClose])
    else if !context.runtime.signalCreated then some (createCaseBSignal state event context)
    else none
  else handleCaseBPermission state event context "B-12" "B-14" "B-16"

/-- The first entry order of Case B is allowed. -/
def canBuyCaseB (context : TradingContextView) : Bool :=
  context.runtime.positionOwner.isNone && context.runtime.pendingOrderId.isNone &&
    !context.runtime.caseBEntryPaused && conditionMet .bSignalAge context &&
    conditionMet .bPullback context

/-- Case B keeps waiting for the pullback or for the permission to enter. -/
def shouldWaitCaseB (context : TradingContextView) : Bool :=
  conditionMet .bSignalAge context &&
    (conditionUnmet .bPullback context || context.runtime.positionOwner.isSome ||
      context.runtime.caseBEntryPaused)

/-- B-06 to B-11: a signal older than three hours is dropped, and otherwise a
pullback buys. -/
def checkWaitPullback (state : TradingStateConfiguration) (isStart : Bool) (event : TradingEvent)
    (context : TradingContextView) : Option TransitionOutcome :=
  if conditionUnmet .bSignalAge context then
    some (createTransitionOutcome (if isStart then "B-08" else "B-11")
      (state.withCaseBSignal .caseBFinalState) [.resetCaseBContext false])
  else if canBuyCaseB context then
    some (createTransitionOutcome (if isStart then "B-06" else "B-09")
      (state.withCaseBSignal .bPositionOpenSignalled)
      (createEntryOrderActions .caseB .initial event context))
  else if shouldWaitCaseB context then
    some (createTransitionOutcome (if isStart then "B-07" else "B-10") state
      [scheduleMarketReevaluation .retryCaseBWaitPullbackConditionCheck context
        "Case B pullback or entry permission not yet available"])
  else none

/-- B_WAIT_PULLBACK. -/
def handleBWaitPullback (state : TradingStateConfiguration) (event : TradingEvent)
    (context : TradingContextView) : Option TransitionOutcome :=
  if event.eventType = .startCaseBWaitPullbackConditionCheck then
    checkWaitPullback state true event context
  else if event.eventType = .retryCaseBWaitPullbackConditionCheck then
    checkWaitPullback state false event context
  else handleCaseBPermission state event context "B-13" "B-15" "B-17"

/-- B-18 and B-19: the entry order is decided. -/
def handleBPositionOpenSignalled (state : TradingStateConfiguration) (event : TradingEvent)
    (context : TradingContextView) : Option TransitionOutcome :=
  if event.eventType = .caseBPositionOpened ∧ context.runtime.positionOwner = some .caseB then
    some (createTransitionOutcome "B-18" (state.withCaseBSignal .caseBFinalState) [])
  else if event.eventType = .caseCPositionOpened ∧
      context.runtime.positionOwner = some .caseC then
    some (createTransitionOutcome "B-19" (state.withCaseBSignal .bWaitPullback) [
      .cancelPendingOrder context.runtime.pendingOrderId "CASE_C_WON_ENTRY_ARBITRATION",
      patch [⟨.caseBEntryPaused, true⟩]])
  else none

/-- `handle_case_b_signal_transition`. -/
def handleCaseBSignalTransition (state : TradingStateConfiguration) (event : TradingEvent)
    (context : TradingContextView) : Option TransitionOutcome :=
  match state.caseBSignalState with
  | some .bWaitTouch => handleBWaitTouch state event context
  | some .bWaitSignal => handleBWaitSignal state event context
  | some .bWaitPullback => handleBWaitPullback state event context
  | some .bPositionOpenSignalled => handleBPositionOpenSignalled state event context
  | some .caseBFinalState => none
  | none => none

end Trading
