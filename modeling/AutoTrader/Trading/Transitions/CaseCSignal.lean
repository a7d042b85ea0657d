import AutoTrader.Trading.Transitions.Helpers

/-!
# Case C signal transitions C-01 to C-17

`domain/trading/transitions/case_c_signal_transitions.py`: the setup of a candle, the
flush low with its three-minute recovery window, and the entry order.
-/

namespace Trading

open Arithmetic

/-- `_is_setup_guard_satisfied`. -/
def isSetupGuardSatisfied (context : TradingContextView) : Bool :=
  context.runtime.allowNewCaseCSetup && !context.runtime.caseCConsumedForEvent &&
    context.runtime.lastCaseCSetupCandleId != context.market.current30mCandleId &&
    conditionMet .cSetupPctB context && conditionMet .cSetupCci context

/-- C-02 to C-05: one setup in a 30-minute candle. -/
def checkSetup (state : TradingStateConfiguration) (isActivation : Bool)
    (context : TradingContextView) : TransitionOutcome :=
  if isSetupGuardSatisfied context then
    createTransitionOutcome (if isActivation then "C-03" else "C-05")
      (state.withCaseCSignal .cSetup) [
      patch [⟨.lastCaseCSetupCandleId, context.market.current30mCandleId⟩],
      createQueueEventAction .startCaseCSetupConditionCheck context]
  else
    createTransitionOutcome (if isActivation then "C-02" else "C-04") state
      [scheduleMarketReevaluation .retryCWaitSetup context
        "Wait for a new Case C setup in this candle"]

/-- C-06 and C-15: Case B opened a position first. -/
def giveUpSetup (transitionId : String) (state : TradingStateConfiguration) (event : TradingEvent)
    (context : TradingContextView) : Option TransitionOutcome :=
  if event.eventType = .caseBPositionOpened ∧ context.runtime.positionOwner = some .caseB then
    some (createTransitionOutcome transitionId (state.withCaseCSignal .caseCFinalState)
      [patch [⟨.allowNewCaseCSetup, false⟩]])
  else none

/-- C_WAIT_SETUP. -/
def handleCWaitSetup (state : TradingStateConfiguration) (event : TradingEvent)
    (context : TradingContextView) : Option TransitionOutcome :=
  if event.eventType = .activateTradeManagement then some (checkSetup state true context)
  else if event.eventType = .retryCWaitSetup then some (checkSetup state false context)
  else giveUpSetup "C-06" state event context

/-- C-07: the flush and its timer start over. -/
def startSetup (state : TradingStateConfiguration) (context : TradingContextView) :
    TransitionOutcome :=
  createTransitionOutcome "C-07" state [
    patch [
      ⟨.flushLow, none⟩,
      ⟨.flushLowPctB, none⟩,
      ⟨.flushLowTime, none⟩,
      ⟨.timerBasePctB, none⟩,
      ⟨.timerBaseTime, none⟩,
      ⟨.entryPctB, none⟩],
    createQueueEventAction .retryCaseCSetupConditionCheck context]

/-- The %B at which a rebound from the current %B enters. -/
def reboundPctB (context : TradingContextView) : Except TradingError Decimal :=
  raiseInvalid (Decimal.add? defaultContext context.market.realtimePctB (.finite (6 / 100)))

/-- `_create_flush_actions`, for the transition that uses them. -/
def recordFlush (transitionId : String) (state : TradingStateConfiguration)
    (context : TradingContextView) : Except TradingError TransitionOutcome := do
  let entryPctB ← reboundPctB context
  return createTransitionOutcome transitionId state [
    patch [
      ⟨.flushLow, some context.market.realtimePrice⟩,
      ⟨.flushLowPctB, some context.market.realtimePctB⟩,
      ⟨.flushLowTime, some context.evaluatedAt⟩,
      ⟨.timerBasePctB, some context.market.realtimePctB⟩,
      ⟨.timerBaseTime, some context.evaluatedAt⟩,
      ⟨.entryPctB, some entryPctB⟩],
    scheduleMarketReevaluation .retryCaseCSetupConditionCheck context
      "Track recovery from the latest Case C flush low"]

/-- C-11: the recovery window ran out and starts over from the current %B. -/
def restartRecoveryWindow (state : TradingStateConfiguration) (context : TradingContextView) :
    Except TradingError TransitionOutcome := do
  let entryPctB ← reboundPctB context
  return createTransitionOutcome "C-11" state [
    patch [
      ⟨.currentOpenPctB, some context.market.realtimePctB⟩,
      ⟨.timerBasePctB, some context.market.realtimePctB⟩,
      ⟨.timerBaseTime, some context.evaluatedAt⟩,
      ⟨.entryPctB, some entryPctB⟩],
    scheduleMarketReevaluation .retryCaseCSetupConditionCheck context
      "Case C three-minute recovery window restarted"]

/-- The flush is known and the window has run out without a new low or a recovery. -/
def recoveryWindowElapsed (context : TradingContextView) : Bool :=
  context.runtime.flushLow.isSome && conditionUnmet .cNewLow context &&
    conditionUnmet .cRecoveryWindow context && conditionUnmet .cRecovery context

/-- The price has rebounded inside the recovery window. -/
def inRecoveryWindow (context : TradingContextView) : Bool :=
  context.runtime.flushLow.isSome && context.runtime.entryPctB.isSome &&
    conditionMet .cRecoveryWindow context && conditionMet .cRebound context &&
    conditionUnmet .cRecovery context

/-- Neither a flush nor a rebound yet. -/
def shouldWatchSetup (context : TradingContextView) : Bool :=
  conditionUnmet .cRecovery context &&
    ((context.runtime.flushLow.isNone && conditionUnmet .cFlush context) ||
      (context.runtime.flushLow.isSome && context.runtime.entryPctB.isSome &&
        conditionUnmet .cNewLow context && conditionMet .cRecoveryWindow context &&
        conditionUnmet .cRebound context))

/-- The first entry order of Case C is allowed. -/
def canBuyCaseC (context : TradingContextView) : Bool :=
  context.runtime.positionOwner.isNone && context.runtime.pendingOrderId.isNone &&
    inRecoveryWindow context && conditionMet .cEntryLimit context

/-- C-12: the first entry order of Case C. -/
def buyCaseC (state : TradingStateConfiguration) (event : TradingEvent)
    (context : TradingContextView) : TransitionOutcome :=
  createTransitionOutcome "C-12" (state.withCaseCSignal .cPositionOpenSignalled)
    (patch [⟨.currentOpenPctB, some context.market.realtimePctB⟩] ::
      createEntryOrderActions .caseC .initial event context)

/-- C-12 to C-14, when neither recovery, flush nor an elapsed window came first. -/
def checkRebound (state : TradingStateConfiguration) (event : TradingEvent)
    (context : TradingContextView) : Option TransitionOutcome :=
  if canBuyCaseC context then some (buyCaseC state event context)
  else if inRecoveryWindow context && conditionUnmet .cEntryLimit context then
    some (createTransitionOutcome "C-13" state
      [scheduleMarketReevaluation .retryCaseCSetupConditionCheck context
        "Recovery was too strong for a Case C entry"])
  else if shouldWatchSetup context then
    some (createTransitionOutcome "C-14" state
      [scheduleMarketReevaluation .retryCaseCSetupConditionCheck context
        "Continue Case C flush/recovery observation"])
  else none

/-- C-08: the %B recovered before the entry. -/
def consumeSetup (state : TradingStateConfiguration) : TransitionOutcome :=
  createTransitionOutcome "C-08" (state.withCaseCSignal .caseCFinalState)
    [patch [
      ⟨.caseCConsumedForEvent, true⟩,
      ⟨.caseCRecoveryConfirmed, true⟩,
      ⟨.allowNewCaseCSetup, false⟩]]

/-- C-08 to C-14 in their priority order. -/
def checkCaseCSetup (state : TradingStateConfiguration) (event : TradingEvent)
    (context : TradingContextView) : Except TradingError (Option TransitionOutcome) :=
  if context.runtime.positionOwner.isNone && conditionMet .cRecovery context then
    .ok (some (consumeSetup state))
  else if context.runtime.flushLow.isNone && conditionMet .cFlush context then
    (recordFlush "C-09" state context).map some
  else if context.runtime.flushLow.isSome && conditionMet .cNewLow context then
    (recordFlush "C-10" state context).map some
  else if recoveryWindowElapsed context then
    (restartRecoveryWindow state context).map some
  else .ok (checkRebound state event context)

/-- C_SETUP. -/
def handleCSetup (state : TradingStateConfiguration) (event : TradingEvent)
    (context : TradingContextView) : Except TradingError (Option TransitionOutcome) :=
  if event.eventType = .startCaseCSetupConditionCheck then .ok (some (startSetup state context))
  else if event.eventType = .retryCaseCSetupConditionCheck then checkCaseCSetup state event context
  else .ok (giveUpSetup "C-15" state event context)

/-- C-16 and C-17: the entry order is decided. -/
def handleCPositionOpenSignalled (state : TradingStateConfiguration) (event : TradingEvent)
    (context : TradingContextView) : Option TransitionOutcome :=
  if event.eventType = .caseCPositionOpened ∧ context.runtime.positionOwner = some .caseC then
    some (createTransitionOutcome "C-16" (state.withCaseCSignal .caseCFinalState) [])
  else if event.eventType = .caseBPositionOpened ∧
      context.runtime.positionOwner = some .caseB then
    some (createTransitionOutcome "C-17" (state.withCaseCSignal .caseCFinalState) [
      .cancelPendingOrder context.runtime.pendingOrderId "CASE_B_WON_ENTRY_ARBITRATION",
      patch [⟨.allowNewCaseCSetup, false⟩]])
  else none

/-- `handle_case_c_signal_transition`. -/
def handleCaseCSignalTransition (state : TradingStateConfiguration) (event : TradingEvent)
    (context : TradingContextView) : Except TradingError (Option TransitionOutcome) :=
  match state.caseCSignalState with
  | some .cWaitSetup => .ok (handleCWaitSetup state event context)
  | some .cSetup => handleCSetup state event context
  | some .cPositionOpenSignalled => .ok (handleCPositionOpenSignalled state event context)
  | some .caseCFinalState => .ok none
  | none => .ok none

end Trading
