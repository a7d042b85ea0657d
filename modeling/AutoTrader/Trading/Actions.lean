import AutoTrader.Trading.Events

/-!
# Action requests

`domain/trading/action_requests.py`: what the state machine asks the controller to
do.

* `RuntimeField`, `RuntimeFieldChange` — the runtime fields a patch may write, each
  with values of its own type.
* `TradingActionRequest` — the action requests of a microstep.
-/

namespace Trading

open Arithmetic

/-! ## Runtime patches -/

/-- The fields a patch may write. -/
inductive RuntimeField where
  | positionOwner | pendingStrategy | pendingOrderSide | pendingOrderId
  | pendingOrderAttemptKind | pendingIntentId | tradingPhase
  | caseBEnabled | caseCEnabled | caseBEntryPaused | caseBOnlyUntilNextLowerTouch
  | allowNewCaseCSetup | caseCConsumedForEvent | caseCRecoveryConfirmed
  | signalCreated | signalCandleId | signalTime | lastCaseCSetupCandleId
  | flushLow | flushLowPctB | flushLowTime | currentOpenPctB
  | timerBasePctB | timerBaseTime | entryPctB | tpPrice | previousTrailEmaSlope
  | pendingExitReason | pendingExitPctB | pendingReturnState
  | caseBExitReason | caseCExitReason | caseCExitPctB
  deriving DecidableEq, Repr

/-- The type of a field's values. -/
@[reducible] def RuntimeField.Value : RuntimeField → Type
  | .positionOwner | .pendingStrategy => Option StrategyType
  | .pendingOrderSide => Option OrderSide
  | .pendingOrderId | .pendingIntentId | .signalCandleId | .lastCaseCSetupCandleId =>
      Option String
  | .pendingOrderAttemptKind => Option OrderAttemptKind
  | .tradingPhase => TradingPhase
  | .caseBEnabled | .caseCEnabled | .caseBEntryPaused | .caseBOnlyUntilNextLowerTouch
  | .allowNewCaseCSetup | .caseCConsumedForEvent | .caseCRecoveryConfirmed | .signalCreated =>
      Bool
  | .signalTime | .flushLowTime | .timerBaseTime => Option Timestamp
  | .flushLow | .flushLowPctB | .currentOpenPctB | .timerBasePctB | .entryPctB | .tpPrice
  | .previousTrailEmaSlope | .pendingExitPctB | .caseCExitPctB => Option Decimal
  | .pendingExitReason | .caseBExitReason | .caseCExitReason => Option ExitReason
  | .pendingReturnState => Option PositionReturnState

/-- Writes one field. -/
def RuntimeField.set : (field : RuntimeField) → field.Value → RuntimeFields → RuntimeFields
  | .positionOwner, v, r => { r with positionOwner := v }
  | .pendingStrategy, v, r => { r with pendingStrategy := v }
  | .pendingOrderSide, v, r => { r with pendingOrderSide := v }
  | .pendingOrderId, v, r => { r with pendingOrderId := v }
  | .pendingOrderAttemptKind, v, r => { r with pendingOrderAttemptKind := v }
  | .pendingIntentId, v, r => { r with pendingIntentId := v }
  | .tradingPhase, v, r => { r with tradingPhase := v }
  | .caseBEnabled, v, r => { r with caseBEnabled := v }
  | .caseCEnabled, v, r => { r with caseCEnabled := v }
  | .caseBEntryPaused, v, r => { r with caseBEntryPaused := v }
  | .caseBOnlyUntilNextLowerTouch, v, r => { r with caseBOnlyUntilNextLowerTouch := v }
  | .allowNewCaseCSetup, v, r => { r with allowNewCaseCSetup := v }
  | .caseCConsumedForEvent, v, r => { r with caseCConsumedForEvent := v }
  | .caseCRecoveryConfirmed, v, r => { r with caseCRecoveryConfirmed := v }
  | .signalCreated, v, r => { r with signalCreated := v }
  | .signalCandleId, v, r => { r with signalCandleId := v }
  | .signalTime, v, r => { r with signalTime := v }
  | .lastCaseCSetupCandleId, v, r => { r with lastCaseCSetupCandleId := v }
  | .flushLow, v, r => { r with flushLow := v }
  | .flushLowPctB, v, r => { r with flushLowPctB := v }
  | .flushLowTime, v, r => { r with flushLowTime := v }
  | .currentOpenPctB, v, r => { r with currentOpenPctB := v }
  | .timerBasePctB, v, r => { r with timerBasePctB := v }
  | .timerBaseTime, v, r => { r with timerBaseTime := v }
  | .entryPctB, v, r => { r with entryPctB := v }
  | .tpPrice, v, r => { r with tpPrice := v }
  | .previousTrailEmaSlope, v, r => { r with previousTrailEmaSlope := v }
  | .pendingExitReason, v, r => { r with pendingExitReason := v }
  | .pendingExitPctB, v, r => { r with pendingExitPctB := v }
  | .pendingReturnState, v, r => { r with pendingReturnState := v }
  | .caseBExitReason, v, r => { r with caseBExitReason := v }
  | .caseCExitReason, v, r => { r with caseCExitReason := v }
  | .caseCExitPctB, v, r => { r with caseCExitPctB := v }

/-- One field and the value to write. -/
structure RuntimeFieldChange where
  field : RuntimeField
  value : field.Value

/-- `replace(runtime, **changes)` on the bare record. -/
def applyChanges (changes : List RuntimeFieldChange) (runtime : RuntimeFields) : RuntimeFields :=
  changes.foldl (fun r change => change.field.set change.value r) runtime

/-! ## Requests -/

structure OpenLowerEvent where
  lowerEventId : String
  touchTime : Timestamp
  candleId : Option String
  touchCandleLow : Decimal
  lowerBandAtTouch : Decimal
  touchCandleBbw : Decimal
  deriving DecidableEq

structure QueueEvent where
  eventType : TradingEventType
  payload : Option TradingEventPayload := none
  lowerEventId : Option String := none
  candleId : Option String := none
  orderId : Option String := none
  deriving DecidableEq

inductive ReevaluationTrigger where
  | marketChange | next1mClose | next30mClose | deadlineOrMarketChange | retryBackoff
  deriving DecidableEq, Repr

structure ScheduleReevaluation where
  eventType : TradingEventType
  trigger : ReevaluationTrigger
  earliestDelay : Option Duration := none
  lowerEventId : Option String := none
  reason : String := ""
  deriving DecidableEq

/-- One idempotent order intent. -/
structure SubmitOrder where
  strategy : StrategyType
  side : OrderSide
  attemptKind : OrderAttemptKind
  idempotencyKey : String
  exitReason : Option ExitReason := none
  exitPctBAtIntent : Option Decimal := none
  deriving DecidableEq

/-- What the controller is asked to do, in order. -/
inductive TradingActionRequest where
  | patchRuntimeContext (changes : List RuntimeFieldChange)
  | openLowerEvent (action : OpenLowerEvent)
  | closeLowerEvent (reason : String)
  | resetCaseBContext (preserveSignal : Bool)
  | resetCaseCContext (preserveExitResult preserveSetupCandle : Bool)
  | queueEvent (action : QueueEvent)
  | scheduleReevaluation (action : ScheduleReevaluation)
  | cancelScheduledEvaluation (scope : String)
  | submitOrder (order : SubmitOrder)
  | cancelPendingOrder (orderId : Option String) (reason : String)
  | forceSellAll (retry useRetryPolicy : Bool)
  | stopTradingRuntime (reason : String)
  | reconcileOrder (orderId : String) (stopAfterReconciliation : Bool)

/-- `patch(**changes)`. -/
def patch (changes : List RuntimeFieldChange) : TradingActionRequest :=
  .patchRuntimeContext changes

end Trading
