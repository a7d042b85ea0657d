import AutoTrader.Trading.Context

/-!
# Events of the trading session

`domain/trading/events.py`: the event types of the event-action table, their
payloads and the event with its queue identity.

A market event carries an evaluation together with its source version, and only an
event of market priority carries one; both are fields of `TradingEvent`.
-/

namespace Trading

/-- Smaller values are processed first. -/
inductive EventPriority where
  | internal | userCommand | orderOutcome | market
  deriving DecidableEq, Repr

def EventPriority.value : EventPriority → ℕ
  | .internal => 0
  | .userCommand => 10
  | .orderOutcome => 20
  | .market => 30

inductive TradingEventType where
  | marketDataUpdated | logicStarted | lowerBandTouched | new30mLowerBandTouched
  | tradeManagementCompleted | stopConfirmed | forceSellFinished | forceSellFailed
  | upperBandTouched | activateTradeManagement
  | caseBPositionOpened | orderPreparationExpired | caseBBuyFailed | caseBBuyRetry
  | caseCPositionOpened | caseCBuyFailed | caseCBuyRetry
  | startCaseBConditionCheck | retryCaseBConditionCheck | caseBEmergencyStop | caseBStop
  | caseBTimeExit | caseBTakeProfit | caseBUpperTrend | caseBTrendHoldConditionCheck
  | caseBTrendHoldSell | caseBSellFailed | caseBSellRetry | caseBSellFilled | caseBSellFinished
  | startCaseCConditionCheck | retryCaseCConditionCheck | caseCStop | caseCTimeExit
  | caseCEnterProfitZone | startTpTrailingConditionCheck | retryTpTrailingConditionCheck
  | caseCEmaIncreasement | caseCSellAtTpPrice | caseCEmaDecreasement
  | caseCSellFailed | caseCSellRetry | caseCSellFilled | caseCSellFinished
  | checkCaseCRecovery | checkCaseBHandoff | caseBActiveResume | caseBWaitOnly
  | buyRiskBlocked | sellPreparationDeferred
  | thirtyMinuteCandleClosed | startCaseBWaitPullbackConditionCheck
  | retryCaseBWaitPullbackConditionCheck
  | retryCWaitSetup | startCaseCSetupConditionCheck | retryCaseCSetupConditionCheck
  deriving DecidableEq, Repr

/-- The member's string value. -/
def TradingEventType.value : TradingEventType → String
  | .marketDataUpdated => "MARKET_DATA_UPDATED"
  | .logicStarted => "LOGIC_STARTED"
  | .lowerBandTouched => "LOWER_BAND_TOUCHED"
  | .new30mLowerBandTouched => "NEW_30M_LOWER_BAND_TOUCHED"
  | .tradeManagementCompleted => "TRADE_MANAGEMENT_COMPLETED"
  | .stopConfirmed => "STOP_CONFIRMED"
  | .forceSellFinished => "FORCE_SELL_FINISHED"
  | .forceSellFailed => "FORCE_SELL_FAILED"
  | .upperBandTouched => "UPPER_BAND_TOUCHED"
  | .activateTradeManagement => "ACTIVATE_TRADE_MANAGEMENT"
  | .caseBPositionOpened => "CASE_B_POSITION_OPENED"
  | .orderPreparationExpired => "ORDER_PREPARATION_EXPIRED"
  | .caseBBuyFailed => "CASE_B_BUY_FAILED"
  | .caseBBuyRetry => "CASE_B_BUY_RETRY"
  | .caseCPositionOpened => "CASE_C_POSITION_OPENED"
  | .caseCBuyFailed => "CASE_C_BUY_FAILED"
  | .caseCBuyRetry => "CASE_C_BUY_RETRY"
  | .startCaseBConditionCheck => "START_CASE_B_CONDITION_CHECK"
  | .retryCaseBConditionCheck => "RETRY_CASE_B_CONDITION_CHECK"
  | .caseBEmergencyStop => "CASE_B_EMERGENCY_STOP"
  | .caseBStop => "CASE_B_STOP"
  | .caseBTimeExit => "CASE_B_TIME_EXIT"
  | .caseBTakeProfit => "CASE_B_TAKE_PROFIT"
  | .caseBUpperTrend => "CASE_B_UPPER_TREND"
  | .caseBTrendHoldConditionCheck => "CASE_B_TREND_HOLD_CONDITION_CHECK"
  | .caseBTrendHoldSell => "CASE_B_TREND_HOLD_SELL"
  | .caseBSellFailed => "CASE_B_SELL_FAILED"
  | .caseBSellRetry => "CASE_B_SELL_RETRY"
  | .caseBSellFilled => "CASE_B_SELL_FILLED"
  | .caseBSellFinished => "CASE_B_SELL_FINISHED"
  | .startCaseCConditionCheck => "START_CASE_C_CONDITION_CHECK"
  | .retryCaseCConditionCheck => "RETRY_CASE_C_CONDITION_CHECK"
  | .caseCStop => "CASE_C_STOP"
  | .caseCTimeExit => "CASE_C_TIME_EXIT"
  | .caseCEnterProfitZone => "CASE_C_ENTER_PROFIT_ZONE"
  | .startTpTrailingConditionCheck => "START_TP_TRAILING_CONDITION_CHECK"
  | .retryTpTrailingConditionCheck => "RETRY_TP_TRAILING_CONDITION_CHECK"
  | .caseCEmaIncreasement => "CASE_C_EMA_INCREASEMENT"
  | .caseCSellAtTpPrice => "CASE_C_SELL_AT_TP_PRICE"
  | .caseCEmaDecreasement => "CASE_C_EMA_DECREASEMENT"
  | .caseCSellFailed => "CASE_C_SELL_FAILED"
  | .caseCSellRetry => "CASE_C_SELL_RETRY"
  | .caseCSellFilled => "CASE_C_SELL_FILLED"
  | .caseCSellFinished => "CASE_C_SELL_FINISHED"
  | .checkCaseCRecovery => "CHECK_CASE_C_RECOVERY"
  | .checkCaseBHandoff => "CHECK_CASE_B_HANDOFF"
  | .caseBActiveResume => "CASE_B_ACTIVE_RESUME"
  | .caseBWaitOnly => "CASE_B_WAIT_ONLY"
  | .buyRiskBlocked => "BUY_RISK_BLOCKED"
  | .sellPreparationDeferred => "SELL_PREPARATION_DEFERRED"
  | .thirtyMinuteCandleClosed => "THIRTY_MINUTE_CANDLE_CLOSED"
  | .startCaseBWaitPullbackConditionCheck => "START_CASE_B_WAIT_PULLBACK_CONDITION_CHECK"
  | .retryCaseBWaitPullbackConditionCheck => "RETRY_CASE_B_WAIT_PULLBACK_CONDITION_CHECK"
  | .retryCWaitSetup => "RETRY_C_WAIT_SETUP"
  | .startCaseCSetupConditionCheck => "START_CASE_C_SETUP_CONDITION_CHECK"
  | .retryCaseCSetupConditionCheck => "RETRY_CASE_C_SETUP_CONDITION_CHECK"

inductive RiskBlockReason where
  | riskPolicyUnavailable | riskPolicyVersionMismatch | manualKillSwitchActive
  | riskOrderNotionalExceeded | riskDailyLossExceeded | riskPositionNotionalExceeded
  | riskBuyBudgetInsufficient
  deriving DecidableEq, Repr

/-- The typed payloads of events. -/
inductive TradingEventPayload where
  | buyAttempt (attemptKind : OrderAttemptKind)
  | preparationExpired (strategy : StrategyType)
  | buyRiskBlocked (strategy : StrategyType) (reason : RiskBlockReason)
  | sellAttempt (attemptKind : OrderAttemptKind)
  | sellPreparationDeferred (strategy : StrategyType) (intentId : String)
  | forceSellOutcome (executionApplied historyPersisted terminalUnfilled : Bool)
  deriving DecidableEq, Repr

/-- A market evaluation with the version of its source. -/
structure MarketObservation where
  evaluation : MarketEvaluationSnapshot
  version : ℕ
  version_pos : 0 < version
  deriving DecidableEq

theorem no_market_priority {priority : EventPriority} :
    (none : Option MarketObservation).isSome → priority = .market := by simp

/-- An event for one microstep of the state machine. -/
structure TradingEvent where
  eventType : TradingEventType
  occurredAt : Timestamp
  sequenceNumber : ℕ := 0
  priority : EventPriority := .market
  eventId : Option String := none
  lowerEventId : Option String := none
  candleId : Option String := none
  orderId : Option String := none
  payload : Option TradingEventPayload := none
  market : Option MarketObservation := none
  market_priority : market.isSome → priority = .market := by
    first | exact no_market_priority | simp
  deriving DecidableEq

/-- The queue's sequence number, and an event ID made from it when there is none. -/
def TradingEvent.withQueueIdentity (event : TradingEvent) (sequenceNumber : ℕ) : TradingEvent :=
  let generated := event.eventType.value ++ ":" ++ toString sequenceNumber
  { event with
    sequenceNumber := sequenceNumber
    eventId := match event.eventId with
      | some id => if id.isEmpty then some generated else some id
      | none => some generated }

/-- A queued event has an identity. -/
theorem TradingEvent.withQueueIdentity_eventId_isSome (event : TradingEvent)
    (sequenceNumber : ℕ) : (event.withQueueIdentity sequenceNumber).eventId.isSome := by
  unfold withQueueIdentity
  cases event.eventId with
  | none => rfl
  | some id => by_cases h : id.isEmpty <;> simp [h]

end Trading
