import AutoTrader.Trading.Conditions

/-!
# Shared parts of the transitions

`domain/trading/transitions/base.py`, `helpers.py` and `catalog.py`.

* `TransitionOutcome` — what one region selected.
* `resolveLowerEventId`, `createOpenLowerEventAction`,
  `createLowerEventInitializationPatch` — opening a lower-touch event.
* `createEntryOrderActions`, `createExitOrderActions` — reserving an order in the
  runtime and requesting it, under an intent ID that is reused when one is pending.
* `transitionIds` — the catalog the machine checks every selected ID against.
-/

namespace Trading

open Arithmetic

/-- The transitions, next state and actions a region selected. -/
structure TransitionOutcome where
  transitionIds : List String
  stateAfter : TradingStateConfiguration
  actionRequests : List TradingActionRequest := []
  exclusive : Bool := false

/-- `create_transition_outcome`. -/
def createTransitionOutcome (transitionId : String) (stateAfter : TradingStateConfiguration)
    (actions : List TradingActionRequest) (extraTransitionIds : List String := [])
    (exclusive : Bool := false) : TransitionOutcome where
  transitionIds := transitionId :: extraTransitionIds
  stateAfter := stateAfter
  actionRequests := actions
  exclusive := exclusive

/-! ## Text -/

/-- How an f-string renders an optional text. -/
def optionText : Option String → String
  | none => "None"
  | some text => text

/-- Python's `a or b` on optional texts: an empty text counts as absent. -/
def orElse (a b : Option String) : Option String :=
  match a with
  | some text => if text.isEmpty then b else some text
  | none => b

/-- `a or text`. -/
def orText (a : Option String) (text : String) : String :=
  match a with
  | some t => if t.isEmpty then text else t
  | none => text

@[simp] theorem orText_none (text : String) : orText none text = text := rfl

/-! ## Lower-touch events -/

/-- `is_lower_touch_condition_met`. -/
def isLowerTouchConditionMet (context : TradingContextView) : Bool :=
  conditionMet .lowerPrice context

/-- `resolve_lower_event_id`. -/
def resolveLowerEventId (event : TradingEvent) (context : TradingContextView) : String :=
  let candleId := orText event.candleId (orText context.market.current30mCandleId "realtime")
  let generated := "lower:" ++ candleId ++ ":" ++ toString event.sequenceNumber
  if event.lowerEventId ≠ context.runtime.lowerEventId then orText event.lowerEventId generated
  else generated

/-- `create_open_lower_event_action`. -/
def createOpenLowerEventAction (event : TradingEvent) (context : TradingContextView) :
    OpenLowerEvent where
  lowerEventId := resolveLowerEventId event context
  touchTime := event.occurredAt
  candleId := orElse event.candleId context.market.current30mCandleId
  touchCandleLow := context.market.current30mLow
  lowerBandAtTouch := context.market.lowerBand
  touchCandleBbw := context.market.touchCandleBbw

/-- `create_lower_event_initialization_patch`. -/
def createLowerEventInitializationPatch (context : TradingContextView) :
    Except TradingError TradingActionRequest := do
  let caseBEnabled ← raiseInvalid
    (Decimal.lt? context.market.touchCandleBbw (.finite (2 / 100)))
  return patch [
    ⟨.caseBEnabled, caseBEnabled⟩,
    ⟨.caseCEnabled, true⟩,
    ⟨.allowNewCaseCSetup, true⟩,
    ⟨.caseCConsumedForEvent, false⟩,
    ⟨.caseCRecoveryConfirmed, false⟩,
    ⟨.caseCExitReason, none⟩,
    ⟨.caseCExitPctB, none⟩,
    ⟨.caseBEntryPaused, false⟩,
    ⟨.caseBOnlyUntilNextLowerTouch, false⟩]

/-- `create_queue_event_action`. -/
def createQueueEventAction (eventType : TradingEventType) (context : TradingContextView) :
    TradingActionRequest :=
  .queueEvent { eventType := eventType, lowerEventId := context.runtime.lowerEventId }

/-- `schedule_market_reevaluation`. -/
def scheduleMarketReevaluation (eventType : TradingEventType) (context : TradingContextView)
    (reason : String) (trigger : ReevaluationTrigger := .deadlineOrMarketChange)
    (earliestDelay : Option Duration := none) : TradingActionRequest :=
  .scheduleReevaluation
    { eventType := eventType
      trigger := trigger
      earliestDelay := earliestDelay
      lowerEventId := context.runtime.lowerEventId
      reason := reason }

/-! ## Order intents -/

/-- The intent ID a new entry order would get. -/
def freshEntryIntentId (strategy : StrategyType) (event : TradingEvent)
    (context : TradingContextView) : String :=
  strategy.str ++ ":BUY:" ++ optionText context.runtime.lowerEventId ++ ":" ++
    toString event.sequenceNumber

/-- The intent ID a new exit order would get. -/
def freshExitIntentId (strategy : StrategyType) (reason : ExitReason) (event : TradingEvent)
    (context : TradingContextView) : String :=
  strategy.str ++ ":SELL:" ++ reason.str ++ ":" ++ optionText context.runtime.lowerEventId ++
    ":" ++ toString event.sequenceNumber

/-- `create_entry_order_actions`. -/
def createEntryOrderActions (strategy : StrategyType) (attemptKind : OrderAttemptKind)
    (event : TradingEvent) (context : TradingContextView) : List TradingActionRequest :=
  -- a retry reuses the pending intent ID
  let intentId := orText context.runtime.pendingIntentId (freshEntryIntentId strategy event context)
  [patch [
    ⟨.pendingStrategy, some strategy⟩,
    ⟨.pendingOrderSide, some .buy⟩,
    ⟨.pendingOrderAttemptKind, some attemptKind⟩,
    ⟨.pendingIntentId, some intentId⟩,
    ⟨.tradingPhase, .entryOrderPending⟩],
   .submitOrder
    { strategy := strategy
      side := .buy
      attemptKind := attemptKind
      idempotencyKey := intentId }]

/-- `create_exit_order_actions`. -/
def createExitOrderActions (strategy : StrategyType) (reason : ExitReason)
    (returnState : PositionReturnState) (event : TradingEvent) (context : TradingContextView)
    (attemptKind : OrderAttemptKind) : List TradingActionRequest :=
  -- a retry reuses the pending intent ID and the %B of the exit decision
  let intentId := orText context.runtime.pendingIntentId
    (freshExitIntentId strategy reason event context)
  let exitPctBAtIntent : Option Decimal :=
    match strategy with
    | .caseC =>
        if attemptKind = .initial then some context.market.realtimePctB
        else context.runtime.pendingExitPctB
    | .caseB => none
  let initialChanges : List RuntimeFieldChange :=
    if attemptKind = .initial then
      [⟨.pendingExitReason, some reason⟩,
       ⟨.pendingExitPctB, exitPctBAtIntent⟩,
       ⟨.pendingReturnState, some returnState⟩]
    else []
  [patch ([
    ⟨.pendingStrategy, some strategy⟩,
    ⟨.pendingOrderSide, some .sell⟩,
    ⟨.pendingOrderAttemptKind, some attemptKind⟩,
    ⟨.pendingIntentId, some intentId⟩,
    ⟨.tradingPhase, .exitOrderPending⟩] ++ initialChanges),
   .submitOrder
    { strategy := strategy
      side := .sell
      attemptKind := attemptKind
      idempotencyKey := intentId
      exitReason := some reason
      exitPctBAtIntent := exitPctBAtIntent }]

/-- The patch that releases every pending order and exit field. -/
def clearExitPatch : TradingActionRequest :=
  patch [
    ⟨.pendingStrategy, none⟩,
    ⟨.pendingOrderSide, none⟩,
    ⟨.pendingOrderId, none⟩,
    ⟨.pendingOrderAttemptKind, none⟩,
    ⟨.pendingIntentId, none⟩,
    ⟨.pendingExitReason, none⟩,
    ⟨.pendingExitPctB, none⟩,
    ⟨.pendingReturnState, none⟩,
    ⟨.tradingPhase, .idle⟩]

/-! ## Guards shared by the Cases -/

/-- `_can_start_exit`: neither an order nor an exit intent is pending. -/
def canStartExit (context : TradingContextView) : Bool :=
  context.runtime.pendingOrderId.isNone && context.runtime.pendingExitReason.isNone

/-- `_get_sell_attempt_kind`. -/
def getSellAttemptKind (event : TradingEvent) (context : TradingContextView) : OrderAttemptKind :=
  match event.payload with
  | some (.sellAttempt attemptKind) => attemptKind
  | _ => context.runtime.pendingOrderAttemptKind.getD .initial

/-- Case C ended by a trailing exit at a low %B, so Case B may go on. -/
def isHandoffActive (context : TradingContextView) : Bool :=
  context.runtime.caseCExitReason == some .tpTrail && context.runtime.caseCExitPctB.isSome &&
    conditionMet .cHandoff context

/-! ## Catalog -/

/-- The identifier `prefix-NN`. -/
def transitionId (region : String) (number : ℕ) : String :=
  region ++ (if number < 10 then "-0" else "-") ++ toString number

/-- `_build_transition_ids`, from 1 to `count`. -/
def buildTransitionIds (region : String) (count : ℕ) : List String :=
  (List.range count).map fun i => transitionId region (i + 1)

/-- `TRANSITION_IDS`. -/
def transitionIds : List String :=
  ["G-01", "G-02", "G-03", "G-04", "G-05", "G-06", "G-06P", "G-06F", "G-06R", "G-07"] ++
  buildTransitionIds "O" 9 ++
  (buildTransitionIds "PB" 24 ++ ["PB-23F"]) ++
  (buildTransitionIds "PC" 28 ++ ["PC-23F"]) ++
  buildTransitionIds "B" 19 ++
  buildTransitionIds "C" 17

end Trading
