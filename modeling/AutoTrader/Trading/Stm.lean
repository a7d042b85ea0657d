import AutoTrader.Trading.Transitions.Global
import AutoTrader.Trading.Transitions.Ownership
import AutoTrader.Trading.Transitions.CaseBPosition
import AutoTrader.Trading.Transitions.CaseCPosition
import AutoTrader.Trading.Transitions.CaseBSignal
import AutoTrader.Trading.Transitions.CaseCSignal

/-!
# The trading state machine

`domain/trading/stm.py`: one microstep collects the transitions of the global layer
and of the three parallel regions, resolves conflicts and commits once.

* `resolveRegionOneEvent`, `resolveCaseCRegionEvent`, `resolveCaseBRegionEvent` — a
  market update becomes the check event of the active substate.
* `doesCaseCBuyWin` — the arbitration between two entries of one microstep.
* `handle` — the microstep.
-/

namespace Trading

/-- The immutable result of a microstep. -/
structure TradingSTMResult where
  decisionId : String
  consumed : Bool
  transitionIds : List String
  stateBefore : TradingStateConfiguration
  stateAfter : TradingStateConfiguration
  actionRequests : List TradingActionRequest
  contextVersion : ℕ

/-! ## Event rewriting -/

/-- `_resolve_region_one_event`. -/
def resolveRegionOneEvent (state : TradingStateConfiguration) (event : TradingEvent) :
    TradingEvent :=
  if event.eventType ≠ .marketDataUpdated then event
  else match state with
    | .tradeManagement (.caseB .caseBTrendHold) _ _ =>
        { event with eventType := .caseBTrendHoldConditionCheck }
    | .tradeManagement (.caseB .caseBHolding) _ _ =>
        { event with eventType := .retryCaseBConditionCheck }
    | .tradeManagement (.caseC .caseCHolding) _ _ =>
        { event with eventType := .retryCaseCConditionCheck }
    | .tradeManagement (.caseC .caseCTpTrailing) _ _ =>
        { event with eventType := .retryTpTrailingConditionCheck }
    | .tradeManagement (.caseC .caseCClosed) _ _ =>
        { event with eventType := .checkCaseCRecovery }
    | _ => event

/-- `_resolve_case_c_region_event`. -/
def resolveCaseCRegionEvent (state : TradingStateConfiguration) (event : TradingEvent) :
    TradingEvent :=
  if event.eventType ≠ .marketDataUpdated then event
  else match state.caseCSignalState with
    | some .cWaitSetup => { event with eventType := .retryCWaitSetup }
    | some .cSetup => { event with eventType := .retryCaseCSetupConditionCheck }
    | _ => event

/-- `_resolve_case_b_region_event`. -/
def resolveCaseBRegionEvent (state : TradingStateConfiguration) (event : TradingEvent)
    (context : TradingContextView) : TradingEvent :=
  if event.eventType ≠ .marketDataUpdated then event
  else if state.caseBSignalState = some .bWaitSignal ∧ context.market.confirmed30mClose then
    { event with eventType := .thirtyMinuteCandleClosed }
  else if state.caseBSignalState = some .bWaitPullback then
    { event with eventType := .retryCaseBWaitPullbackConditionCheck }
  else event

/-! ## Arbitration -/

/-- The action is an entry order of the strategy. -/
def isBuyOf (strategy : StrategyType) : TradingActionRequest → Bool
  | .submitOrder order => order.strategy == strategy && order.side == .buy
  | _ => false

/-- `_does_case_c_buy_win`. -/
def doesCaseCBuyWin (acceptedActions : List TradingActionRequest)
    (caseBOutcome : TransitionOutcome) : Bool :=
  acceptedActions.any (isBuyOf .caseC) && caseBOutcome.actionRequests.any (isBuyOf .caseB)

/-! ## Commit -/

/-- `_create_decision_id`. -/
def createDecisionId (event : TradingEvent) (context : TradingContextView)
    (ids : List String) : String :=
  let transitionPart := if ids.isEmpty then "NOOP" else String.intercalate "+" ids
  orText event.eventId ("seq-" ++ toString event.sequenceNumber) ++ ":v" ++
    toString context.version ++ ":" ++ transitionPart

/-- `_commit`: an ID outside the catalog is a programming error. -/
def commit (event : TradingEvent) (context : TradingContextView)
    (stateBefore : TradingStateConfiguration) (selected : TransitionOutcome) :
    Except TradingError TradingSTMResult :=
  if selected.transitionIds.all (transitionIds.contains ·) then
    .ok
      { decisionId := createDecisionId event context selected.transitionIds
        consumed := true
        transitionIds := selected.transitionIds
        stateBefore := stateBefore
        stateAfter := selected.stateAfter
        actionRequests := selected.actionRequests
        contextVersion := context.version }
  else .error (.runtimeError "Unknown transition IDs")

/-- `_no_op`. -/
def noOp (event : TradingEvent) (context : TradingContextView)
    (state : TradingStateConfiguration) : TradingSTMResult where
  decisionId := createDecisionId event context []
  consumed := false
  transitionIds := []
  stateBefore := state
  stateAfter := state
  actionRequests := []
  contextVersion := context.version

/-! ## The microstep -/

/-- `_handle_region_one`: an active position submachine, or the ownership region. -/
def handleRegionOne (state : TradingStateConfiguration) (event : TradingEvent)
    (context : TradingContextView) : Except TradingError (Option TransitionOutcome) :=
  if state.caseBPositionState.isSome then handleCaseBPositionTransition state event context
  else if state.caseCPositionState.isSome then handleCaseCPositionTransition state event context
  else .ok (handleOwnershipTransition state event context)

/-- What the regions have selected so far in a microstep. -/
structure Selection where
  state : TradingStateConfiguration
  transitionIds : List String
  actions : List TradingActionRequest

/-- Adds the outcome of a region. -/
def Selection.accept (selection : Selection) : Option TransitionOutcome → Selection
  | none => selection
  | some outcome =>
      { state := outcome.stateAfter
        transitionIds := selection.transitionIds ++ outcome.transitionIds
        actions := selection.actions ++ outcome.actionRequests }

/-- The two signal regions, Case C before Case B. -/
def handleSignalRegions (selection : Selection) (event : TradingEvent)
    (context : TradingContextView) : Except TradingError Selection := do
  let caseC ← handleCaseCSignalTransition selection.state
    (resolveCaseCRegionEvent selection.state event) context
  let selection := selection.accept caseC
  let caseB := handleCaseBSignalTransition selection.state
    (resolveCaseBRegionEvent selection.state event context) context
  return selection.accept (caseB.filter fun outcome => !doesCaseCBuyWin selection.actions outcome)

/-- The completion event, when the microstep completes trade management. -/
def completionActions (before after : TradingStateConfiguration) (context : TradingContextView) :
    List TradingActionRequest :=
  if !before.tradeManagementIsComplete && after.tradeManagementIsComplete then
    [.queueEvent
      { eventType := .tradeManagementCompleted
        lowerEventId := context.runtime.lowerEventId }]
  else []

/-- The parallel regions of trade management. -/
def handleRegions (stateBefore : TradingStateConfiguration) (event : TradingEvent)
    (context : TradingContextView) : Except TradingError TradingSTMResult := do
  let regionOne ← handleRegionOne stateBefore (resolveRegionOneEvent stateBefore event) context
  let start : Selection := ⟨stateBefore, [], []⟩
  let selection := start.accept regionOne
  if regionOne.any (·.exclusive) then
    commit event context stateBefore
      { transitionIds := selection.transitionIds
        stateAfter := selection.state
        actionRequests := selection.actions
        exclusive := true }
  else
    let selection ← handleSignalRegions selection event context
    if selection.transitionIds.isEmpty then
      return noOp event context stateBefore
    else
      commit event context stateBefore
        { transitionIds := selection.transitionIds
          stateAfter := selection.state
          actionRequests :=
            selection.actions ++ completionActions stateBefore selection.state context }

/-- `_handle_locked`. -/
def handle (state : TradingStateConfiguration) (event : TradingEvent)
    (context : TradingContextView) : Except TradingError TradingSTMResult := do
  match ← handleGlobalTransition state event context with
  | some outcome => commit event context state outcome
  | none =>
    -- a new-candle touch that opens no event is still a market observation
    let event := if event.eventType = .new30mLowerBandTouched then
      { event with eventType := .marketDataUpdated } else event
    if state.rootState ≠ .tradeManagement then return noOp event context state
    else handleRegions state event context

end Trading
