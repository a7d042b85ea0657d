import AutoTrader.Support.Receipts
import AutoTrader.Trading.History.Wire
import AutoTrader.Trading.Session.EventQueue
import AutoTrader.Trading.Session.Submission
import AutoTrader.Trading.Session.TradingContext
import AutoTrader.Trading.Stm

/-!
# The commands of a session

`commit_regime_selection`, `update_split_ratios`, `start_trading` and `stop_trading` of the
controller, with the receipts that make them idempotent.

* `CommandSession` — the fields of the controller that the commands read and write.
* `CallEnvironment` — what a call meets: the clock, the effects of the actions that leave the
  context, and the exceptions that may come out of the steps of a start.
* `startTrading`, `stopTrading`, … — the commands, as the source orders their steps.
* `SessionCommand.run` — a command by its name and payload.
-/

namespace Trading.Commands

open Receipts Stateful

/-! ## Errors, results and payloads -/

/-- `TradingSessionFailureCode`, as far as the commands raise it. -/
inductive TradingSessionFailureCode where
  | accountNotReady | commandDisabled | commandIdReused | connectionNotReady | marketNotReady
  | invalidSessionState | noSelectedRegime | positionReconciliationRequired | staleContextVersion
  | tradingActive | tradingAlreadyActive | tradingNotStarted | unsupportedTradingLogic
  deriving DecidableEq, Repr

/-- What a command raises: a `TradingSessionError` with its code, or another exception. -/
inductive CommandError where
  | session (code : TradingSessionFailureCode)
  | raised (error : TradingError)
  deriving DecidableEq, Repr

/-- `TradingLogicSupportStatus`. -/
inductive TradingLogicSupportStatus where
  | supported | unsupported
  deriving DecidableEq, Repr

/-- `support_status` of the registry. -/
def supportStatus : RegimeType → TradingLogicSupportStatus
  | .type0 => .supported
  | _ => .unsupported

/-- The exponent of `Decimal.as_tuple()`. -/
inductive DecimalExponent where
  | finite (exponent : ℤ)
  | infinity | quietNaN | signalingNaN
  deriving DecidableEq, Repr

/-- `Decimal.as_tuple()`. -/
structure DecimalTuple where
  negative : Bool
  digits : List ℕ
  exponent : DecimalExponent
  deriving DecidableEq, Repr

/-- The number of a finite tuple. -/
def DecimalTuple.value? (tuple : DecimalTuple) : Option ℚ :=
  match tuple.exponent with
  | .finite exponent =>
      let coefficient : ℚ := tuple.digits.foldl (fun total digit => total * 10 + digit) 0
      some ((if tuple.negative then -coefficient else coefficient) * 10 ^ exponent)
  | _ => none

/-- `TradingSessionResult`. -/
structure TradingSessionResult where
  status : TradingSessionStatus
  sessionId : Option String
  version : ℕ
  transitionIds : List String := []
  actionRequests : List TradingActionRequest := []

/-- The results of the commands. -/
inductive CommandResult where
  | selection (selected : RegimeType) (supportStatus : TradingLogicSupportStatus) (version : ℕ)
  | split (scaleIn scaleOut : DecimalTuple) (version : ℕ)
  | session (result : TradingSessionResult)

/-- The first part of a command key. -/
inductive Operation where
  | selection | split | start | stop
  deriving DecidableEq, Repr

/-- A command key: the operation and the command ID. -/
abbrev CommandKey := Operation × String

/-- The payload a receipt remembers. -/
inductive Fingerprint where
  | selection (regimeType : RegimeType) (expectedVersion : ℤ)
  | split (expectedVersion : ℤ) (scaleIn scaleOut : DecimalTuple)
  | version (expectedVersion : ℤ)
  deriving DecidableEq, Repr

/-- `_MAX_COMMAND_RECORDS`. -/
def maxCommandRecords : ℕ := 1024

/-! ## The session -/

/-- The types of the values that the commands carry and never look into. -/
structure SessionTypes where
  Account : Type
  OrderState : Type
  Processor : Type
  Trace : Type
  RiskDecision : Type
  Evaluation : Type

/-- Accounts, orders and processors that carry nothing. -/
def bareTypes : SessionTypes := ⟨Unit, Unit, Unit, Unit, Unit, Unit⟩

/-- The session-owned `TradingSTM`. -/
structure TradingSTM where
  regimeType : RegimeType
  state : TradingStateConfiguration
  deriving DecidableEq

/-- `TradingContext` with its account and its settings. -/
structure SessionContext (types : SessionTypes) extends TradingContext where
  account : Option types.Account := none
  initialized : Bool := false
  selectedRegime : Option RegimeType := none
  scaleInRatio : DecimalTuple := ⟨false, [5], .finite (-1)⟩
  scaleOutRatio : DecimalTuple := ⟨false, [5], .finite (-1)⟩

/-- What decides whether a session may start. -/
structure Readiness where
  manualKillRequiresCleanup : Bool := false
  eventRuntimeFailed : Bool := false
  processOwnershipAmbiguous : Bool := false
  externalExecutionReconciliationRequired : Bool := false
  streamReconciliationRequired : Bool := false
  marketStreamReady : Bool := true
  pendingOrderRecoveryEnabled : Bool := false
  startupReconciliationComplete : Bool := false
  startupReconciliationBlocked : Bool := false
  modeCommandEnabled : Bool := true
  marketSnapshotReady : Bool := true
  accountReady : Bool := true
  positionSnapshot : PositionSnapshot := {}
  positionQuantity : Option ℚ := none
  persistencePending : Bool := false
  /-- `_shutdown_preparing` while another thread owns the cleanup. -/
  shutdownOwnedElsewhere : Bool := false
  /-- This thread owns the cleanup of a shutdown. -/
  shutdownOwnedHere : Bool := false
  marketStreamReconciliationRequired : Bool := false
  riskPolicyVersion : Option ℕ := none

/-- The `_session_recovery_*` fields. -/
structure SessionRecovery (types : SessionTypes) where
  notified : Bool := false
  inProgress : Bool := false
  cancelled : Bool := false
  generation : ℕ := 0
  sessionId : Option String := none
  tradingPhase : Option TradingPhase := none
  nextAttemptAt : Option Timestamp := none
  waitingEvaluation : Option ℕ := none
  latestEvaluation : Option types.Evaluation := none
  issues : List String := []

/-- The controller, without its receipts. -/
structure CommandSession (types : SessionTypes) where
  context : SessionContext types := {}
  account : types.Account
  readiness : Readiness := {}
  recovery : SessionRecovery types := {}
  selectedRegime : Option RegimeType := none
  selectedStm : Option TradingSTM := none
  activeStm : Option TradingSTM := none
  sessionId : Option String := none
  status : TradingSessionStatus := .notStarted
  eventQueue : Option SerialEventQueue := none
  eventProcessor : Option types.Processor := none
  scheduler : List ScheduleReevaluation := []
  actionTrace : List TradingActionRequest := []
  externalActions : List TradingActionRequest := []
  cleanupFailures : List String := []
  cleanupInProgress : Bool := false
  orderStatesByClientId : List (String × types.OrderState) := []
  orderStatesByOrderId : List (String × types.OrderState) := []
  scheduledOrderQueries : List (String × Timestamp) := []
  submissionAttemptsByIntent : List (String × ℕ) := []
  quantityOverridesByIntent : List (String × ℚ) := []
  forceSellIntentId : Option String := none
  forceSellRetryDueAt : Option Timestamp := none
  orderTrace : List types.Trace := []
  publicMarketBoundaryTrace : List types.Trace := []
  activeTraceEventId : Option String := none
  recoveredPositionLiquidationSession : Bool := false
  sessionRiskPolicyVersion : Option ℕ := none
  lastRiskDecision : Option types.RiskDecision := none
  latestMarketEvaluationVersion : ℕ := 0
  marketResumeSuppressed : Bool := false
  livenessStartedAt : Option Timestamp := none
  recoveryPhase : String := "idle"
  recoveryStartedAt : Option Timestamp := none
  recoveryBlockReason : Option String := none
  preparationRetryDueAt : Option Timestamp := none
  preparationRetryIntent : Option String := none
  preparationRetryAttempt : ℕ := 0
  marketStreamInterruptedRunningSession : Bool := false
  /-- The recorded cause is exactly the loss of the market stream. -/
  causeIsMarketStream : Bool := false
  marketStopRequested : Option String := none
  inflightStopCommands : List (String × ℤ × ℕ) := []
  externalStopReservations : ℕ := 0
  externalStopRequested : Bool := false
  indicatorsPaused : Bool := false

/-- The controller. -/
structure Controller (types : SessionTypes) where
  session : CommandSession types
  receipts : ReceiptStore CommandKey Fingerprint CommandResult := {}

variable {types : SessionTypes}

/-- A method that leaves the receipts alone. -/
abbrev SessionM (types : SessionTypes) := EStateM CommandError (CommandSession types)

/-- A public command. -/
abbrev CommandM (types : SessionTypes) := EStateM CommandError (Controller types)

/-- The steps of a start after which an exception may come. -/
inductive StartStep where
  | contextInitialized | identified | queueCreated | processorCreated | tracesCleared
  | ordersCleared | riskReset | observed
  deriving DecidableEq, Repr

/-- What a call meets. -/
structure CallEnvironment (types : SessionTypes) where
  now : Timestamp := 0
  /-- `str(uuid4())`. -/
  newSessionId : String := ""
  newProcessor : TradingSTM → types.Processor
  accountStreamReady : Bool := true
  /-- The exception, if any, that comes out of a step of a start. -/
  fails : StartStep → Except TradingError Unit := fun _ => .ok ()
  /-- The actions with effects outside the context: any change of the session, any exception,
  and the events they return. -/
  execute : TradingActionRequest → SessionM types (List TradingEvent) := fun _ => pure []
  /-- `_enqueue_order_outcomes`. -/
  enqueueOrderOutcomes : List TradingEvent → SessionM types PUnit := fun _ => pure ⟨⟩

/-- A domain computation inside a command. -/
def domain {σ α : Type} (x : Except TradingError α) : EStateM CommandError σ α :=
  raising (x.mapError .raised)

/-- A check of a command. -/
def check {σ : Type} (condition : Prop) [Decidable condition] (error : CommandError) :
    EStateM CommandError σ Unit :=
  raising (Except.require condition error)

/-- A method of the session, run by a command. -/
def onSession {α : Type} (x : SessionM types α) : CommandM types α := fun controller =>
  match x controller.session with
  | .ok a session => .ok a { controller with session }
  | .error e session => .error e { controller with session }

/-! ## Receipts -/

/-- The text is not empty and `strip()` leaves it alone. -/
def isTrimmed (text : String) : Bool :=
  !text.toList.isEmpty && !text.toList.head?.any isSpace && !text.toList.getLast?.any isSpace

/-- `_normalize_command_id`. -/
def normalizeCommandId (commandId : String) : Except TradingError String := do
  Except.require (isTrimmed commandId)
    (.valueError "command_id must be a non-empty trimmed string")
  return commandId

/-- `_read_command_record`. -/
def readCommandRecord (key : CommandKey) (fingerprint : Fingerprint) :
    CommandM types (Option CommandResult) := do
  let normalized ← domain (normalizeCommandId key.2)
  match (← get).receipts.find (key.1, normalized) with
  | none => return none
  | some receipt =>
      check (receipt.fingerprint = fingerprint) (.session .commandIdReused)
      return some receipt.result

/-- `_store_command_record`. -/
def storeCommandRecord (key : CommandKey) (fingerprint : Fingerprint) (result : CommandResult) :
    CommandM types PUnit := do
  let normalized ← domain (normalizeCommandId key.2)
  modify fun controller =>
    { controller with
      receipts := controller.receipts.record maxCommandRecords (key.1, normalized)
        ⟨fingerprint, result⟩ }

/-- `_require_selection_result`, `_require_split_result` and `_require_session_result`. -/
def requireResult (operation : Operation) (result : CommandResult) :
    Except TradingError CommandResult :=
  match operation, result with
  | .selection, .selection .. => .ok result
  | .selection, _ => .error (.runtimeError "selection command cache type mismatch")
  | .split, .split .. => .ok result
  | .split, _ => .error (.runtimeError "split command cache type mismatch")
  | .start, .session _ | .stop, .session _ => .ok result
  | _, _ => .error (.runtimeError "session command cache type mismatch")

/-- `_validate_expected_version_value`. -/
def validateExpectedVersionValue (expectedVersion : ℤ) : Except TradingError Unit :=
  Except.require (0 ≤ expectedVersion) (.valueError "expected_version must not be negative")

/-- `_require_expected_version`. -/
def requireExpectedVersion (expectedVersion : ℤ) : SessionM types PUnit := do
  domain (validateExpectedVersionValue expectedVersion)
  let session ← get
  check (session.readiness.shutdownOwnedElsewhere = false) (.session .commandDisabled)
  check (expectedVersion = session.context.version) (.session .staleContextVersion)

/-- `_is_active_locked`. -/
def CommandSession.isActive (session : CommandSession types) : Bool :=
  session.status = .running || session.status = .stopping ||
    session.status = .reconciliationRequired

/-- `_create_session_result`. -/
def createSessionResult (result : Option TradingSTMResult) : SessionM types CommandResult := do
  let session ← get
  return .session
    { status := session.status
      sessionId := session.sessionId
      version := session.context.version
      transitionIds := (result.map (·.transitionIds)).getD []
      actionRequests := (result.map (·.actionRequests)).getD [] }

/-! ## Selection and split ratios -/

/-- `select_regime`. -/
def SessionContext.selectRegime (context : SessionContext types) (regimeType : RegimeType) :
    SessionContext types :=
  if context.selectedRegime = some regimeType then context
  else { context with selectedRegime := some regimeType, version := context.version + 1 }

/-- The mutation of `commit_regime_selection`. -/
def selectRegime (regimeType : RegimeType) (selectedStm : Option TradingSTM)
    (expectedVersion : ℤ) : SessionM types CommandResult := do
  check ((← get).isActive = false) (.session .tradingActive)
  requireExpectedVersion expectedVersion
  modify fun session =>
    { session with
      context := session.context.selectRegime regimeType
      selectedRegime := some regimeType
      selectedStm := selectedStm }
  return .selection regimeType (supportStatus regimeType) (← get).context.version

/-- `commit_regime_selection`. -/
def commitRegimeSelection (regimeType : RegimeType) (selectedStm : Option TradingSTM)
    (commandId : String) (expectedVersion : ℤ) : CommandM types CommandResult := do
  check (∀ stm ∈ selectedStm, stm.regimeType = regimeType)
    (.raised (.valueError "selected_stm must match regime_type"))
  domain (validateExpectedVersionValue expectedVersion)
  match ← readCommandRecord (.selection, commandId) (.selection regimeType expectedVersion) with
  | some result => domain (requireResult .selection result)
  | none =>
      let result ← onSession (selectRegime regimeType selectedStm expectedVersion)
      storeCommandRecord (.selection, commandId) (.selection regimeType expectedVersion) result
      return result

/-- `_validate_split_ratio`. -/
def validateSplitRatio (value : DecimalTuple) (fieldName : String) : Except TradingError Unit := do
  Except.require value.value?.isSome (.valueError (fieldName ++ " must be finite"))
  Except.require (value.negative = false ∧ ∀ number ∈ value.value?, number ≤ 1)
    (.valueError (fieldName ++ " must be between 0 and 1"))

/-- `set_split_ratios`. -/
def SessionContext.setSplitRatios (context : SessionContext types)
    (scaleIn scaleOut : DecimalTuple) : Except TradingError (SessionContext types) := do
  validateSplitRatio scaleIn "scale_in_ratio"
  validateSplitRatio scaleOut "scale_out_ratio"
  -- equal numbers with other digits are no change
  if context.scaleInRatio.value? = scaleIn.value? ∧
      context.scaleOutRatio.value? = scaleOut.value? then return context
  else return { context with
    scaleInRatio := scaleIn
    scaleOutRatio := scaleOut
    version := context.version + 1 }

/-- The mutation of `update_split_ratios`. -/
def setSplitRatios (scaleIn scaleOut : DecimalTuple) (expectedVersion : ℤ) :
    SessionM types CommandResult := do
  requireExpectedVersion expectedVersion
  let context ← domain ((← get).context.setSplitRatios scaleIn scaleOut)
  modify fun session => { session with context }
  return .split context.scaleInRatio context.scaleOutRatio context.version

/-- `update_split_ratios`. -/
def updateSplitRatios (scaleIn scaleOut : DecimalTuple) (commandId : String)
    (expectedVersion : ℤ) : CommandM types CommandResult := do
  domain (validateExpectedVersionValue expectedVersion)
  match ← readCommandRecord (.split, commandId) (.split expectedVersion scaleIn scaleOut) with
  | some result => domain (requireResult .split result)
  | none =>
      let result ← onSession (setSplitRatios scaleIn scaleOut expectedVersion)
      storeCommandRecord (.split, commandId) (.split expectedVersion scaleIn scaleOut) result
      return result

/-! ## The state machine of a session -/

/-- `get_stm_instance`. -/
def TradingSTM.getStmInstance (regimeType : RegimeType) : Except TradingError TradingSTM := do
  Except.require (supportStatus regimeType = .supported)
    (.runtimeError ("UNSUPPORTED_TRADING_LOGIC: " ++ regimeType.wire))
  return ⟨regimeType, .notStarted⟩

/-- `run`: the first microstep, once. -/
def TradingSTM.run (stm : TradingSTM) (context : TradingContextView) :
    Except TradingError (TradingSTM × TradingSTMResult) := do
  Except.require (stm.state.rootState = .notStarted)
    (.runtimeError "TradingSTM.run() can only be called once")
  let event : TradingEvent :=
    { eventType := .logicStarted
      occurredAt := context.evaluatedAt
      sequenceNumber := 0
      priority := .internal
      eventId := some "logic-started" }
  let result ← handle stm.state event context
  return ({ stm with state := result.stateAfter }, result)

/-- `_execute_action` of the requests other than a patch: those to the context here, the others
by the environment. -/
def executeAction (env : CallEnvironment types) (action : TradingActionRequest) :
    SessionM types (List TradingEvent) := do
  modify fun session => { session with actionTrace := session.actionTrace ++ [action] }
  match action with
  | .openLowerEvent request => do
      modify fun session => { session with
        context := { session.context with
          toTradingContext := session.context.toTradingContext.openLowerEvent request } }
      return []
  | .closeLowerEvent _ => do
      modify fun session => { session with
        context := { session.context with
          toTradingContext := session.context.toTradingContext.closeLowerEvent } }
      return []
  | .resetCaseBContext preserveSignal => do
      modify fun session => { session with
        context := { session.context with
          toTradingContext := session.context.toTradingContext.resetCaseBContext preserveSignal } }
      return []
  | .resetCaseCContext preserveExitResult preserveSetupCandle => do
      modify fun session => { session with
        context := { session.context with
          toTradingContext := session.context.toTradingContext.resetCaseCContext
            preserveExitResult preserveSetupCandle } }
      return []
  | action => env.execute action

/-- One request of `_apply_stm_result`.  A patch that is refused is not in the trace. -/
def performAction (env : CallEnvironment types) :
    TradingActionRequest → SessionM types (List TradingEvent)
  | .patchRuntimeContext changes => do
      let context ← domain ((← get).context.applyRuntimePatch changes)
      modify fun session =>
        { session with
          context := { session.context with toTradingContext := context }
          actionTrace := session.actionTrace ++ [.patchRuntimeContext changes] }
      return []
  | action => executeAction env action

/-- The requests in turn, with the events they return. -/
def performActions (env : CallEnvironment types) :
    List TradingActionRequest → SessionM types (List TradingEvent)
  | [] => return []
  | action :: actions => do
      let events ← performAction env action
      let rest ← performActions env actions
      return events ++ rest

/-- `_apply_stm_result`. -/
def applyStmResult (env : CallEnvironment types) (result : TradingSTMResult) :
    SessionM types PUnit := do
  check (result.contextVersion = (← get).context.version)
    (.raised (.runtimeError "TradingSTM result context version is stale"))
  let events ← performActions env result.actionRequests
  if events.isEmpty then pure ⟨⟩ else env.enqueueOrderOutcomes events
  domain (env.fails .observed)

/-! ## Start -/

/-- `_process_lifetime_reconciliation_required_locked`. -/
def Readiness.processLifetimeReconciliationRequired (readiness : Readiness) : Bool :=
  readiness.eventRuntimeFailed || readiness.processOwnershipAmbiguous ||
    readiness.externalExecutionReconciliationRequired

/-- `_validate_start_prerequisites`. -/
def validateStartPrerequisites (env : CallEnvironment types) (session : CommandSession types) :
    Except CommandError Unit := do
  let readiness := session.readiness
  Except.require (session.isActive = false) (.session .tradingAlreadyActive)
  Except.require (readiness.manualKillRequiresCleanup = false) (.session .commandDisabled)
  Except.require (readiness.processLifetimeReconciliationRequired = false)
    (.session .positionReconciliationRequired)
  Except.require (readiness.streamReconciliationRequired = false) (.session .connectionNotReady)
  Except.require (readiness.marketStreamReady = true) (.session .connectionNotReady)
  Except.require (readiness.pendingOrderRecoveryEnabled = true →
    readiness.startupReconciliationComplete = true) (.session .positionReconciliationRequired)
  Except.require (readiness.startupReconciliationBlocked = false)
    (.session .positionReconciliationRequired)
  Except.require (readiness.modeCommandEnabled = true) (.session .commandDisabled)
  Except.require session.selectedRegime.isSome (.session .noSelectedRegime)
  Except.require (∀ regime ∈ session.selectedRegime, supportStatus regime = .supported)
    (.session .unsupportedTradingLogic)
  Except.require (readiness.marketSnapshotReady = true) (.session .marketNotReady)
  Except.require (readiness.accountReady = true) (.session .accountNotReady)
  Except.require (env.accountStreamReady = true) (.session .connectionNotReady)
  Except.require (readiness.positionSnapshot.isOpen = false)
    (.session .positionReconciliationRequired)
  Except.require (∀ quantity ∈ readiness.positionQuantity, quantity ≤ 0)
    (.session .positionReconciliationRequired)
  Except.require (session.context.initialized = true → session.context.pendingOrder = none)
    (.session .positionReconciliationRequired)
  Except.require (readiness.persistencePending = false) (.session .positionReconciliationRequired)

/-- `initialize`: no lower event, intent or owner of an earlier session stays. -/
def SessionContext.initializeContext (context : SessionContext types) (account : types.Account)
    (selectedRegime : RegimeType) (position : PositionSnapshot)
    (scaleInRatio scaleOutRatio : DecimalTuple) : Except TradingError (SessionContext types) := do
  validateSplitRatio scaleInRatio "scale_in_ratio"
  validateSplitRatio scaleOutRatio "scale_out_ratio"
  return { context with
    account := some account
    selectedRegime := some selectedRegime
    scaleInRatio := scaleInRatio
    scaleOutRatio := scaleOutRatio
    position := position
    runtime := {}
    pendingOrder := none
    initialized := true
    version := context.version + 1
    pending_aligned := no_order_aligned }

/-- The maps and traces of a session are emptied; the budgets stay when a journal has them. -/
def CommandSession.clearOrders (session : CommandSession types) : CommandSession types :=
  { session with
    orderStatesByClientId := []
    orderStatesByOrderId := []
    scheduledOrderQueries := []
    submissionAttemptsByIntent :=
      if session.readiness.pendingOrderRecoveryEnabled then session.submissionAttemptsByIntent
      else []
    quantityOverridesByIntent := []
    forceSellIntentId := none
    forceSellRetryDueAt := none
    orderTrace := []
    publicMarketBoundaryTrace := []
    activeTraceEventId := none }

/-- The guarded part of `start_trading`: the context and every session-owned field anew, and
the first microstep. -/
def openSession (env : CallEnvironment types) (selectedRegime : RegimeType)
    (selectedStm : TradingSTM) : SessionM types TradingSTMResult := do
  let session ← get
  let context ← domain (session.context.initializeContext session.account selectedRegime
    session.readiness.positionSnapshot session.context.scaleInRatio session.context.scaleOutRatio)
  modify fun session => { session with context }
  domain (env.fails .contextInitialized)
  modify fun session =>
    { session with
      sessionId := some env.newSessionId
      activeStm := some selectedStm
      selectedStm := none }
  domain (env.fails .identified)
  modify fun session => { session with eventQueue := some {} }
  domain (env.fails .queueCreated)
  modify fun session => { session with eventProcessor := some (env.newProcessor selectedStm) }
  domain (env.fails .processorCreated)
  modify fun session =>
    { session with
      scheduler := []
      actionTrace := []
      externalActions := []
      cleanupFailures := []
      cleanupInProgress := false }
  domain (env.fails .tracesCleared)
  modify CommandSession.clearOrders
  domain (env.fails .ordersCleared)
  modify fun session =>
    { session with
      recoveredPositionLiquidationSession := false
      sessionRiskPolicyVersion := session.readiness.riskPolicyVersion
      lastRiskDecision := none
      latestMarketEvaluationVersion := 0 }
  domain (env.fails .riskReset)
  let (stm, result) ← domain (selectedStm.run ((← get).context.view env.now))
  modify fun session => { session with activeStm := some stm }
  applyStmResult env result
  return result

/-- The handler of `start_trading`.  The copies are values, so what was cleared in place is
as it was before.  The scheduler is emptied and the state machine made anew. -/
def restoreSession (previous : CommandSession types) (selectedRegime : RegimeType) :
    SessionM types PUnit := do
  modify fun session =>
    { session with
      context := previous.context
      sessionId := previous.sessionId
      activeStm := previous.activeStm }
  let stm ← domain (TradingSTM.getStmInstance selectedRegime)
  modify fun session =>
    { session with
      selectedStm := some stm
      eventQueue := previous.eventQueue
      eventProcessor := previous.eventProcessor
      scheduler := []
      actionTrace := previous.actionTrace
      externalActions := previous.externalActions
      cleanupFailures := previous.cleanupFailures
      cleanupInProgress := previous.cleanupInProgress
      orderStatesByClientId := previous.orderStatesByClientId
      orderStatesByOrderId := previous.orderStatesByOrderId
      scheduledOrderQueries := previous.scheduledOrderQueries
      submissionAttemptsByIntent := previous.submissionAttemptsByIntent
      quantityOverridesByIntent := previous.quantityOverridesByIntent
      forceSellIntentId := previous.forceSellIntentId
      forceSellRetryDueAt := previous.forceSellRetryDueAt
      orderTrace := previous.orderTrace
      publicMarketBoundaryTrace := previous.publicMarketBoundaryTrace
      recoveredPositionLiquidationSession := previous.recoveredPositionLiquidationSession
      sessionRiskPolicyVersion := previous.sessionRiskPolicyVersion
      lastRiskDecision := previous.lastRiskDecision
      latestMarketEvaluationVersion := previous.latestMarketEvaluationVersion
      status := previous.status }

/-- The state machine of the selection, or a new one. -/
def selectedOrFresh (session : CommandSession types) (selectedRegime : RegimeType) :
    Except TradingError TradingSTM :=
  match session.selectedStm with
  | some stm => .ok stm
  | none => TradingSTM.getStmInstance selectedRegime

/-- The guarded part with its handler. -/
def beginSession (env : CallEnvironment types) : SessionM types TradingSTMResult := do
  let previous ← get
  match previous.selectedRegime with
  | none => throw (.raised (.runtimeError "validated selection must provide a REGIME"))
  | some selectedRegime => do
      let selectedStm ← domain (selectedOrFresh previous selectedRegime)
      tryCatch (openSession env selectedRegime selectedStm) fun error => do
        restoreSession previous selectedRegime
        throw error

/-- What follows a successful microstep. -/
def publishStart (session : CommandSession types) : CommandSession types :=
  { session with
    marketResumeSuppressed := false
    recovery := { session.recovery with
      cancelled := false
      sessionId := none
      tradingPhase := none
      waitingEvaluation := none
      issues := []
      generation := session.recovery.generation + 1 }
    livenessStartedAt := none
    recoveryPhase := "idle"
    recoveryStartedAt := none
    recoveryBlockReason := none
    status := .running }

/-- `start_trading` after its receipt was looked for. -/
def startSession (env : CallEnvironment types) (expectedVersion : ℤ) :
    SessionM types CommandResult := do
  requireExpectedVersion expectedVersion
  raising (validateStartPrerequisites env (← get))
  let startResult ← beginSession env
  modify publishStart
  createSessionResult (some startResult)

/-- `start_trading`. -/
def startTrading (env : CallEnvironment types) (commandId : String) (expectedVersion : ℤ) :
    CommandM types CommandResult := do
  domain (validateExpectedVersionValue expectedVersion)
  match ← readCommandRecord (.start, commandId) (.version expectedVersion) with
  | some result => domain (requireResult .start result)
  | none =>
      let result ← onSession (startSession env expectedVersion)
      storeCommandRecord (.start, commandId) (.version expectedVersion) result
      return result

/-! ## Stop -/

/-- The reservation of a stop: the command is in flight and no new order may go out. -/
def admitStop (commandId : String) (expectedVersion : ℤ) :
    SessionM types (Option String) := do
  let session ← get
  match session.inflightStopCommands.lookup commandId with
  | none => requireExpectedVersion expectedVersion
  | some (version, _) => check (version = expectedVersion) (.session .commandIdReused)
  check (session.activeStm.isSome ∧ session.sessionId.isSome) (.session .tradingNotStarted)
  let count := ((session.inflightStopCommands.lookup commandId).map (·.2)).getD 0
  modify fun session =>
    { session with
      externalStopReservations := session.externalStopReservations + 1
      inflightStopCommands :=
        Dict.insert commandId (expectedVersion, count + 1) session.inflightStopCommands
      externalStopRequested := true }
  return session.sessionId

/-- The `finally` of a stop takes its own reservation back. -/
def releaseStop (commandId : String) (session : CommandSession types) : CommandSession types :=
  let inflight := match session.inflightStopCommands.lookup commandId with
    | some (version, count) =>
        if count = 1 then Dict.erase commandId session.inflightStopCommands
        else Dict.insert commandId (version, count - 1) session.inflightStopCommands
    | none => session.inflightStopCommands
  { session with
    externalStopReservations := session.externalStopReservations - 1
    inflightStopCommands := inflight
    externalStopRequested :=
      if session.externalStopReservations - 1 = 0 then false else session.externalStopRequested }

/-- `try: … finally: …` -/
def withFinally {σ α : Type} (x : EStateM CommandError σ α) (last : σ → σ) :
    EStateM CommandError σ α := fun s =>
  match x s with
  | .ok a t => .ok a (last t)
  | .error e t => .error e (last t)

/-- A STOP cancels the recovery of the session and the retries of a preparation. -/
def CommandSession.cancelRetries (session : CommandSession types) : CommandSession types :=
  { session with
    recovery :=
      if session.recovery.notified then
        { session.recovery with
          cancelled := true
          generation := session.recovery.generation + 1
          nextAttemptAt := none
          waitingEvaluation := none
          latestEvaluation := none }
      else session.recovery
    preparationRetryDueAt := none
    preparationRetryIntent := none
    preparationRetryAttempt := 0 }

/-- Nothing but the market stream kept the session from going on. -/
def CommandSession.marketStreamIsBack (session : CommandSession types) (stm : TradingSTM) : Bool :=
  let readiness := session.readiness
  !readiness.marketStreamReconciliationRequired && readiness.marketStreamReady &&
    !readiness.streamReconciliationRequired &&
    !readiness.processLifetimeReconciliationRequired &&
    !readiness.startupReconciliationBlocked && readiness.startupReconciliationComplete &&
    session.scheduledOrderQueries.isEmpty && session.context.runtime.pendingOrderId.isNone &&
    session.context.runtime.pendingIntentId.isNone &&
    session.context.runtime.pendingExitReason.isNone &&
    decide (stm.state.rootState ≠ .stopping)

/-- A STOP of a session that only lost its market stream is kept, and applied when the stream
is back. -/
def CommandSession.resumeForStop (commandId : String) (stm : TradingSTM)
    (session : CommandSession types) : CommandSession types :=
  if session.status = .reconciliationRequired && session.marketStreamInterruptedRunningSession &&
      session.causeIsMarketStream then
    if session.marketStreamIsBack stm then
      { session with
        marketStreamInterruptedRunningSession := false
        marketStopRequested := none
        status := .running }
    else { session with
      marketStopRequested := some (session.marketStopRequested.getD commandId) }
  else session

/-- `_synchronize_status_from_context`. -/
def CommandSession.synchronizeStatus (session : CommandSession types) (rootState : RootState) :
    CommandSession types :=
  let readiness := session.readiness
  let blocked := readiness.streamReconciliationRequired ||
    (readiness.marketStreamReconciliationRequired && !readiness.shutdownOwnedHere) ||
    (session.marketStreamInterruptedRunningSession && !readiness.shutdownOwnedHere) ||
    (readiness.eventRuntimeFailed && !readiness.shutdownOwnedHere) ||
    readiness.processOwnershipAmbiguous || readiness.externalExecutionReconciliationRequired ||
    readiness.startupReconciliationBlocked
  if blocked || session.context.runtime.tradingPhase = .reconciliationRequired then
    { session with status := .reconciliationRequired, indicatorsPaused := true }
  else match rootState with
    | .logicTerminated => { session with status := .terminated, selectedStm := none }
    | .stopping =>
        if session.context.runtime.pendingOrderId.isSome then
          { session with
            causeIsMarketStream := false
            status := .reconciliationRequired
            indicatorsPaused := true }
        else { session with status := .stopping, indicatorsPaused := true }
    | _ => { session with status := .running }

/-- The STOP of a running session: what waits is dropped, and the machine decides first. -/
def processStop (env : CallEnvironment types) (commandId sessionId : String) (stm : TradingSTM) :
    SessionM types CommandResult := do
  let event : TradingEvent :=
    { eventType := .stopConfirmed
      occurredAt := env.now
      priority := .userCommand
      eventId := some ("stop-" ++ sessionId ++ "-" ++ commandId) }
  modify fun session =>
    { session with
      scheduler := []
      eventQueue := session.eventQueue.map SerialEventQueue.clear }
  let session ← get
  let result ← domain (handle stm.state event (session.context.view env.now))
  modify fun session =>
    { session with
      activeStm := some { stm with state := result.stateAfter }
      activeTraceEventId := event.eventId }
  withFinally (applyStmResult env result) fun after =>
    { after with activeTraceEventId := session.activeTraceEventId }
  modify fun session => session.synchronizeStatus result.stateAfter.rootState
  createSessionResult (some result)

/-- `stop_trading` under the effect lock. -/
def stopSession (env : CallEnvironment types) (commandId : String)
    (admittedSessionId : Option String) : SessionM types CommandResult := do
  check (admittedSessionId = (← get).sessionId) (.session .invalidSessionState)
  modify CommandSession.cancelRetries
  let session ← get
  match session.activeStm, session.sessionId with
  | some stm, some sessionId => do
      -- a session that ended has nothing left to stop
      if session.status = .terminated then createSessionResult none
      else do
        modify (CommandSession.resumeForStop commandId stm)
        let status := (← get).status
        if status = .stopping ∨ status = .reconciliationRequired then createSessionResult none
        else processStop env commandId sessionId stm
  | _, _ => throw (.session .tradingNotStarted)

/-- `stop_trading`. -/
def stopTrading (env : CallEnvironment types) (commandId : String) (expectedVersion : ℤ) :
    CommandM types CommandResult := do
  domain (validateExpectedVersionValue expectedVersion)
  match ← readCommandRecord (.stop, commandId) (.version expectedVersion) with
  | some result => domain (requireResult .stop result)
  | none => do
      let admittedSessionId ← onSession (admitStop commandId expectedVersion)
      withFinally (do
        if (← get).session.recovery.notified && (← get).session.recovery.inProgress then
          onSession (modify fun session =>
            { session with recovery := { session.recovery with cancelled := true } })
        match ← readCommandRecord (.stop, commandId) (.version expectedVersion) with
        | some result => domain (requireResult .stop result)
        | none => do
            let result ← onSession (stopSession env commandId admittedSessionId)
            storeCommandRecord (.stop, commandId) (.version expectedVersion) result
            return result)
        fun controller =>
          { controller with session := releaseStop commandId controller.session }

/-! ## Commands -/

/-- A command with its payload. -/
inductive SessionCommand where
  | commitRegimeSelection (regimeType : RegimeType) (selectedStm : Option TradingSTM)
      (commandId : String) (expectedVersion : ℤ)
  | updateSplitRatios (scaleIn scaleOut : DecimalTuple) (commandId : String)
      (expectedVersion : ℤ)
  | startTrading (commandId : String) (expectedVersion : ℤ)
  | stopTrading (commandId : String) (expectedVersion : ℤ)

namespace SessionCommand

/-- The command. -/
def run (env : CallEnvironment types) : SessionCommand → CommandM types CommandResult
  | commitRegimeSelection regimeType selectedStm commandId expectedVersion =>
      Commands.commitRegimeSelection regimeType selectedStm commandId expectedVersion
  | updateSplitRatios scaleIn scaleOut commandId expectedVersion =>
      Commands.updateSplitRatios scaleIn scaleOut commandId expectedVersion
  | startTrading commandId expectedVersion =>
      Commands.startTrading env commandId expectedVersion
  | stopTrading commandId expectedVersion => Commands.stopTrading env commandId expectedVersion

/-- The key of its receipt. -/
def key : SessionCommand → CommandKey
  | commitRegimeSelection _ _ commandId _ => (.selection, commandId)
  | updateSplitRatios _ _ commandId _ => (.split, commandId)
  | startTrading commandId _ => (.start, commandId)
  | stopTrading commandId _ => (.stop, commandId)

/-- The payload its receipt remembers. -/
def fingerprint : SessionCommand → Fingerprint
  | commitRegimeSelection regimeType _ _ expectedVersion => .selection regimeType expectedVersion
  | updateSplitRatios scaleIn scaleOut _ expectedVersion =>
      .split expectedVersion scaleIn scaleOut
  | startTrading _ expectedVersion | stopTrading _ expectedVersion => .version expectedVersion

end SessionCommand

end Trading.Commands
