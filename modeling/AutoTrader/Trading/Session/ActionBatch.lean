import AutoTrader.Trading.StepRequests
import AutoTrader.Trading.Session.EventQueue
import AutoTrader.Trading.Session.TradingContext

/-!
# Action batches of a session

`_execute_action` of the controller: what the requests of a microstep do to the context
and to the scheduler.

* `ContextCall` — the writes the controller makes on its own, when order outcomes, fills
  and market evaluations arrive.
* `TradingSession.execute`, `TradingSession.executeBatch` — the requests of a microstep.
* `TradingSession.Reachable` — the sessions of a run: microsteps in any order with the
  controller's writes between them, a batch possibly cut short.
* `TradingSession.Tracked` — what holds in all of them.
-/

namespace Trading

open Arithmetic

/-! ## Writes of the controller -/

/-- The runtime patches of the controller. -/
inductive ControllerPatch where
  | tradingPhase (phase : TradingPhase)
  | caseBExitReason (reason : ExitReason)
  | caseCExitResult (reason : ExitReason) (pctB : Option Decimal)
  | forceSell (owner : StrategyType) (attemptKind : OrderAttemptKind) (intentId : String)

/-- The fields a patch of the controller writes. -/
def ControllerPatch.changes : ControllerPatch → List RuntimeFieldChange
  | tradingPhase phase => [⟨.tradingPhase, phase⟩]
  | caseBExitReason reason => [⟨.caseBExitReason, some reason⟩]
  | caseCExitResult reason pctB => [⟨.caseCExitReason, some reason⟩, ⟨.caseCExitPctB, pctB⟩]
  | forceSell owner attemptKind intentId => [
      ⟨.pendingStrategy, some owner⟩,
      ⟨.pendingOrderSide, some .sell⟩,
      ⟨.pendingOrderAttemptKind, some attemptKind⟩,
      ⟨.pendingIntentId, some intentId⟩,
      ⟨.pendingExitReason, some .forceSell⟩,
      ⟨.pendingExitPctB, none⟩,
      ⟨.pendingReturnState, none⟩,
      ⟨.tradingPhase, .stopping⟩]

/-- The runtime after an order and its exit intent were given up. -/
def withoutPendingIntent (runtime : TradingRuntimeSnapshot) : TradingRuntimeSnapshot :=
  { runtime with
    pendingStrategy := none
    pendingOrderSide := none
    pendingOrderId := none
    pendingOrderAttemptKind := none
    pendingIntentId := none
    pendingExitReason := none
    pendingExitPctB := none
    pendingReturnState := none
    tradingPhase := .idle
    pending_order_complete := no_pending_order
    return_state_has_reason := no_return_state
    exit_pct_b_has_reason := no_exit_pct_b }

namespace TradingContext

/-- `clear_pending_order`. -/
def clearPendingIntent (context : TradingContext) : TradingContext :=
  if context.pendingOrder = none ∧ context.runtime = withoutPendingIntent context.runtime then
    context
  else { context with
    runtime := withoutPendingIntent context.runtime
    pendingOrder := none
    version := context.version + 1
    pending_aligned := by simp [PendingAligned] }

/-- `snapshot`, with the check of the view. -/
def snapshot (context : TradingContext) (evaluatedAt : Timestamp) :
    Except TradingError TradingContextView := do
  validatePendingAlignment context.runtime.toRuntimeFields context.pendingOrder
  return context.view evaluatedAt

/-- A context always has a view. -/
theorem snapshot_eq_ok (context : TradingContext) (evaluatedAt : Timestamp) :
    context.snapshot evaluatedAt = .ok (context.view evaluatedAt) := by
  unfold snapshot
  rw [validatePendingAlignment_eq_ok_iff.mpr context.pending_aligned]
  rfl

end TradingContext

/-- A write of the controller to the context. -/
inductive ContextCall where
  | updateMarket (market : MarketEvaluationSnapshot)
  | updatePosition (position : PositionSnapshot) (owner : Option StrategyType)
  | publishPendingOrder (order : PendingOrderSnapshot)
  | clearPendingOrder (preserveIntentId : Bool)
  | clearPendingIntent
  | applyRuntimePatch (patch : ControllerPatch)

namespace ContextCall

/-- The call itself. -/
def call (context : TradingContext) : ContextCall → Except TradingError TradingContext
  | updateMarket market => .ok (context.updateMarket market)
  | updatePosition position owner => context.updatePosition position owner
  | publishPendingOrder order => .ok (context.setPendingOrder order)
  | clearPendingOrder preserveIntentId => .ok (context.clearPendingOrder preserveIntentId)
  | clearPendingIntent => .ok context.clearPendingIntent
  | applyRuntimePatch patch => context.applyRuntimePatch patch.changes

/-- The context after the call; one that raises writes nothing. -/
def run (call : ContextCall) (context : TradingContext) : TradingContext :=
  match call.call context with
  | .ok next => next
  | .error _ => context

/-- The call publishes a pending order. -/
def publishes : ContextCall → Bool
  | publishPendingOrder _ => true
  | _ => false

end ContextCall

/-! ## Requests -/

/-- What `_apply_order_retry_delay` decides for a retry of an order. -/
inductive RetryDecision where
  /-- It is scheduled, possibly later. -/
  | scheduled (delay : Option Duration)
  /-- The submissions are used up and a position is left: RECONCILIATION_REQUIRED. -/
  | reconciliationRequired
  /-- The submissions are used up without a position: the intent is given up. -/
  | givenUp

/-- What a batch meets: the clock, the retry budget, and the writes that the requests to
the order pipeline lead to. -/
structure BatchEnvironment where
  now : Timestamp := 0
  retryDecision : ScheduleReevaluation → RetryDecision := fun _ => .scheduled none
  orderEffect : TradingActionRequest → List ContextCall := fun _ => []

/-- The machine, the context and the scheduler of a session. -/
structure TradingSession where
  state : TradingStateConfiguration := .notStarted
  context : TradingContext := {}
  scheduler : EventDrivenScheduler := []

namespace TradingSession

/-- The session after writes of the controller. -/
def withCalls (session : TradingSession) (calls : List ContextCall) : TradingSession :=
  { session with context := calls.foldl (fun context call => call.run context) session.context }

/-- A reevaluation is scheduled; the retry of an order within its budget. -/
def scheduleReevaluation (environment : BatchEnvironment) (action : ScheduleReevaluation)
    (session : TradingSession) : TradingSession :=
  if action.trigger ≠ .retryBackoff ∨ action.earliestDelay.isSome then
    { session with scheduler := session.scheduler.schedule action environment.now }
  else match environment.retryDecision action with
    | .scheduled delay =>
        { session with
          scheduler := session.scheduler.schedule { action with earliestDelay := delay }
            environment.now }
    | .reconciliationRequired =>
        session.withCalls [.applyRuntimePatch (.tradingPhase .reconciliationRequired)]
    | .givenUp =>
        session.withCalls [.clearPendingOrder false, .applyRuntimePatch (.tradingPhase .idle)]

/-- `_execute_action`. -/
def execute (environment : BatchEnvironment) (action : TradingActionRequest)
    (session : TradingSession) : Except TradingError TradingSession :=
  match action with
  | .patchRuntimeContext changes =>
      (session.context.applyRuntimePatch changes).map fun context => { session with context }
  | .openLowerEvent action =>
      .ok { session with context := session.context.openLowerEvent action }
  | .closeLowerEvent _ => .ok { session with context := session.context.closeLowerEvent }
  | .resetCaseBContext preserveSignal =>
      .ok { session with context := session.context.resetCaseBContext preserveSignal }
  | .resetCaseCContext preserveExitResult preserveSetupCandle =>
      .ok { session with
        context := session.context.resetCaseCContext preserveExitResult preserveSetupCandle }
  | .scheduleReevaluation action => .ok (session.scheduleReevaluation environment action)
  | .cancelScheduledEvaluation scope =>
      .ok { session with scheduler := session.scheduler.cancel scope }
  | .stopTradingRuntime _ => .ok { session with scheduler := [] }
  | .queueEvent _ => .ok session
  | .submitOrder _ | .cancelPendingOrder _ _ | .forceSellAll _ _ | .reconcileOrder _ _ =>
      .ok (session.withCalls (environment.orderEffect action))

/-- The requests of a microstep in their order, up to the first that raises. -/
def executeBatch (environment : BatchEnvironment) :
    List TradingActionRequest → TradingSession → Except TradingError TradingSession
  | [], session => .ok session
  | action :: rest, session => do
      let next ← session.execute environment action
      executeBatch environment rest next

@[simp] theorem executeBatch_nil (environment : BatchEnvironment) (session : TradingSession) :
    executeBatch environment [] session = .ok session := rfl

theorem executeBatch_append {environment : BatchEnvironment} {xs ys : List TradingActionRequest}
    {session next : TradingSession} (h : executeBatch environment xs session = .ok next) :
    executeBatch environment (xs ++ ys) session = executeBatch environment ys next := by
  induction xs generalizing session with
  | nil => cases h; rfl
  | cons action rest ih =>
      obtain ⟨middle, hmiddle, hrest⟩ := Except.bind_eq_ok_iff.mp h
      rw [List.cons_append, executeBatch, hmiddle]
      exact ih hrest

/-! ## Runs -/

/-- What a session receives. -/
inductive Input where
  /-- A write of the controller between two microsteps. -/
  | call (call : ContextCall)
  /-- The scheduler releases its due entries. -/
  | release (trigger : ReevaluationTrigger) (now : Timestamp)
  /-- A microstep, of whose batch so many requests are executed. -/
  | event (event : TradingEvent) (evaluatedAt : Timestamp) (environment : BatchEnvironment)
      (executed : ℕ)

/-- The session after an input.  The machine commits its state before the batch; before
LOGIC_STARTED no order was submitted, so none is published. -/
def receive (session : TradingSession) : Input → Except TradingError TradingSession
  | .call call => do
      Except.require (call.publishes = false ∨ session.state.rootState ≠ .notStarted)
        (.runtimeError "no order was submitted before the start")
      return { session with context := call.run session.context }
  | .release trigger now =>
      .ok { session with scheduler := (session.scheduler.release trigger now).2 }
  | .event event evaluatedAt environment executed => do
      let view ← session.context.snapshot evaluatedAt
      let result ← handle session.state event view
      executeBatch environment (result.actionRequests.take executed)
        { session with state := result.stateAfter }

/-- A session right after `initialize`. -/
structure Initialized (session : TradingSession) : Prop where
  state : session.state = .notStarted
  runtime : session.context.runtime = {}
  pendingOrder : session.context.pendingOrder = none
  scheduler : session.scheduler = []

/-- The sessions of a run. -/
inductive Reachable : TradingSession → Prop
  | start {session : TradingSession} (h : session.Initialized) : Reachable session
  | step {session next : TradingSession} (h : Reachable session) {input : Input}
      (hnext : session.receive input = .ok next) : Reachable next

/-- The sessions after a list of inputs. -/
def receiveAll (session : TradingSession) : List Input → Except TradingError TradingSession
  | [] => .ok session
  | input :: rest => do
      let next ← session.receive input
      next.receiveAll rest

theorem Reachable.receiveAll {session next : TradingSession} (h : Reachable session)
    {inputs : List Input} (hnext : session.receiveAll inputs = .ok next) : Reachable next := by
  induction inputs generalizing session with
  | nil => cases hnext; exact h
  | cons input rest ih =>
      obtain ⟨middle, hmiddle, hrest⟩ := Except.bind_eq_ok_iff.mp hnext
      exact ih (h.step hmiddle) hrest

/-! ## What holds in every run -/

/-- The runtime names an order only while one is pending, and none is before the start. -/
structure Tracked (session : TradingSession) : Prop where
  orderId : session.context.pendingOrder = none → session.context.runtime.pendingOrderId = none
  unstarted : session.state.rootState = .notStarted → session.context.pendingOrder = none

/-- No order is pending, and the runtime names none. -/
structure Free (context : TradingContext) : Prop where
  pendingOrder : context.pendingOrder = none
  orderId : context.runtime.pendingOrderId = none

/-- A patch that never names an order keeps track of it. -/
theorem applyRuntimePatch_orderId {context next : TradingContext}
    {changes : List RuntimeFieldChange} (h : context.applyRuntimePatch changes = .ok next)
    (hkeeps : ∀ runtime : TradingRuntimeSnapshot, runtime.pendingOrderId = none →
      (applyChanges changes runtime.toRuntimeFields).pendingOrderId = none)
    (hcontext : context.pendingOrder = none → context.runtime.pendingOrderId = none) :
    next.pendingOrder = context.pendingOrder ∧
      (next.pendingOrder = none → next.runtime.pendingOrderId = none) := by
  obtain ⟨hfields, -, -, hpending⟩ := TradingContext.applyRuntimePatch_eq_ok h
  refine ⟨hpending, fun hnone => ?_⟩
  show next.runtime.toRuntimeFields.pendingOrderId = none
  rw [hfields]
  exact hkeeps _ (hcontext (hpending ▸ hnone))

end TradingSession

end Trading
