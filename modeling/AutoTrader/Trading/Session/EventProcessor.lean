import AutoTrader.Trading.Stm
import AutoTrader.Trading.Session.EventQueue
import AutoTrader.Trading.Session.TradingContext

/-!
# Processing one event

`RunToCompletionEventProcessor.process_next` up to the publication of a result, with the
controller's `_prepare_market_event_context` before it.

* `EventController` — the queue, the state machine, the context and the bookkeeping of
  processed market versions.
* `prepareMarketEventContext` — the claimed event with the context it is decided on.
* `decideNext` — claim, preparation and decision.
* `publishDecision` — the check of the context version, and the rollback when it fails.
* `ReachableQueue` — the queues of a processor, and what holds of all of them.
-/

namespace Trading

/-! ## Queues of a processor -/

/-- The states of a queue with the event that is being processed, if any. -/
inductive ReachableQueue : SerialEventQueue → Option TradingEvent → Prop
  | start (maxPendingEvents maxSeenEventIds : ℕ) :
      ReachableQueue { maxPendingEvents, maxSeenEventIds } none
  | enqueue {queue claimed} (event : TradingEvent) (internal : Bool)
      (h : ReachableQueue queue claimed) :
      ReachableQueue (Stateful.finalState (SerialEventQueue.enqueue event internal queue)) claimed
  | pop {queue next answer} (h : ReachableQueue queue none)
      (hpop : SerialEventQueue.pop queue = .ok answer next) : ReachableQueue next answer
  | finish {queue claimed} (h : ReachableQueue queue claimed) : ReachableQueue queue none
  | restore {queue event} (h : ReachableQueue queue (some event)) :
      ReachableQueue (Stateful.finalState (SerialEventQueue.restoreClaimed event queue)) none
  | discardMarketWork {queue claimed} (h : ReachableQueue queue claimed) :
      ReachableQueue queue.discardMarketWork claimed
  | clear {queue claimed} (h : ReachableQueue queue claimed) : ReachableQueue queue.clear claimed

/-- The accepted events that are not done: numbered, and known by their identities. -/
structure SerialEventQueue.Sound (queue : SerialEventQueue) (claimed : Option TradingEvent) :
    Prop where
  numbers : ((queue.pending ++ claimed.toList).map (·.sequenceNumber)).Nodup
  bound : ∀ event ∈ queue.pending ++ claimed.toList, event.sequenceNumber < queue.nextSequence
  known : ∀ event ∈ queue.pending ++ claimed.toList, event.market = none →
    ∃ id ∈ event.eventId, id ∈ queue.seenEventIds

namespace SerialEventQueue.Sound

variable {queue next : SerialEventQueue} {claimed : Option TradingEvent} {event : TradingEvent}

/-- Fewer events are still sound. -/
theorem mono (h : queue.Sound claimed) {pending : List TradingEvent} {other : Option TradingEvent}
    (hsub : (pending ++ other.toList).Sublist (queue.pending ++ claimed.toList))
    (hpending : next.pending = pending) (hsequence : next.nextSequence = queue.nextSequence)
    (hseen : next.seenEventIds = queue.seenEventIds) : next.Sound other := by
  subst hpending
  refine ⟨h.numbers.sublist (hsub.map _), ?_, ?_⟩
  · intro event hevent
    rw [hsequence]
    exact h.bound event (hsub.subset hevent)
  · intro event hevent
    rw [hseen]
    exact h.known event (hsub.subset hevent)

/-- Two arrangements of the same events are equally sound. -/
theorem perm (h : queue.Sound claimed) {other : Option TradingEvent}
    (hperm : (next.pending ++ other.toList).Perm (queue.pending ++ claimed.toList))
    (hsequence : next.nextSequence = queue.nextSequence)
    (hseen : next.seenEventIds = queue.seenEventIds) : next.Sound other := by
  refine ⟨(hperm.map _).nodup_iff.mpr h.numbers, ?_, ?_⟩
  · intro event hevent
    rw [hsequence]
    exact h.bound event (hperm.mem_iff.mp hevent)
  · intro event hevent
    rw [hseen]
    exact h.known event (hperm.mem_iff.mp hevent)

theorem enqueue (h : queue.Sound claimed) (event : TradingEvent) (internal : Bool) :
    (Stateful.finalState (SerialEventQueue.enqueue event internal queue)).Sound claimed := by
  have hspec := SerialEventQueue.enqueue_spec queue event internal
  generalize SerialEventQueue.enqueue event internal queue = result at hspec ⊢
  cases hspec with
  | duplicate => exact h
  | full => exact h
  | refused _ hnew =>
      refine ⟨h.numbers, fun other hother => Nat.lt_succ_of_lt (h.bound other hother), ?_⟩
      intro other hother hmarket
      obtain ⟨id, hid, hseen⟩ := h.known other hother hmarket
      refine ⟨id, hid, ?_⟩
      by_cases hsome : (event.withQueueIdentity queue.nextSequence).market.isSome
      · simpa [remember, hsome] using hseen
      · simp [remember, hsome, hseen]
  | accepted queued hnew hqueued =>
      have hmem : ∀ other, other ∈ (queue.pending ++ [queued]) ++ claimed.toList →
          other ∈ queue.pending ++ claimed.toList ∨ other = queued := by
        intro other hother
        simp only [List.mem_append, List.mem_singleton] at hother ⊢
        tauto
      refine ⟨?_, ?_, ?_⟩
      · show (((queue.pending ++ [queued]) ++ claimed.toList).map (·.sequenceNumber)).Nodup
        have hperm : ((queue.pending ++ [queued]) ++ claimed.toList).Perm
            (queued :: (queue.pending ++ claimed.toList)) := by
          rw [List.append_assoc]
          exact List.perm_middle
        rw [(hperm.map _).nodup_iff, List.map_cons, List.nodup_cons]
        refine ⟨?_, h.numbers⟩
        intro hnumber
        obtain ⟨other, hother, heq⟩ := List.mem_map.mp hnumber
        have hlt := h.bound other hother
        rw [heq, hqueued.sequenceNumber] at hlt
        exact absurd hlt (lt_irrefl _)
      · intro other hother
        show other.sequenceNumber < queue.nextSequence + 1
        rcases hmem other hother with hother | rfl
        · exact Nat.lt_succ_of_lt (h.bound other hother)
        · rw [hqueued.sequenceNumber]
          exact Nat.lt_succ_self _
      · intro other hother hmarket
        rcases hmem other hother with hother | rfl
        · obtain ⟨id, hid, hseen⟩ := h.known other hother hmarket
          refine ⟨id, hid, ?_⟩
          by_cases hsome : (event.withQueueIdentity queue.nextSequence).market.isSome
          · simpa [push, remember, hsome] using hseen
          · simp [push, remember, hsome, hseen]
        · obtain ⟨id, hid⟩ := Option.isSome_iff_exists.mp
            (TradingEvent.withQueueIdentity_eventId_isSome event queue.nextSequence)
          have hnone : (event.withQueueIdentity queue.nextSequence).market.isSome = false := by
            have hevent : event.market = none := hqueued.market.symm.trans hmarket
            simpa [TradingEvent.withQueueIdentity] using hevent
          exact ⟨id, hqueued.eventId.trans hid, by simp [push, remember, hnone, hid]⟩

theorem claim (h : queue.Sound none) (hevent : event ∈ queue.pending) :
    (SerialEventQueue.claim event queue).Sound (some event) := by
  refine h.perm ?_ rfl rfl
  simp only [SerialEventQueue.claim, Option.toList_some, Option.toList_none, List.append_nil]
  exact (List.perm_append_singleton event _).trans (List.perm_cons_erase hevent).symm

theorem pop {answer : Option TradingEvent} (h : queue.Sound none)
    (hpop : SerialEventQueue.pop queue = .ok answer next) : next.Sound answer := by
  rcases SerialEventQueue.pop_run queue with ⟨-, -, hrun⟩ | ⟨event, hevent, -, -, hrun⟩
  · rw [hrun] at hpop
    cases hpop
    exact h
  · rw [hrun] at hpop
    cases hpop
    exact h.claim hevent

theorem finish (h : queue.Sound claimed) : queue.Sound none :=
  h.mono (by simp) rfl rfl rfl

theorem restore (h : queue.Sound (some event)) :
    (Stateful.finalState (SerialEventQueue.restoreClaimed event queue)).Sound none := by
  rcases SerialEventQueue.restoreClaimed_run queue event with ⟨error, hrun⟩ | hrun
  · rw [hrun]
    exact h.finish
  · rw [hrun]
    exact h.perm (by simp [push]) rfl rfl

end SerialEventQueue.Sound

/-- Every queue of a processor is sound. -/
theorem ReachableQueue.sound {queue : SerialEventQueue} {claimed : Option TradingEvent}
    (h : ReachableQueue queue claimed) : queue.Sound claimed := by
  induction h with
  | start => exact ⟨List.nodup_nil, by simp, by simp⟩
  | enqueue event internal _ ih => exact ih.enqueue event internal
  | pop _ hpop ih => exact ih.pop hpop
  | finish _ ih => exact ih.finish
  | restore _ ih => exact ih.restore
  | discardMarketWork _ ih =>
      exact ih.mono (List.Sublist.append_right List.filter_sublist _) rfl rfl rfl
  | clear _ ih => exact ih.mono (List.Sublist.append_right (List.nil_sublist _) _) rfl rfl rfl

/-! ## The controller -/

/-- What the controller reads and writes while it processes one event. -/
structure EventController where
  queue : SerialEventQueue
  stm : TradingStateConfiguration
  context : TradingContext
  positionEnteredAt : Option Timestamp := none
  marketSnapshotVersion : ℕ := 0
  latestMarketEvaluationVersion : ℕ := 0
  preparationRetryIntent : Option String := none
  sessionRecoveryWaitingEvaluation : Option ℕ := none
  sessionRecoveryLatestEvaluation : Option MarketEvaluationSnapshot := none
  /-- The times the clock will show. -/
  clock : ℕ → Timestamp
  ticks : ℕ := 0

abbrev EventControllerM := EStateM TradingError EventController

namespace EventController

/-- `self._clock()`. -/
def readClock : EventControllerM Timestamp := do
  let controller ← get
  modify fun controller => { controller with ticks := controller.ticks + 1 }
  pure (controller.clock controller.ticks)

/-- A method of the queue. -/
def onQueue {α : Type} (call : QueueM α) : EventControllerM α := fun controller =>
  match call controller.queue with
  | .ok answer queue => .ok answer { controller with queue }
  | .error error queue => .error error { controller with queue }

/-! ### Elapsed times -/

/-- `_calculate_non_negative_elapsed`. -/
def calculateNonNegativeElapsed (evaluationTime : Timestamp) (startedAt : Option Timestamp)
    (fieldName : String) : Except TradingError { elapsed : Duration // 0 ≤ elapsed } :=
  match startedAt with
  | none => .ok ⟨0, le_refl 0⟩
  | some startedAt =>
      if h : 0 ≤ evaluationTime - startedAt then .ok ⟨evaluationTime - startedAt, h⟩
      else .error (.valueError (fieldName ++ " must not be later than evaluation_time"))

/-- `_enrich_market_evaluation_elapsed`: a position entered after the evaluation has been
held for no time. -/
def enrichMarketEvaluationElapsed (controller : EventController)
    (market : MarketEvaluationSnapshot) (evaluationTime : Timestamp) :
    Except TradingError MarketEvaluationSnapshot := do
  let runtime := controller.context.runtime
  let signal ← calculateNonNegativeElapsed evaluationTime runtime.signalTime "signal_time"
  let timer ← calculateNonNegativeElapsed evaluationTime runtime.timerBaseTime "timer_base_time"
  .ok { market with
    holdingElapsed := max 0 ((controller.positionEnteredAt.map (evaluationTime - ·)).getD 0)
    signalElapsed := signal.val
    caseCTimerElapsed := timer.val
    holding_nonneg := le_max_left _ _
    signal_nonneg := signal.property
    case_c_timer_nonneg := timer.property }

/-- `self._context.update_market(self._enrich_market_evaluation_elapsed(…))`. -/
def updateContextMarket (market : MarketEvaluationSnapshot) (evaluationTime : Timestamp) :
    EventControllerM PUnit := do
  let controller ← get
  let enriched ← Stateful.raising
    (controller.enrichMarketEvaluationElapsed market evaluationTime)
  modify fun controller =>
    { controller with context := controller.context.updateMarket enriched }

/-! ### A preparation that is retried -/

/-- The strategy whose entry a retry event tries again. -/
def retryStrategy : TradingEventType → Option StrategyType
  | .caseBBuyRetry => some .caseB
  | .caseCBuyRetry => some .caseC
  | _ => none

/-- The event retries the order whose preparation has not been submitted. -/
def retriedPreparation (controller : EventController) (event : TradingEvent) :
    Option StrategyType :=
  if controller.preparationRetryIntent.isSome ∧
      controller.context.runtime.pendingIntentId = controller.preparationRetryIntent then
    retryStrategy event.eventType
  else none

/-- The entry conditions of a strategy still hold. -/
def signalHolds (strategy : StrategyType) (view : TradingContextView) : Bool :=
  let runtime := view.runtime
  if runtime.positionOwner.isSome || runtime.pendingOrderId.isSome then false
  else match strategy with
    | .caseB =>
        runtime.signalCreated && !runtime.caseBEntryPaused && conditionMet .bSignalAge view &&
          conditionMet .bPullback view
    | .caseC =>
        runtime.allowNewCaseCSetup && !runtime.caseCConsumedForEvent &&
          runtime.flushLow.isSome && runtime.timerBaseTime.isSome &&
          conditionMet .cRecoveryWindow view && conditionMet .cRebound view &&
          conditionMet .cEntryLimit view && conditionUnmet .cRecovery view &&
          conditionUnmet .cNewLow view

/-- `_preparation_signal_valid`. -/
def preparationSignalValid (strategy : StrategyType) : EventControllerM Bool := do
  let now ← readClock
  let controller ← get
  updateContextMarket controller.context.market now
  let evaluatedAt ← readClock
  let controller ← get
  pure (signalHolds strategy (controller.context.view evaluatedAt))

/-- The event that takes the place of an expired retry. -/
def preparationExpiredEvent (controller : EventController) (strategy : StrategyType)
    (now : Timestamp) : TradingEvent where
  eventType := .orderPreparationExpired
  occurredAt := now
  priority := .orderOutcome
  eventId := some (controller.preparationRetryIntent.getD "None" ++ ":preparation-expired")
  lowerEventId := controller.context.runtime.lowerEventId
  payload := some (.preparationExpired strategy)

/-- `_expire_order_preparation`. -/
def expireOrderPreparation (strategy : StrategyType) : EventControllerM TradingEvent := do
  let controller ← get
  modify fun controller => { controller with preparationRetryIntent := none }
  let now ← readClock
  pure (controller.preparationExpiredEvent strategy now)

/-! ### Preparation -/

/-- The evaluation that stands for an outcome while a recovery waits for a new one. -/
def waitingEvaluation (controller : EventController) : Option MarketEvaluationSnapshot :=
  if controller.sessionRecoveryWaitingEvaluation.isSome then
    controller.sessionRecoveryLatestEvaluation
  else none

/-- An event without an evaluation keeps its identity; the elapsed times are renewed. -/
def prepareWithoutEvaluation (event : TradingEvent) : EventControllerM TradingEvent := do
  let controller ← get
  match controller.waitingEvaluation with
  | some latest => do
      let now ← readClock
      updateContextMarket latest now
      pure event
  | none =>
      if 0 < controller.latestMarketEvaluationVersion then do
        updateContextMarket controller.context.market event.occurredAt
        pure event
      else pure event

/-- The market event as it is decided on. -/
def preparedEvent (controller : EventController) (event : TradingEvent)
    (observation : MarketObservation) (enriched : MarketEvaluationSnapshot)
    (hmarket : event.market = some observation) : TradingEvent :=
  { event with
    eventType := .marketDataUpdated
    lowerEventId := controller.context.runtime.lowerEventId
    candleId := enriched.current30mCandleId
    market := some { observation with evaluation := enriched }
    market_priority := fun _ => event.market_priority (by simp [hmarket]) }

/-- An event with an evaluation: its version must be new. -/
def prepareMarketEvent (event : TradingEvent) (observation : MarketObservation)
    (hmarket : event.market = some observation) : EventControllerM TradingEvent := do
  let controller ← get
  Stateful.raising (Except.require (observation.version ≤ controller.marketSnapshotVersion)
    (.valueError "market event version cannot exceed the authoritative snapshot"))
  Stateful.raising (Except.require
    (controller.latestMarketEvaluationVersion < observation.version)
    (.valueError "market event versions must be processed in strictly increasing order"))
  let enriched ← Stateful.raising
    (controller.enrichMarketEvaluationElapsed observation.evaluation event.occurredAt)
  modify fun controller =>
    { controller with
      context := controller.context.updateMarket enriched
      latestMarketEvaluationVersion := observation.version
      ticks := controller.ticks + 1 }
  pure (controller.preparedEvent event observation enriched hmarket)

/-- Preparation of an event that is not replaced. -/
def prepareContext (event : TradingEvent) : EventControllerM TradingEvent :=
  match h : event.market with
  | none => prepareWithoutEvaluation event
  | some observation => prepareMarketEvent event observation h

/-- `_prepare_market_event_context`. -/
def prepareMarketEventContext (event : TradingEvent) : EventControllerM TradingEvent := do
  let controller ← get
  match controller.retriedPreparation event with
  | none => prepareContext event
  | some strategy => do
      let valid ← preparationSignalValid strategy
      if valid then prepareContext event else expireOrderPreparation strategy

/-! ### One event -/

/-- The events that concern no lower event. -/
def isSessionEvent : TradingEventType → Bool
  | .logicStarted | .stopConfirmed | .forceSellFinished | .forceSellFailed => true
  | _ => false

/-- `_is_stale_lower_event`. -/
def isStaleLowerEvent (event : TradingEvent) (view : TradingContextView) : Bool :=
  !isSessionEvent event.eventType && event.lowerEventId.isSome &&
    view.runtime.lowerEventId.isSome && event.lowerEventId != view.runtime.lowerEventId

/-- A decision of the state machine that is not published yet. -/
structure Decision where
  claimed : TradingEvent
  prepared : TradingEvent
  result : TradingSTMResult

/-- `stm.handle` or `stm.order_finished`: the machine takes the decided state. -/
def commitDecision (claimed prepared : TradingEvent) (view : TradingContextView) :
    EventControllerM (Option Decision) := do
  let controller ← get
  let result ← Stateful.raising (handle controller.stm prepared view)
  modify fun controller => { controller with stm := result.stateAfter }
  pure (some { claimed, prepared, result })

/-- The claimed event is prepared and decided on, unless it is stale. -/
def decideClaimed (claimed : TradingEvent) : EventControllerM (Option Decision) := do
  let prepared ← prepareMarketEventContext claimed
  let evaluatedAt ← readClock
  let controller ← get
  if isStaleLowerEvent prepared (controller.context.view evaluatedAt) then pure none
  else commitDecision claimed prepared (controller.context.view evaluatedAt)

/-- `process_next` up to the decision. -/
def decideNext : EventControllerM (Option Decision) := do
  match ← onQueue SerialEventQueue.pop with
  | none => pure none
  | some claimed => decideClaimed claimed

/-- `rollback_unpublished_result`. -/
def rollbackUnpublishedResult (result : TradingSTMResult) : EventControllerM PUnit := do
  let controller ← get
  Stateful.raising (Except.require (controller.stm = result.stateAfter)
    (.runtimeError "Only the latest unpublished TradingSTM result can be rolled back"))
  modify fun controller => { controller with stm := result.stateBefore }

/-- `ContextVersionError`. -/
def contextVersionError : TradingError :=
  .runtimeError "Context changed between snapshot creation and action execution"

/-- The version check before a decision is published. -/
def publishDecision (decision : Decision) : EventControllerM (Option Decision) := do
  let controller ← get
  if controller.context.version ≠ decision.result.contextVersion then do
    rollbackUnpublishedResult decision.result
    onQueue (SerialEventQueue.restoreClaimed decision.prepared)
    throw contextVersionError
  else pure (some decision)

/-- `process_next` up to the publication; the context may change between the decision and
the check. -/
def processNext (race : TradingContext → TradingContext) : EventControllerM (Option Decision) := do
  match ← decideNext with
  | none => pure none
  | some decision => do
      modify fun controller => { controller with context := race controller.context }
      publishDecision decision

end EventController

end Trading
