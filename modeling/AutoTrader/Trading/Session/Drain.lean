import AutoTrader.Support.ControlFlow
import AutoTrader.Trading.Session.EventProcessor

/-!
# Draining the queue

`RunToCompletionEventProcessor` of `domain/trading/event_queue.py` with any callbacks:
`process_next` with the whole action batch, and `drain`.

* `QueueLedger` — a queue with what became of its events.
* `Callback` — a callback may do anything to the world behind it, and uses the queue
  through its public methods only.
* `EventProcessor.processNext`, `EventProcessor.drain`.
* `EventProcessor.DrainsOrReports` — what a caller of `drain` relies on.
* `EventProcessor.drainsOrReports_iff` — it holds unless the last allowed step is the one
  that empties the queue.
-/

namespace Trading

/-! ## What becomes of the events -/

/-- A queue, the events it accepted, those the processor claimed, and those its users threw
away. -/
structure QueueLedger where
  queue : SerialEventQueue := {}
  accepted : List TradingEvent := []
  claimed : List TradingEvent := []
  dropped : List TradingEvent := []

abbrev LedgerM := EStateM TradingError QueueLedger

/-- A use of the queue by a callback. -/
inductive QueueUse where
  | enqueue (event : TradingEvent) (internal : Bool)
  | pop
  | restoreClaimed (event : TradingEvent)
  | discardMarketWork
  | clear

namespace QueueLedger

/-- A method of the queue, and the entry its answer makes. -/
def onQueue {α : Type} (call : QueueM α) (entry : α → QueueLedger → QueueLedger) : LedgerM α :=
  fun ledger =>
    match call ledger.queue with
    | .ok answer queue => .ok answer (entry answer { ledger with queue })
    | .error error queue => .error error { ledger with queue }

/-- `queue.enqueue(event, internal=internal)`. -/
def enqueue (event : TradingEvent) (internal : Bool) : LedgerM (Option TradingEvent) :=
  onQueue (SerialEventQueue.enqueue event internal) fun answer ledger =>
    { ledger with accepted := ledger.accepted ++ answer.toList }

/-- `queue.pop()` of the processor. -/
def claim : LedgerM (Option TradingEvent) :=
  onQueue SerialEventQueue.pop fun answer ledger =>
    { ledger with claimed := ledger.claimed ++ answer.toList }

/-- `queue.restore_claimed(event)`. -/
def restoreClaimed (event : TradingEvent) : LedgerM PUnit :=
  onQueue (SerialEventQueue.restoreClaimed event) fun _ ledger => ledger

/-- The queue without events that its users threw away. -/
def drop (next : SerialEventQueue) (ledger : QueueLedger) : QueueLedger :=
  { ledger with
    queue := next
    dropped := ledger.dropped ++ ledger.queue.pending.filter (· ∉ next.pending) }

/-- The ledger after a use by a callback; what a callback pops is thrown away. -/
def use (ledger : QueueLedger) : QueueUse → QueueLedger
  | .enqueue event internal => Stateful.finalState (enqueue event internal ledger)
  | .pop =>
      Stateful.finalState (onQueue SerialEventQueue.pop
        (fun answer ledger => { ledger with dropped := ledger.dropped ++ answer.toList }) ledger)
  | .restoreClaimed event => Stateful.finalState (restoreClaimed event ledger)
  | .discardMarketWork => ledger.drop ledger.queue.discardMarketWork
  | .clear => ledger.drop ledger.queue.clear

/-- One ledger comes from the other by uses of callbacks. -/
def Uses : QueueLedger → QueueLedger → Prop :=
  Relation.ReflTransGen fun before after => ∃ use, after = before.use use

/-- What came to the ledger, and that the events that are not gone wait in their order. -/
structure Advances (before after : QueueLedger) (accepted claimed dropped : List TradingEvent) :
    Prop where
  accepted_eq : after.accepted = before.accepted ++ accepted
  claimed_eq : after.claimed = before.claimed ++ claimed
  dropped_eq : after.dropped = before.dropped ++ dropped
  remaining : ((before.queue.pending ++ accepted).filter (· ∉ claimed ++ dropped)).Sublist
    after.queue.pending

variable {before middle after ledger : QueueLedger}
  {accepted claimed dropped accepted' claimed' dropped' : List TradingEvent}

theorem Advances.refl (ledger : QueueLedger) : ledger.Advances ledger [] [] [] :=
  ⟨by simp, by simp, by simp, by simp⟩

theorem Advances.trans (h : before.Advances middle accepted claimed dropped)
    (h' : middle.Advances after accepted' claimed' dropped') :
    before.Advances after (accepted ++ accepted') (claimed ++ claimed') (dropped ++ dropped') where
  accepted_eq := by rw [h'.accepted_eq, h.accepted_eq, List.append_assoc]
  claimed_eq := by rw [h'.claimed_eq, h.claimed_eq, List.append_assoc]
  dropped_eq := by rw [h'.dropped_eq, h.dropped_eq, List.append_assoc]
  remaining := by
    have hsplit : ∀ events : List TradingEvent,
        events.filter (· ∉ claimed ++ claimed' ++ (dropped ++ dropped')) =
          (events.filter (· ∉ claimed ++ dropped)).filter (· ∉ claimed' ++ dropped') := by
      intro events
      rw [List.filter_filter]
      refine List.filter_congr fun event _ => ?_
      simp only [List.mem_append, decide_not, ← Bool.not_or, ← Bool.decide_or]
      congr 1
      simp only [decide_eq_decide]
      tauto
    have hcame : before.queue.pending ++ (accepted ++ accepted') =
        (before.queue.pending ++ accepted) ++ accepted' := (List.append_assoc _ _ _).symm
    rw [hcame, List.filter_append, hsplit, hsplit accepted']
    refine List.Sublist.trans ?_ h'.remaining
    rw [List.filter_append middle.queue.pending]
    exact (h.remaining.filter _).append (List.filter_sublist.filter _)

/-- The processor claimed nothing. -/
def Keeps (before after : QueueLedger) : Prop :=
  ∃ accepted dropped, before.Advances after accepted [] dropped

theorem Keeps.refl (ledger : QueueLedger) : ledger.Keeps ledger := ⟨[], [], .refl ledger⟩

theorem Keeps.trans (h : before.Keeps middle) (h' : middle.Keeps after) : before.Keeps after := by
  obtain ⟨accepted, dropped, h⟩ := h
  obtain ⟨accepted', dropped', h'⟩ := h'
  exact ⟨_, _, h.trans h'⟩

/-! ### The methods of the queue -/

/-- The ledgers that a call of `enqueue` leaves. -/
theorem keeps_enqueue (ledger : QueueLedger) (event : TradingEvent) (internal : Bool) :
    ledger.Keeps (Stateful.finalState (enqueue event internal ledger)) := by
  unfold enqueue onQueue
  have hspec := SerialEventQueue.enqueue_spec ledger.queue event internal
  generalize SerialEventQueue.enqueue event internal ledger.queue = result at hspec ⊢
  cases hspec with
  | duplicate => exact ⟨[], [], by simp, by simp, by simp, by simp⟩
  | full => exact ⟨[], [], by simp, by simp, by simp, by simp⟩
  | refused =>
      refine ⟨[], [], by simp, by simp, by simp, ?_⟩
      simp [SerialEventQueue.remember]
  | accepted queued =>
      refine ⟨[queued], [], by simp, by simp, by simp, ?_⟩
      simp [SerialEventQueue.push, SerialEventQueue.remember]

theorem keeps_restoreClaimed (ledger : QueueLedger) (event : TradingEvent) :
    ledger.Keeps (Stateful.finalState (restoreClaimed event ledger)) := by
  unfold restoreClaimed onQueue
  rcases SerialEventQueue.restoreClaimed_run ledger.queue event with ⟨error, hrun⟩ | hrun
  · rw [hrun]
    exact ⟨[], [], by simp, by simp, by simp, by simp⟩
  · rw [hrun]
    refine ⟨[], [], by simp, by simp, by simp, ?_⟩
    simp [SerialEventQueue.push]

/-- What is left when one event is gone. -/
theorem filter_sublist_erase (events : List TradingEvent) (event : TradingEvent) :
    (events.filter (· ∉ [event])).Sublist (events.erase event) := by
  induction events with
  | nil => exact List.Sublist.refl _
  | cons first rest ih =>
      by_cases heq : first = event
      · subst heq
        simp
      · rw [List.erase_cons_tail (by simpa using heq), List.filter_cons_of_pos (by simpa using heq)]
        exact ih.cons_cons first

/-- A call of `pop`: one event is gone, or nothing waits. -/
theorem pop_cases (queue : SerialEventQueue) :
    (queue.pending = [] ∧ SerialEventQueue.pop queue = .ok none queue) ∨
      ∃ event next, SerialEventQueue.pop queue = .ok (some event) next ∧
        (queue.pending.filter (· ∉ [event])).Sublist next.pending := by
  rcases SerialEventQueue.pop_run queue with ⟨-, hempty, hrun⟩ | ⟨event, -, -, -, hrun⟩
  · exact .inl ⟨hempty, hrun⟩
  · exact .inr ⟨event, _, hrun, filter_sublist_erase queue.pending event⟩

theorem keeps_drop {next : SerialEventQueue} {keep : TradingEvent → Bool}
    (hnext : next.pending = ledger.queue.pending.filter keep) :
    ledger.Keeps (ledger.drop next) := by
  refine ⟨[], ledger.queue.pending.filter (· ∉ next.pending), by simp [drop], by simp [drop],
    by simp [drop], ?_⟩
  simp only [drop, List.append_nil, List.nil_append]
  conv_rhs => rw [hnext]
  have hkeep : ∀ event ∈ ledger.queue.pending,
      decide (event ∉ ledger.queue.pending.filter (· ∉ next.pending)) = keep event := by
    intro event hevent
    simp [hnext, hevent]
  rw [List.filter_congr hkeep]

theorem keeps_use (ledger : QueueLedger) (use : QueueUse) : ledger.Keeps (ledger.use use) := by
  cases use with
  | enqueue event internal => exact keeps_enqueue ledger event internal
  | pop =>
      unfold QueueLedger.use onQueue
      rcases pop_cases ledger.queue with ⟨-, hrun⟩ | ⟨event, next, hrun, hrest⟩
      · rw [hrun]
        exact ⟨[], [], by simp, by simp, by simp, by simp⟩
      · rw [hrun]
        exact ⟨[], [event], by simp, by simp, by simp, by simpa using hrest⟩
  | restoreClaimed event => exact keeps_restoreClaimed ledger event
  | discardMarketWork => exact keeps_drop rfl
  | clear =>
      have hnone : ledger.queue.clear.pending =
          ledger.queue.pending.filter fun _ => false := by simp [SerialEventQueue.clear]
      exact keeps_drop hnone

theorem Uses.keeps (h : before.Uses after) : before.Keeps after := by
  induction h with
  | refl => exact .refl before
  | tail _ huse ih =>
      obtain ⟨use, rfl⟩ := huse
      exact ih.trans (keeps_use _ use)

/-- A claim takes one event, or nothing waits. -/
theorem claim_cases (ledger : QueueLedger) :
    claim ledger = .ok none ledger ∨
      ∃ event next, claim ledger = .ok (some event) next ∧ ledger.Advances next [] [event] [] := by
  unfold claim onQueue
  rcases pop_cases ledger.queue with ⟨-, hrun⟩ | ⟨event, next, hrun, hrest⟩
  · rw [hrun]
    exact .inl (by simp)
  · rw [hrun]
    exact .inr ⟨event, _, rfl, by simp, by simp, by simp, by simpa using hrest⟩

end QueueLedger

/-! ## The processor -/

/-- A callback that the session registers: it may read and write the world behind it, and
it uses the queue through its public methods. -/
structure Callback (World α : Type) where
  call : EStateM TradingError (QueueLedger × World) α
  uses_queue : ∀ s : QueueLedger × World, s.1.Uses (Stateful.finalState (call s)).1

/-- The callbacks of `__init__`. -/
structure EventCallbacks (World : Type) where
  contextProvider : Callback World TradingContextView
  actionExecutor : TradingActionRequest → Callback World (Option (List TradingEvent))
  clock : Callback World Timestamp
  orderFinishedObserver : Option (TradingEvent → TradingContextView → Callback World PUnit) := none
  eventProcessingObserver : Option (Option TradingEvent → Callback World PUnit) := none
  eventContextPreparer : Option (TradingEvent → Callback World TradingEvent) := none
  resultObserver : Option (TradingSTMResult → TradingContextView → Callback World PUnit) := none

/-- `RunToCompletionEventProcessor`, and the world behind its callbacks. -/
structure EventProcessor (World : Type) where
  ledger : QueueLedger := {}
  stm : TradingStateConfiguration := .notStarted
  processing : Bool := false
  world : World

abbrev EventProcessorM (World : Type) := EStateM TradingError (EventProcessor World)

/-- `stm.order_finished`. -/
def orderFinished (state : TradingStateConfiguration) (event : TradingEvent)
    (context : TradingContextView) : Except TradingError TradingSTMResult := do
  Except.require (event.eventType.isOrderFinished = true)
    (.valueError "order_finished() requires a concrete normalized order outcome event")
  handle state event context

/-- The event that a request of the machine asks for. -/
def followUpEvent (request : QueueEvent) (latest : TradingContextView) (event : TradingEvent)
    (now : Timestamp) : TradingEvent where
  eventType := request.eventType
  occurredAt := now
  priority := .internal
  lowerEventId :=
    orElse (orElse request.lowerEventId latest.runtime.lowerEventId) event.lowerEventId
  candleId := request.candleId
  orderId := request.orderId
  payload := request.payload

/-- The follow-up event that an action asks for. -/
def queueEventRequest : TradingActionRequest → Option QueueEvent
  | .queueEvent request => some request
  | _ => none

namespace EventProcessor

variable {World : Type}

/-- The queue has no waiting event: `len(self._queue) == 0`. -/
def isIdle (processor : EventProcessor World) : Bool := processor.ledger.queue.pending.isEmpty

/-- A call of a callback. -/
def onCallback {α : Type} (callback : Callback World α) : EventProcessorM World α :=
  fun processor =>
    match callback.call (processor.ledger, processor.world) with
    | .ok answer (ledger, world) => .ok answer { processor with ledger, world }
    | .error error (ledger, world) => .error error { processor with ledger, world }

/-- A call of an observer, if there is one. -/
def observe : Option (Callback World PUnit) → EventProcessorM World PUnit
  | none => pure ⟨⟩
  | some observer => onCallback observer

/-- A method of the queue. -/
def onLedger {α : Type} (call : LedgerM α) : EventProcessorM World α := fun processor =>
  match call processor.ledger with
  | .ok answer ledger => .ok answer { processor with ledger }
  | .error error ledger => .error error { processor with ledger }

variable (callbacks : EventCallbacks World)

/-- The claimed event as its preparer returns it. -/
def prepareEvent (event : TradingEvent) : EventProcessorM World TradingEvent :=
  match callbacks.eventContextPreparer with
  | none => pure event
  | some preparer => onCallback (preparer event)

/-- `stm.order_finished` for an order outcome, `stm.handle` else. -/
def decideEvent (event : TradingEvent) (context : TradingContextView) :
    EventProcessorM World TradingSTMResult := do
  let processor ← get
  let result ← Stateful.raising
    (if event.eventType.isOrderFinished then orderFinished processor.stm event context
      else handle processor.stm event context)
  modify fun processor => { processor with stm := result.stateAfter }
  pure result

/-- `stm.rollback_unpublished_result`. -/
def rollbackUnpublishedResult (result : TradingSTMResult) : EventProcessorM World PUnit := do
  let processor ← get
  Stateful.raising (Except.require (processor.stm = result.stateAfter)
    (.runtimeError "Only the latest unpublished TradingSTM result can be rolled back"))
  modify fun processor => { processor with stm := result.stateBefore }

/-- The check that the context is still the one of the decision. -/
def checkContextVersion (event : TradingEvent) (result : TradingSTMResult) :
    EventProcessorM World PUnit := do
  let latest ← onCallback callbacks.contextProvider
  if latest.version ≠ result.contextVersion then do
    rollbackUnpublishedResult result
    onLedger (QueueLedger.restoreClaimed event)
    throw EventController.contextVersionError
  else pure ⟨⟩

/-- The action batch: the follow-up events it asks for, and those that its actions return. -/
def executeActions : List TradingActionRequest → List QueueEvent → List TradingEvent →
    EventProcessorM World (List QueueEvent × List TradingEvent)
  | [], queued, returned => pure (queued, returned)
  | action :: rest, queued, returned => do
      let actionResult ← onCallback (callbacks.actionExecutor action)
      executeActions rest (queued ++ (queueEventRequest action).toList)
        (returned ++ actionResult.getD [])

/-- The follow-up events enter the queue before every external one. -/
def enqueueRequests (latest : TradingContextView) (event : TradingEvent) :
    List QueueEvent → EventProcessorM World PUnit
  | [] => pure ⟨⟩
  | request :: rest => do
      let now ← onCallback callbacks.clock
      let _ ← onLedger (QueueLedger.enqueue (followUpEvent request latest event now) true)
      enqueueRequests latest event rest

/-- So do the events that the actions returned. -/
def enqueueReturned : List TradingEvent → EventProcessorM World PUnit
  | [] => pure ⟨⟩
  | event :: rest => do
      let _ ← onLedger (QueueLedger.enqueue event true)
      enqueueReturned rest

/-- A published decision: the batch, the follow-up events and the observers. -/
def runBatch (event : TradingEvent) (context : TradingContextView) (result : TradingSTMResult) :
    EventProcessorM World PUnit := do
  let (queued, returned) ← executeActions callbacks result.actionRequests [] []
  let latest ← onCallback callbacks.contextProvider
  enqueueRequests callbacks latest event queued
  enqueueReturned returned
  observe (callbacks.resultObserver.map (· result context))

/-- The event is decided on, and its batch is run. -/
def decideAndRun (event : TradingEvent) (context : TradingContextView) :
    EventProcessorM World (Option TradingSTMResult) := do
  observe (callbacks.eventProcessingObserver.map (· (some event)))
  let result ← decideEvent event context
  checkContextVersion callbacks event result
  if event.eventType.isOrderFinished then
    observe (callbacks.orderFinishedObserver.map (· event context))
  runBatch callbacks event context result
  pure (some result)

/-- A claimed event; one of a lower event that was replaced has no result. -/
def processClaimed (claimed : TradingEvent) : EventProcessorM World (Option TradingSTMResult) := do
  let event ← prepareEvent callbacks claimed
  let context ← onCallback callbacks.contextProvider
  if EventController.isStaleLowerEvent event context then pure none
  else decideAndRun callbacks event context

/-- The end of `process_next`, after a result and after an exception. -/
def finishProcessing : EventProcessorM World PUnit := do
  modify fun processor => { processor with processing := false }
  observe (callbacks.eventProcessingObserver.map (· none))

/-- `process_next`. -/
def processNext : EventProcessorM World (Option TradingSTMResult) := do
  let processor ← get
  if processor.processing then throw (.runtimeError "Event processing cannot be recursive")
  else do
    match ← onLedger QueueLedger.claim with
    | none => pure none
    | some event => do
        modify fun processor => { processor with processing := true }
        tryFinally (processClaimed callbacks event) (finishProcessing callbacks)

/-- The exception of a drain that used up its steps. -/
def limitError : TradingError := .runtimeError "Event queue exceeded max_microsteps"

/-- `drain`. -/
def drain (maxMicrosteps : ℕ) : EventProcessorM World (List TradingSTMResult) := do
  match ← Stateful.boundedLoop isIdle (processNext callbacks) maxMicrosteps [] with
  | some results => pure results
  | none => throw limitError

/-! ### What the steps do to the queue -/

variable {callbacks} {α : Type}

/-- Nothing was claimed, and what is not gone waits. -/
def Keeps (before after : EventProcessor World) : Prop := before.ledger.Keeps after.ledger

theorem Keeps.trans {first second third : EventProcessor World} (h : Keeps first second)
    (h' : Keeps second third) : Keeps first third :=
  QueueLedger.Keeps.trans h h'

theorem keeps_bind {β : Type} {x : EventProcessorM World α} {f : α → EventProcessorM World β}
    (hx : Stateful.Relates Keeps x) (hf : ∀ a, Stateful.Relates Keeps (f a)) :
    Stateful.Relates Keeps (x >>= f) :=
  Stateful.Relates.bind (R := Keeps) Keeps.trans hx hf

theorem keeps_pure (a : α) : Stateful.Relates Keeps (pure a : EventProcessorM World α) :=
  fun processor => QueueLedger.Keeps.refl processor.ledger

theorem keeps_get : Stateful.Relates Keeps (get : EventProcessorM World (EventProcessor World)) :=
  fun processor => QueueLedger.Keeps.refl processor.ledger

theorem keeps_throw (error : TradingError) :
    Stateful.Relates Keeps (throw error : EventProcessorM World α) :=
  fun processor => QueueLedger.Keeps.refl processor.ledger

theorem keeps_raising (value : Except TradingError α) :
    Stateful.Relates Keeps (Stateful.raising value : EventProcessorM World α) := by
  intro processor
  cases value <;> exact QueueLedger.Keeps.refl processor.ledger

theorem keeps_modify {f : EventProcessor World → EventProcessor World}
    (hf : ∀ processor, (f processor).ledger = processor.ledger) :
    Stateful.Relates Keeps (modify f : EventProcessorM World PUnit) := by
  intro processor
  show processor.ledger.Keeps (f processor).ledger
  rw [hf]
  exact QueueLedger.Keeps.refl _

theorem keeps_onCallback (callback : Callback World α) :
    Stateful.Relates Keeps (onCallback callback) := by
  intro processor
  have huses := callback.uses_queue (processor.ledger, processor.world)
  unfold onCallback
  cases h : callback.call (processor.ledger, processor.world) with
  | ok answer s =>
      rw [h] at huses
      exact huses.keeps
  | error error s =>
      rw [h] at huses
      exact huses.keeps

theorem keeps_observe (observer : Option (Callback World PUnit)) :
    Stateful.Relates Keeps (observe observer) := by
  cases observer with
  | none => exact keeps_pure PUnit.unit
  | some observer => exact keeps_onCallback observer

theorem keeps_onLedger {call : LedgerM α}
    (hcall : ∀ ledger : QueueLedger, ledger.Keeps (Stateful.finalState (call ledger))) :
    Stateful.Relates Keeps (onLedger call : EventProcessorM World α) := by
  intro processor
  have hkeeps := hcall processor.ledger
  unfold onLedger
  cases h : call processor.ledger with
  | ok answer ledger =>
      rw [h] at hkeeps
      exact hkeeps
  | error error ledger =>
      rw [h] at hkeeps
      exact hkeeps

theorem keeps_prepareEvent (event : TradingEvent) :
    Stateful.Relates Keeps (prepareEvent callbacks event) := by
  unfold prepareEvent
  cases callbacks.eventContextPreparer with
  | none => exact keeps_pure event
  | some preparer => exact keeps_onCallback _

theorem keeps_decideEvent (event : TradingEvent) (context : TradingContextView) :
    Stateful.Relates Keeps (decideEvent event context : EventProcessorM World _) := by
  unfold decideEvent
  refine keeps_bind keeps_get fun processor => ?_
  refine keeps_bind (keeps_raising _) fun result => ?_
  exact keeps_bind (keeps_modify fun _ => rfl) fun _ => keeps_pure result

theorem keeps_rollbackUnpublishedResult (result : TradingSTMResult) :
    Stateful.Relates Keeps (rollbackUnpublishedResult result : EventProcessorM World _) := by
  unfold rollbackUnpublishedResult
  refine keeps_bind keeps_get fun processor => ?_
  exact keeps_bind (keeps_raising _) fun _ => keeps_modify fun _ => rfl

theorem keeps_checkContextVersion (event : TradingEvent) (result : TradingSTMResult) :
    Stateful.Relates Keeps (checkContextVersion callbacks event result) := by
  unfold checkContextVersion
  refine keeps_bind (keeps_onCallback _) fun latest => ?_
  split
  · refine keeps_bind (keeps_rollbackUnpublishedResult result) fun _ => ?_
    refine keeps_bind (keeps_onLedger fun ledger => ?_) fun _ => keeps_throw _
    exact QueueLedger.keeps_restoreClaimed ledger event
  · exact keeps_pure _

theorem keeps_executeActions (actions : List TradingActionRequest) (queued : List QueueEvent)
    (returned : List TradingEvent) :
    Stateful.Relates Keeps (executeActions callbacks actions queued returned) := by
  induction actions generalizing queued returned with
  | nil => exact keeps_pure (queued, returned)
  | cons action rest ih =>
      exact keeps_bind (keeps_onCallback _) fun actionResult => ih _ _

theorem keeps_enqueueRequests (latest : TradingContextView) (event : TradingEvent)
    (requests : List QueueEvent) :
    Stateful.Relates Keeps (enqueueRequests callbacks latest event requests) := by
  induction requests with
  | nil => exact keeps_pure PUnit.unit
  | cons request rest ih =>
      refine keeps_bind (keeps_onCallback _) fun now => ?_
      exact keeps_bind (keeps_onLedger fun ledger =>
        QueueLedger.keeps_enqueue ledger _ true) fun _ => ih

theorem keeps_enqueueReturned (events : List TradingEvent) :
    Stateful.Relates Keeps (enqueueReturned events : EventProcessorM World _) := by
  induction events with
  | nil => exact keeps_pure PUnit.unit
  | cons event rest ih =>
      exact keeps_bind (keeps_onLedger fun ledger =>
        QueueLedger.keeps_enqueue ledger event true) fun _ => ih

theorem keeps_runBatch (event : TradingEvent) (context : TradingContextView)
    (result : TradingSTMResult) :
    Stateful.Relates Keeps (runBatch callbacks event context result) := by
  unfold runBatch
  refine keeps_bind (keeps_executeActions _ _ _) fun batch => ?_
  refine keeps_bind (keeps_onCallback _) fun latest => ?_
  refine keeps_bind (keeps_enqueueRequests latest event batch.1) fun _ => ?_
  exact keeps_bind (keeps_enqueueReturned batch.2) fun _ => keeps_observe _

theorem keeps_decideAndRun (event : TradingEvent) (context : TradingContextView) :
    Stateful.Relates Keeps (decideAndRun callbacks event context) := by
  unfold decideAndRun
  refine keeps_bind (keeps_observe _) fun _ => ?_
  refine keeps_bind (keeps_decideEvent event context) fun result => ?_
  refine keeps_bind (keeps_checkContextVersion event result) fun _ => ?_
  have hrest : Stateful.Relates Keeps (do
      runBatch callbacks event context result
      pure (some result)) :=
    keeps_bind (keeps_runBatch event context result) fun _ => keeps_pure _
  split
  · exact keeps_bind (keeps_observe _) fun _ => hrest
  · exact hrest

theorem keeps_processClaimed (claimed : TradingEvent) :
    Stateful.Relates Keeps (processClaimed callbacks claimed) := by
  unfold processClaimed
  refine keeps_bind (keeps_prepareEvent claimed) fun event => ?_
  refine keeps_bind (keeps_onCallback _) fun context => ?_
  split
  · exact keeps_pure none
  · exact keeps_decideAndRun event context

theorem keeps_finishProcessing :
    Stateful.Relates Keeps (finishProcessing callbacks) := by
  unfold finishProcessing
  exact keeps_bind (keeps_modify fun _ => rfl) fun _ => keeps_observe _

theorem keeps_processAndFinish (event : TradingEvent) : Stateful.Relates Keeps
    (tryFinally (processClaimed callbacks event) (finishProcessing callbacks)) :=
  Stateful.Relates.tryFinally (R := Keeps) Keeps.trans (keeps_processClaimed event)
    keeps_finishProcessing

/-- A call of `process_next` claims at most one event; the others that its callbacks do not
throw away go on waiting in their order. -/
theorem processNext_advances (processor : EventProcessor World) :
    ∃ accepted claimed dropped, claimed.length ≤ 1 ∧
      processor.ledger.Advances
        (Stateful.finalState (processNext callbacks processor)).ledger accepted claimed
        dropped := by
  unfold processNext
  rw [Stateful.bind_run, Stateful.get_run]
  dsimp only
  split
  · exact ⟨[], [], [], Nat.zero_le 1, .refl _⟩
  · rw [Stateful.bind_run]
    unfold onLedger
    rcases QueueLedger.claim_cases processor.ledger with hrun | ⟨event, next, hrun, hadvances⟩
    · rw [hrun]
      exact ⟨[], [], [], Nat.zero_le 1, .refl _⟩
    · rw [hrun]
      have hkeeps := @keeps_processAndFinish World callbacks event
        { processor with ledger := next, processing := true }
      obtain ⟨accepted, dropped, hrest⟩ := hkeeps
      exact ⟨_, _, _, le_refl 1, hadvances.trans hrest⟩

/-- A callback leaves the flag alone. -/
theorem onCallback_processing (callback : Callback World α) (processor : EventProcessor World) :
    (Stateful.finalState (onCallback callback processor)).processing = processor.processing := by
  unfold onCallback
  cases callback.call (processor.ledger, processor.world) <;> rfl

/-- A call that raises does not stand in the way of the next one. -/
theorem processNext_processing {processor : EventProcessor World}
    (h : processor.processing = false) :
    (Stateful.finalState (processNext callbacks processor)).processing = false := by
  have hfinish : ∀ middle : EventProcessor World,
      (Stateful.finalState (finishProcessing callbacks middle)).processing = false := by
    intro middle
    unfold finishProcessing
    rw [Stateful.bind_run, Stateful.modify_run]
    cases callbacks.eventProcessingObserver with
    | none => rfl
    | some observer => exact onCallback_processing (observer none) _
  unfold processNext
  rw [Stateful.bind_run, Stateful.get_run]
  simp only [h, Bool.false_eq_true, if_false, Stateful.bind_run]
  unfold onLedger
  rcases QueueLedger.claim_cases processor.ledger with hrun | ⟨event, next, hrun, -⟩
  · rw [hrun]
    exact h
  · rw [hrun]
    have hfinal := @Stateful.finalState_tryFinally _ _ _ _ (processClaimed callbacks event)
      (finishProcessing callbacks) { processor with ledger := next, processing := true }
    exact (congrArg EventProcessor.processing hfinal).trans (hfinish _)

/-! ## Draining -/

section Draining

variable (callbacks) (maxMicrosteps : ℕ) (before : EventProcessor World)

/-- So many events are processed one after the other, with the results in their order. -/
abbrev Processes : ℕ → EventProcessor World → List TradingSTMResult → EventProcessor World →
    Prop :=
  Stateful.Steps isIdle (processNext callbacks)

/-- What a caller of `drain` relies on: it returns exactly when no event is left after at
most `maxMicrosteps` processed events; what it raises comes out of a step, or events are
left after `maxMicrosteps` of them; and the events that were not processed wait in their
order. -/
structure DrainsOrReports : Prop where
  returns : ∀ results after, drain callbacks maxMicrosteps before = .ok results after ↔
    ∃ count ≤ maxMicrosteps, Processes callbacks count before results after ∧
      after.ledger.queue.pending = []
  raises : ∀ error after, drain callbacks maxMicrosteps before = .error error after →
    (∃ count < maxMicrosteps, ∃ results last, Processes callbacks count before results last ∧
      last.ledger.queue.pending ≠ [] ∧ processNext callbacks last = .error error after) ∨
    (error = limitError ∧ (∃ results, Processes callbacks maxMicrosteps before results after) ∧
      after.ledger.queue.pending ≠ [])
  remaining : ∃ accepted claimed dropped, claimed.length ≤ maxMicrosteps ∧
    before.ledger.Advances
      (Stateful.finalState (drain callbacks maxMicrosteps before)).ledger accepted claimed dropped

/-- The last allowed step is the one that empties the queue. -/
def EmptiedByLastStep : Prop :=
  ∃ results after, Processes callbacks maxMicrosteps before results after ∧
    after.ledger.queue.pending = []

variable {callbacks} {maxMicrosteps} {before}

theorem isIdle_iff {processor : EventProcessor World} :
    processor.isIdle = true ↔ processor.ledger.queue.pending = [] := List.isEmpty_iff

theorem isIdle_eq_false_iff {processor : EventProcessor World} :
    processor.isIdle = false ↔ processor.ledger.queue.pending ≠ [] := by
  rw [← Bool.not_eq_true, isIdle_iff]

/-- Processed events were claimed one a step. -/
theorem Processes.advances {count : ℕ} {results : List TradingSTMResult}
    {after : EventProcessor World} (h : Processes callbacks count before results after) :
    ∃ accepted claimed dropped, claimed.length ≤ count ∧
      before.ledger.Advances after.ledger accepted claimed dropped := by
  induction h with
  | zero => exact ⟨[], [], [], le_refl 0, .refl _⟩
  | @succ count first second third answer answers hbusy hstep _ ih =>
      obtain ⟨accepted, claimed, dropped, hcount, hfirst⟩ :=
        @processNext_advances World callbacks first
      rw [hstep] at hfirst
      obtain ⟨accepted', claimed', dropped', hcount', hrest⟩ := ih
      refine ⟨_, _, _, ?_, hfirst.trans hrest⟩
      rw [List.length_append]
      omega

/-- How `drain` ends: it returns, it runs out of steps, or a step raises. -/
theorem drain_cases :
    (∃ count < maxMicrosteps, ∃ results after, Processes callbacks count before results after ∧
        after.ledger.queue.pending = [] ∧
        drain callbacks maxMicrosteps before = .ok results after) ∨
      (∃ results after, Processes callbacks maxMicrosteps before results after ∧
        drain callbacks maxMicrosteps before = .error limitError after) ∨
      ∃ count < maxMicrosteps, ∃ results last error after,
        Processes callbacks count before results last ∧ last.ledger.queue.pending ≠ [] ∧
        processNext callbacks last = .error error after ∧
        drain callbacks maxMicrosteps before = .error error after := by
  unfold drain
  rw [Stateful.bind_run]
  cases hloop : Stateful.boundedLoop isIdle (processNext callbacks) maxMicrosteps [] before with
  | ok answer after =>
      cases answer with
      | some results =>
          obtain ⟨count, hcount, _, rfl, hsteps, hidle⟩ :=
            Stateful.boundedLoop_eq_some_iff.mp hloop
          exact .inl ⟨count, hcount, _, after, hsteps, isIdle_iff.mp hidle, rfl⟩
      | none =>
          obtain ⟨results, hsteps⟩ := Stateful.boundedLoop_eq_none_iff.mp hloop
          exact .inr (.inl ⟨results, after, hsteps, rfl⟩)
  | error error after =>
      obtain ⟨count, hcount, results, last, hsteps, hbusy, herror⟩ :=
        Stateful.boundedLoop_eq_error_iff.mp hloop
      exact .inr (.inr ⟨count, hcount, results, last, error, after, hsteps,
        isIdle_eq_false_iff.mp hbusy, herror, rfl⟩)

/-- Whatever its end, `drain` claims at most `maxMicrosteps` events, and the others wait in
their order. -/
theorem drain_advances : ∃ accepted claimed dropped, claimed.length ≤ maxMicrosteps ∧
    before.ledger.Advances
      (Stateful.finalState (drain callbacks maxMicrosteps before)).ledger accepted claimed
      dropped := by
  rcases @drain_cases World callbacks maxMicrosteps before with
    ⟨count, hcount, results, after, hsteps, -, hdrain⟩ | ⟨results, after, hsteps, hdrain⟩ |
      ⟨count, hcount, results, last, error, after, hsteps, -, herror, hdrain⟩
  · rw [hdrain]
    obtain ⟨accepted, claimed, dropped, hclaimed, hadvances⟩ := hsteps.advances
    exact ⟨accepted, claimed, dropped, by omega, hadvances⟩
  · rw [hdrain]
    exact hsteps.advances
  · rw [hdrain]
    obtain ⟨accepted, claimed, dropped, hclaimed, hadvances⟩ := hsteps.advances
    obtain ⟨accepted', claimed', dropped', hclaimed', hadvances'⟩ :=
      @processNext_advances World callbacks last
    rw [herror] at hadvances'
    refine ⟨_, _, _, ?_, hadvances.trans hadvances'⟩
    rw [List.length_append]
    omega

/-- A caller of `drain` gets what it relies on unless the last allowed step is the one that
empties the queue: no test of the queue follows that step. -/
theorem drainsOrReports_iff : DrainsOrReports callbacks maxMicrosteps before ↔
    ¬ EmptiedByLastStep callbacks maxMicrosteps before := by
  constructor
  · rintro h ⟨results, after, hsteps, hempty⟩
    have hreturns := (h.returns results after).mpr ⟨maxMicrosteps, le_refl _, hsteps, hempty⟩
    obtain hloop : Stateful.boundedLoop isIdle (processNext callbacks) maxMicrosteps [] before =
        .ok none after := Stateful.boundedLoop_eq_none_iff.mpr ⟨results, hsteps⟩
    unfold drain at hreturns
    rw [Stateful.bind_run, hloop] at hreturns
    cases hreturns
  · intro hlast
    refine ⟨fun results after => ⟨fun hdrain => ?_, ?_⟩, fun error after hdrain => ?_,
      drain_advances⟩
    · rcases @drain_cases World callbacks maxMicrosteps before with
        ⟨count, hcount, results', after', hsteps, hempty, hrun⟩ | ⟨_, _, _, hrun⟩ |
          ⟨_, _, _, _, _, _, _, _, _, hrun⟩
      · rw [hrun] at hdrain
        cases hdrain
        exact ⟨count, hcount.le, hsteps, hempty⟩
      · rw [hrun] at hdrain
        cases hdrain
      · rw [hrun] at hdrain
        cases hdrain
    · rintro ⟨count, hcount, hsteps, hempty⟩
      have hlt : count < maxMicrosteps := by
        refine lt_of_le_of_ne hcount fun heq => hlast ?_
        subst heq
        exact ⟨results, after, hsteps, hempty⟩
      unfold drain
      rw [Stateful.bind_run, Stateful.boundedLoop_eq_some_iff.mpr
        ⟨count, hlt, results, rfl, hsteps, isIdle_iff.mpr hempty⟩]
      rfl
    · rcases @drain_cases World callbacks maxMicrosteps before with
        ⟨_, _, _, _, _, _, hrun⟩ | ⟨results, after', hsteps, hrun⟩ |
          ⟨count, hcount, results, last, error', after', hsteps, hbusy, herror, hrun⟩
      · rw [hrun] at hdrain
        cases hdrain
      · rw [hrun] at hdrain
        cases hdrain
        exact .inr ⟨rfl, ⟨results, hsteps⟩, fun hempty => hlast ⟨results, after, hsteps, hempty⟩⟩
      · rw [hrun] at hdrain
        cases hdrain
        exact .inl ⟨count, hcount, results, last, hsteps, hbusy, herror⟩

end Draining

/-! ### A queue of one event -/

/-- A callback that only answers. -/
def answering {α : Type} (answer : α) : Callback World α where
  call := pure answer
  uses_queue := fun _ => .refl

/-- A session without effects. -/
def quietCallbacks : EventCallbacks Unit where
  contextProvider := answering (({} : TradingContext).view 0)
  actionExecutor := fun _ => answering none
  clock := answering 0

/-- A new processor with one waiting event. -/
def oneEvent : EventProcessor Unit where
  ledger := Stateful.finalState
    (QueueLedger.enqueue { eventType := .marketDataUpdated, occurredAt := 0 } false {})
  world := ()

/-- The only event is processed in the only allowed step, and the drain raises. -/
theorem drain_oneEvent_raises :
    (∃ after, drain quietCallbacks 1 oneEvent = .error limitError after ∧
      after.ledger.queue.pending = []) ∧ ¬ DrainsOrReports quietCallbacks 1 oneEvent := by
  have hrun : ∃ after, drain quietCallbacks 1 oneEvent = .error limitError after ∧
      after.ledger.queue.pending = [] := ⟨_, rfl, rfl⟩
  refine ⟨hrun, fun h => ?_⟩
  obtain ⟨after, hdrain, hempty⟩ := hrun
  rcases h.raises limitError after hdrain with
    ⟨count, hcount, results, last, hsteps, -, herror⟩ | ⟨-, -, hpending⟩
  · obtain rfl : count = 0 := by omega
    obtain ⟨-, rfl⟩ := Stateful.Steps.zero_iff.mp hsteps
    have hok : Stateful.returned (processNext quietCallbacks oneEvent) = true := rfl
    rw [herror] at hok
    cases hok
  · exact hpending hempty

end EventProcessor

end Trading
