import AutoTrader.Support.Except
import AutoTrader.Support.State
import AutoTrader.Trading.Actions

/-!
# The event queue and the scheduler

`SerialEventQueue` of `domain/trading/event_queue.py` and `_EventDrivenScheduler` of the
controller.

* `SerialEventQueue.enqueue` — duplicates are dropped, a market evaluation by its version
  and every other event by its ID; an accepted event gets the next sequence number.
* `SerialEventQueue.pop` — the waiting event with the smallest priority, and of those the
  one that came first.
* `SerialEventQueue.restoreClaimed` — a claimed event whose actions never ran waits again.
* `SerialEventQueue.discardMarketWork`, `SerialEventQueue.clear` — what a market
  interruption and a STOP drop.
* `EventDrivenScheduler` — one-shot entries; `release` turns the due ones into events.
-/

namespace Trading

/-! ## Order outcomes -/

/-- Membership in `_ORDER_FINISHED_EVENT_TYPES`. -/
def TradingEventType.isOrderFinished : TradingEventType → Bool
  | .caseBPositionOpened | .caseBBuyFailed | .caseBSellFilled | .caseBSellFailed
  | .caseCPositionOpened | .caseCBuyFailed | .caseCSellFilled | .caseCSellFailed
  | .forceSellFinished | .forceSellFailed => true
  | _ => false

/-! ## The queue -/

/-- The queue of a session: `pending` are the events that wait, in the order they came. -/
structure SerialEventQueue where
  pending : List TradingEvent := []
  nextSequence : ℕ := 1
  seenEventIds : List String := []
  highestMarketVersion : ℕ := 0
  lastClaimedMarketEvent : Option TradingEvent := none
  maxPendingEvents : ℕ := 10000
  maxSeenEventIds : ℕ := 100000

/-- A method of the queue. -/
abbrev QueueM := EStateM TradingError SerialEventQueue

namespace SerialEventQueue

/-- The event was accepted before: an evaluation that is not newer than the newest one,
or a known event ID. -/
def isDuplicate (queue : SerialEventQueue) (event : TradingEvent) : Bool :=
  event.market.any (fun market => decide (market.version ≤ queue.highestMarketVersion)) ||
    decide (∃ id ∈ event.eventId, id ∈ queue.seenEventIds)

/-- The bounds on waiting events and on known IDs. -/
def checkCapacity (queue : SerialEventQueue) (event : TradingEvent) : Except TradingError Unit := do
  Except.require (queue.pending.length < queue.maxPendingEvents)
    (.runtimeError "Pending event capacity was reached")
  Except.require (event.market.isSome ∨ queue.seenEventIds.length < queue.maxSeenEventIds)
    (.runtimeError "Event identity capacity was reached")

/-- What the queue remembers of an event it takes: an evaluation by its version, every
other event by its ID. -/
def remember (event : TradingEvent) (queue : SerialEventQueue) : SerialEventQueue :=
  { queue with
    nextSequence := queue.nextSequence + 1
    highestMarketVersion := (event.market.map (·.version)).getD queue.highestMarketVersion
    seenEventIds :=
      if event.market.isSome then queue.seenEventIds
      else event.eventId.toList ++ queue.seenEventIds }

/-- The event as it waits; an evaluation cannot take internal priority. -/
def queuedEvent (event : TradingEvent) (internal : Bool) : Except TradingError TradingEvent :=
  if internal then
    if h : event.market = none then
      .ok { event with priority := .internal, market_priority := by simp [h] }
    else .error (.valueError "market evaluation requires MARKET priority")
  else .ok event

/-- The queue with one more waiting event. -/
def push (event : TradingEvent) (queue : SerialEventQueue) : SerialEventQueue :=
  { queue with pending := queue.pending ++ [event] }

/-- `enqueue`: the event as it waits, or nothing for a duplicate. -/
def enqueue (event : TradingEvent) (internal : Bool := false) : QueueM (Option TradingEvent) := do
  let queue ← get
  if queue.isDuplicate (event.withQueueIdentity queue.nextSequence) then pure none
  else do
    Stateful.raising (queue.checkCapacity event)
    modify (remember (event.withQueueIdentity queue.nextSequence))
    let queued ← Stateful.raising
      (queuedEvent (event.withQueueIdentity queue.nextSequence) internal)
    modify (push queued)
    pure (some queued)

/-- The order events are processed in: by priority, then by sequence number. -/
def rank (event : TradingEvent) : ℕ ×ₗ ℕ := toLex (event.priority.value, event.sequenceNumber)

/-- The waiting event that is processed next. -/
def least (queue : SerialEventQueue) : Option TradingEvent := queue.pending.argmin rank

/-- The queue after an event was claimed. -/
def claim (event : TradingEvent) (queue : SerialEventQueue) : SerialEventQueue :=
  { queue with
    pending := queue.pending.erase event
    lastClaimedMarketEvent := if event.market.isSome then some event else none }

/-- `pop`. -/
def pop : QueueM (Option TradingEvent) := do
  let queue ← get
  match queue.least with
  | none => pure none
  | some event => do
      modify (claim event)
      pure (some event)

/-- `restore_claimed`: an event whose actions never ran waits again. -/
def restoreClaimed (event : TradingEvent) : QueueM PUnit := do
  let queue ← get
  Stateful.raising (Except.require
    (some event = queue.lastClaimedMarketEvent ∨ ∃ id ∈ event.eventId, id ∈ queue.seenEventIds)
    (.valueError "Only a previously accepted event can be restored"))
  Stateful.raising (Except.require (∀ other ∈ queue.pending, other.eventId ≠ event.eventId)
    (.valueError "Claimed event is already queued"))
  modify (push event)

/-- `discard_market_work`: order outcomes and user commands stay. -/
def discardMarketWork (queue : SerialEventQueue) : SerialEventQueue :=
  { queue with
    pending := queue.pending.filter fun event =>
      event.eventType.isOrderFinished || event.priority == .userCommand }

/-- `clear`. -/
def clear (queue : SerialEventQueue) : SerialEventQueue := { queue with pending := [] }

/-! ### What the operations do -/

variable {queue next : SerialEventQueue} {event queued : TradingEvent} {internal : Bool}

/-- What an accepted event keeps, and what it gets. -/
structure QueuedAs (queue : SerialEventQueue) (event : TradingEvent) (internal : Bool)
    (queued : TradingEvent) : Prop where
  sequenceNumber : queued.sequenceNumber = queue.nextSequence
  eventId : queued.eventId = (event.withQueueIdentity queue.nextSequence).eventId
  eventType : queued.eventType = event.eventType
  occurredAt : queued.occurredAt = event.occurredAt
  lowerEventId : queued.lowerEventId = event.lowerEventId
  payload : queued.payload = event.payload
  market : queued.market = event.market
  priority : queued.priority = if internal then .internal else event.priority

theorem queuedEvent_eq_ok
    (h : queuedEvent (event.withQueueIdentity queue.nextSequence) internal = .ok queued) :
    QueuedAs queue event internal queued := by
  unfold queuedEvent at h
  split at h
  · rename_i hinternal
    split at h
    · cases h
      exact ⟨rfl, rfl, rfl, rfl, rfl, rfl, rfl, by rw [if_pos hinternal]⟩
    · cases h
  · rename_i hinternal
    cases h
    exact ⟨rfl, rfl, rfl, rfl, rfl, rfl, rfl, by rw [if_neg hinternal]; rfl⟩

/-- What a call of `enqueue` does: it accepts a new event at the end, drops a duplicate,
or raises, in which case no event waits that did not wait before. -/
inductive EnqueueSpec (queue : SerialEventQueue) (event : TradingEvent) (internal : Bool) :
    EStateM.Result TradingError SerialEventQueue (Option TradingEvent) → Prop
  | duplicate (h : queue.isDuplicate (event.withQueueIdentity queue.nextSequence) = true) :
      EnqueueSpec queue event internal (.ok none queue)
  | full (error : TradingError) : EnqueueSpec queue event internal (.error error queue)
  | refused (error : TradingError)
      (h : queue.isDuplicate (event.withQueueIdentity queue.nextSequence) = false) :
      EnqueueSpec queue event internal
        (.error error (remember (event.withQueueIdentity queue.nextSequence) queue))
  | accepted (queued : TradingEvent)
      (h : queue.isDuplicate (event.withQueueIdentity queue.nextSequence) = false)
      (hqueued : QueuedAs queue event internal queued) :
      EnqueueSpec queue event internal
        (.ok (some queued)
          (push queued (remember (event.withQueueIdentity queue.nextSequence) queue)))

theorem enqueue_spec (queue : SerialEventQueue) (event : TradingEvent) (internal : Bool) :
    EnqueueSpec queue event internal (enqueue event internal queue) := by
  unfold enqueue
  rw [Stateful.bind_run, Stateful.get_run]
  by_cases hdup : queue.isDuplicate (event.withQueueIdentity queue.nextSequence) = true
  · simp only [hdup, if_true, Stateful.pure_run]
    exact .duplicate hdup
  · simp only [hdup]
    have hnew := Bool.eq_false_of_not_eq_true hdup
    cases hcapacity : queue.checkCapacity event with
    | error error => exact .full error
    | ok u =>
        cases hqueued : queuedEvent (event.withQueueIdentity queue.nextSequence) internal with
        | error error => exact .refused error hnew
        | ok queued => exact .accepted queued hnew (queuedEvent_eq_ok hqueued)

/-- A call of `pop` claims the least event, or finds nothing waiting. -/
theorem pop_run (queue : SerialEventQueue) :
    (queue.least = none ∧ queue.pending = [] ∧ pop queue = .ok none queue) ∨
      ∃ event ∈ queue.pending, queue.least = some event ∧
        (∀ other ∈ queue.pending, rank event ≤ rank other) ∧
        pop queue = .ok (some event) (claim event queue) := by
  unfold pop
  rw [Stateful.bind_run, Stateful.get_run]
  cases hleast : queue.least with
  | none => exact .inl ⟨rfl, List.argmin_eq_none.mp hleast, by simp only [hleast]; rfl⟩
  | some event =>
      exact .inr ⟨event, List.argmin_mem hleast, rfl,
        fun other hother => List.le_of_mem_argmin hother hleast, by simp only [hleast]; rfl⟩

/-- The queue handed the event out before. -/
def Knows (queue : SerialEventQueue) (event : TradingEvent) : Prop :=
  some event = queue.lastClaimedMarketEvent ∨ ∃ id ∈ event.eventId, id ∈ queue.seenEventIds

/-- No waiting event has the identity of this one. -/
def Lacks (queue : SerialEventQueue) (event : TradingEvent) : Prop :=
  ∀ other ∈ queue.pending, other.eventId ≠ event.eventId

/-- A call of `restoreClaimed` lets a known event wait again if no waiting event has its
identity, and raises else, which changes nothing. -/
theorem restoreClaimed_cases (queue : SerialEventQueue) (event : TradingEvent) :
    (¬ (queue.Knows event ∧ queue.Lacks event) ∧
      ∃ message, restoreClaimed event queue = .error (.valueError message) queue) ∨
    (queue.Knows event ∧ queue.Lacks event ∧
      restoreClaimed event queue = .ok ⟨⟩ (push event queue)) := by
  unfold restoreClaimed Knows Lacks
  rw [Stateful.bind_run, Stateful.get_run]
  by_cases hknown : some event = queue.lastClaimedMarketEvent ∨
      ∃ id ∈ event.eventId, id ∈ queue.seenEventIds
  · by_cases hqueued : ∀ other ∈ queue.pending, other.eventId ≠ event.eventId
    · refine .inr ⟨hknown, hqueued, ?_⟩
      simp only [Except.require, if_pos hknown, if_pos hqueued]
      rfl
    · refine .inl ⟨fun h => hqueued h.2, "Claimed event is already queued", ?_⟩
      simp only [Except.require, if_pos hknown, if_neg hqueued]
      rfl
  · refine .inl ⟨fun h => hknown h.1, "Only a previously accepted event can be restored", ?_⟩
    simp only [Except.require, if_neg hknown]
    rfl

/-- A call of `restoreClaimed` lets the event wait again, or raises and changes nothing. -/
theorem restoreClaimed_run (queue : SerialEventQueue) (event : TradingEvent) :
    (∃ error, restoreClaimed event queue = .error error queue) ∨
      restoreClaimed event queue = .ok ⟨⟩ (push event queue) := by
  rcases restoreClaimed_cases queue event with ⟨-, message, hrun⟩ | ⟨-, -, hrun⟩
  · exact .inl ⟨_, hrun⟩
  · exact .inr hrun

end SerialEventQueue

/-! ## The scheduler -/

structure ScheduledEvaluation where
  action : ScheduleReevaluation
  dueAt : Timestamp
  deriving DecidableEq

abbrev EventDrivenScheduler := List ScheduledEvaluation

namespace EventDrivenScheduler

/-- The entry waits for the same event of the same scope. -/
def sameScope (action : ScheduleReevaluation) (item : ScheduledEvaluation) : Bool :=
  item.action.eventType == action.eventType && item.action.trigger == action.trigger &&
    item.action.lowerEventId == action.lowerEventId

/-- `schedule`: an entry for the same event and scope is replaced. -/
def schedule (scheduler : EventDrivenScheduler) (action : ScheduleReevaluation)
    (now : Timestamp) : EventDrivenScheduler :=
  (scheduler.filter fun item => !sameScope action item) ++
    [{ action, dueAt := now + action.earliestDelay.getD 0 }]

/-- `cancel`: the scope `lower-event` keeps what belongs to no lower event, every other
scope drops everything. -/
def cancel (scheduler : EventDrivenScheduler) (scope : String) : EventDrivenScheduler :=
  if scope = "lower-event" then scheduler.filter fun item => item.action.lowerEventId.isNone
  else []

/-- The trigger wakes the entry at this time. -/
def isDue (trigger : ReevaluationTrigger) (now : Timestamp) (item : ScheduledEvaluation) : Bool :=
  (item.action.trigger == trigger ||
      (item.action.trigger == .deadlineOrMarketChange && trigger == .marketChange)) &&
    decide (item.dueAt ≤ now)

/-- The event of a released entry. -/
def releasedEvent (now : Timestamp) (item : ScheduledEvaluation) : TradingEvent where
  eventType := item.action.eventType
  occurredAt := now
  lowerEventId := item.action.lowerEventId

/-- `release`: the events of the due entries, and the entries that go on waiting. -/
def release (scheduler : EventDrivenScheduler) (trigger : ReevaluationTrigger) (now : Timestamp) :
    List TradingEvent × EventDrivenScheduler :=
  ((scheduler.filter (isDue trigger now)).map (releasedEvent now),
    scheduler.filter fun item => !isDue trigger now item)

end EventDrivenScheduler

end Trading
