import AutoTrader.Trading.GlobalRows

/-!
# What a batch of action requests may ask for

Three regions, a global layer and event rewriting run in one microstep, and many
transitions request orders.  This file states what the batches they build look like.

* `PlainChange`, `Plain` — what a request that creates no order may do: it releases
  pending fields but never sets them, and takes times only from the event and the
  evaluation.
* `OrderShape` — a batch of plain requests with at most one order among them: an entry,
  an exit or a forced sale.
* `Reserves` — a patch that reserves exactly one order in the runtime.
* `handleGlobalTransition_shape` — the batches of the global layer.
-/

namespace Trading

/-! ## Plain requests -/

/-- What a plain patch may write: it never sets the owner or a pending field, it takes
times from the event, its candle or the evaluation, and it never writes the reason of a
finished exit. -/
def PlainChange (event : TradingEvent) (context : TradingContextView) :
    RuntimeFieldChange → Prop
  | ⟨.positionOwner, v⟩ => v = none
  | ⟨.pendingStrategy, v⟩ => v = none
  | ⟨.pendingOrderSide, v⟩ => v = none
  | ⟨.pendingOrderId, v⟩ => v = none
  | ⟨.pendingOrderAttemptKind, v⟩ => v = none
  | ⟨.pendingIntentId, v⟩ => v = none
  | ⟨.pendingExitReason, v⟩ => v = none
  | ⟨.pendingExitPctB, v⟩ => v = none
  | ⟨.pendingReturnState, v⟩ => v = none
  | ⟨.signalTime, v⟩ =>
      v = some (context.market.confirmed30mCloseTime.getD event.occurredAt)
  | ⟨.flushLowTime, v⟩ => v = none ∨ v = some context.evaluatedAt
  | ⟨.timerBaseTime, v⟩ => v = none ∨ v = some context.evaluatedAt
  | ⟨.caseBExitReason, _⟩ => False
  | ⟨.caseCExitReason, v⟩ => v = none
  | ⟨.caseCExitPctB, v⟩ => v = none
  | _ => True

/-- A request that creates no order. -/
def Plain (event : TradingEvent) (context : TradingContextView) : TradingActionRequest → Prop
  | .patchRuntimeContext changes => ∀ change ∈ changes, PlainChange event context change
  | .openLowerEvent action => action = createOpenLowerEventAction event context
  | .submitOrder _ => False
  | .forceSellAll _ _ => False
  | _ => True

/-- A batch of plain requests. -/
def AllPlain (event : TradingEvent) (context : TradingContextView)
    (actions : List TradingActionRequest) : Prop :=
  ∀ action ∈ actions, Plain event context action

variable {context : TradingContextView} {event : TradingEvent} {state : TradingStateConfiguration}
variable {outcome : TransitionOutcome}

@[simp] theorem allPlain_nil : AllPlain event context [] := by simp [AllPlain]

@[simp] theorem allPlain_cons {action : TradingActionRequest}
    {actions : List TradingActionRequest} :
    AllPlain event context (action :: actions) ↔
      Plain event context action ∧ AllPlain event context actions := by
  simp [AllPlain]

@[simp] theorem allPlain_append {xs ys : List TradingActionRequest} :
    AllPlain event context (xs ++ ys) ↔
      AllPlain event context xs ∧ AllPlain event context ys := by
  simp only [AllPlain, List.mem_append]
  exact ⟨fun h => ⟨fun a ha => h a (.inl ha), fun a ha => h a (.inr ha)⟩,
    fun h a ha => ha.elim (h.1 a) (h.2 a)⟩

section Requests

variable (text : String) (b c : Bool) (id : Option String) (eventType : TradingEventType)

@[simp] theorem plain_patch (changes : List RuntimeFieldChange) :
    Plain event context (patch changes) ↔
      ∀ change ∈ changes, PlainChange event context change := Iff.rfl

@[simp] theorem plain_openLowerEvent :
    Plain event context (.openLowerEvent (createOpenLowerEventAction event context)) := rfl

@[simp] theorem plain_closeLowerEvent : Plain event context (.closeLowerEvent text) := trivial

@[simp] theorem plain_resetCaseBContext : Plain event context (.resetCaseBContext b) := trivial

@[simp] theorem plain_resetCaseCContext : Plain event context (.resetCaseCContext b c) := trivial

@[simp] theorem plain_queueEvent (request : QueueEvent) :
    Plain event context (.queueEvent request) := trivial

@[simp] theorem plain_scheduleReevaluation (request : ScheduleReevaluation) :
    Plain event context (.scheduleReevaluation request) := trivial

@[simp] theorem plain_cancelScheduledEvaluation :
    Plain event context (.cancelScheduledEvaluation text) := trivial

@[simp] theorem plain_cancelPendingOrder :
    Plain event context (.cancelPendingOrder id text) := trivial

@[simp] theorem plain_stopTradingRuntime :
    Plain event context (.stopTradingRuntime text) := trivial

@[simp] theorem plain_reconcileOrder : Plain event context (.reconcileOrder text b) := trivial

@[simp] theorem plain_createQueueEventAction :
    Plain event context (createQueueEventAction eventType context) := trivial

@[simp] theorem plain_scheduleMarketReevaluation (trigger : ReevaluationTrigger)
    (delay : Option Duration) :
    Plain event context (scheduleMarketReevaluation eventType context text trigger delay) :=
  trivial

@[simp] theorem plain_createEntryRetryAction :
    Plain event context (createEntryRetryAction eventType context text) := trivial

@[simp] theorem plain_activateTradeManagement :
    Plain event context (activateTradeManagement event context) := trivial

@[simp] theorem plain_clearExitPatch : Plain event context clearExitPatch := by
  simp [clearExitPatch, PlainChange]

@[simp] theorem plain_clearAllPatch (phase : TradingPhase) :
    Plain event context (clearAllPatch phase) := by
  simp [clearAllPatch, PlainChange]

end Requests

/-- A plain request does not depend on the type under which a region sees the event. -/
theorem plain_withEventType {eventType : TradingEventType} {action : TradingActionRequest} :
    Plain { event with eventType := eventType } context action ↔ Plain event context action := by
  cases action <;> exact Iff.rfl

theorem allPlain_withEventType {eventType : TradingEventType}
    {actions : List TradingActionRequest} :
    AllPlain { event with eventType := eventType } context actions ↔
      AllPlain event context actions :=
  forall₂_congr fun _ _ => plain_withEventType

/-! ## Batches with an order -/

/-- What a batch may ask for on an event in a context. -/
inductive OrderShape (event : TradingEvent) (context : TradingContextView) :
    List TradingActionRequest → Prop
  /-- No order. -/
  | plain {actions : List TradingActionRequest} (h : AllPlain event context actions) :
      OrderShape event context actions
  /-- One entry order, with neither an order pending nor a position owned. -/
  | entry {before after : List TradingActionRequest} {strategy : StrategyType}
      {attemptKind : OrderAttemptKind}
      (hbefore : AllPlain event context before) (hafter : AllPlain event context after)
      (hpending : context.runtime.pendingOrderId = none)
      (howner : context.runtime.positionOwner = none) :
      OrderShape event context
        (before ++ (createEntryOrderActions strategy attemptKind event context ++ after))
  /-- One exit order with no order pending: a first one without an exit intent, or a
  retry of the pending exit intent. -/
  | exit {before after : List TradingActionRequest} {strategy : StrategyType}
      {reason : ExitReason} {returnState : PositionReturnState} {attemptKind : OrderAttemptKind}
      (hbefore : AllPlain event context before) (hafter : AllPlain event context after)
      (hpending : context.runtime.pendingOrderId = none)
      (hintent : (attemptKind = .initial ∧ context.runtime.pendingExitReason = none) ∨
        (attemptKind = .retry ∧ context.runtime.pendingExitReason = some reason ∧
          context.runtime.pendingReturnState = some returnState)) :
      OrderShape event context
        (before ++ (createExitOrderActions strategy reason returnState event context attemptKind ++
          after))
  /-- One forced sale with no order pending. -/
  | forceSell {before after : List TradingActionRequest} {retry useRetryPolicy : Bool}
      (hbefore : AllPlain event context before) (hafter : AllPlain event context after)
      (hpending : context.runtime.pendingOrderId = none) :
      OrderShape event context (before ++ (.forceSellAll retry useRetryPolicy :: after))

/-- Plain requests may come first. -/
theorem OrderShape.prepend {xs ys : List TradingActionRequest} (hxs : AllPlain event context xs)
    (hys : OrderShape event context ys) : OrderShape event context (xs ++ ys) := by
  cases hys with
  | plain h => exact .plain (allPlain_append.mpr ⟨hxs, h⟩)
  | entry hbefore hafter hpending howner =>
      rw [← List.append_assoc]
      exact .entry (allPlain_append.mpr ⟨hxs, hbefore⟩) hafter hpending howner
  | exit hbefore hafter hpending hintent =>
      rw [← List.append_assoc]
      exact .exit (allPlain_append.mpr ⟨hxs, hbefore⟩) hafter hpending hintent
  | forceSell hbefore hafter hpending =>
      rw [← List.append_assoc]
      exact .forceSell (allPlain_append.mpr ⟨hxs, hbefore⟩) hafter hpending

/-- Plain requests may come last. -/
theorem OrderShape.append {xs ys : List TradingActionRequest} (hxs : OrderShape event context xs)
    (hys : AllPlain event context ys) : OrderShape event context (xs ++ ys) := by
  cases hxs with
  | plain h => exact .plain (allPlain_append.mpr ⟨h, hys⟩)
  | entry hbefore hafter hpending howner =>
      rw [List.append_assoc, List.append_assoc]
      exact .entry hbefore (allPlain_append.mpr ⟨hafter, hys⟩) hpending howner
  | exit hbefore hafter hpending hintent =>
      rw [List.append_assoc, List.append_assoc]
      exact .exit hbefore (allPlain_append.mpr ⟨hafter, hys⟩) hpending hintent
  | forceSell hbefore hafter hpending =>
      rw [List.append_assoc, List.cons_append]
      exact .forceSell hbefore (allPlain_append.mpr ⟨hafter, hys⟩) hpending

/-- The shape does not depend on the type under which a region sees the event. -/
theorem OrderShape.of_withEventType {eventType : TradingEventType}
    {actions : List TradingActionRequest}
    (h : OrderShape { event with eventType := eventType } context actions) :
    OrderShape event context actions := by
  cases h with
  | plain h => exact .plain (allPlain_withEventType.mp h)
  | entry hbefore hafter hpending howner =>
      exact .entry (allPlain_withEventType.mp hbefore) (allPlain_withEventType.mp hafter)
        hpending howner
  | exit hbefore hafter hpending hintent =>
      exact .exit (allPlain_withEventType.mp hbefore) (allPlain_withEventType.mp hafter)
        hpending hintent
  | forceSell hbefore hafter hpending =>
      exact .forceSell (allPlain_withEventType.mp hbefore) (allPlain_withEventType.mp hafter)
        hpending

/-- An entry order alone. -/
theorem createEntryOrderActions_shape (strategy : StrategyType) (attemptKind : OrderAttemptKind)
    (hpending : context.runtime.pendingOrderId = none)
    (howner : context.runtime.positionOwner = none) :
    OrderShape event context (createEntryOrderActions strategy attemptKind event context) := by
  have h : OrderShape event context
      ([] ++ (createEntryOrderActions strategy attemptKind event context ++ [])) :=
    .entry allPlain_nil allPlain_nil hpending howner
  rwa [List.append_nil, List.nil_append] at h

/-- A first exit order alone. -/
theorem createExitOrderActions_shape_initial (strategy : StrategyType) (reason : ExitReason)
    (returnState : PositionReturnState) (hexit : canStartExit context = true) :
    OrderShape event context
      (createExitOrderActions strategy reason returnState event context .initial) := by
  simp only [canStartExit, Bool.and_eq_true, Option.isNone_iff_eq_none] at hexit
  have h : OrderShape event context
      ([] ++ (createExitOrderActions strategy reason returnState event context .initial ++ [])) :=
    .exit allPlain_nil allPlain_nil hexit.1 (.inl ⟨rfl, hexit.2⟩)
  rwa [List.append_nil, List.nil_append] at h

/-- A repeated exit order alone. -/
theorem createExitOrderActions_shape_retry (strategy : StrategyType) {reason : ExitReason}
    {returnState : PositionReturnState} (hpending : context.runtime.pendingOrderId = none)
    (hreason : context.runtime.pendingExitReason = some reason)
    (hreturn : context.runtime.pendingReturnState = some returnState) :
    OrderShape event context
      (createExitOrderActions strategy reason returnState event context .retry) := by
  have h : OrderShape event context
      ([] ++ (createExitOrderActions strategy reason returnState event context .retry ++ [])) :=
    .exit allPlain_nil allPlain_nil hpending (.inr ⟨rfl, hreason, hreturn⟩)
  rwa [List.append_nil, List.nil_append] at h

/-! ## Reservations -/

/-- The patch writes each field once, and reserves exactly this order: its strategy,
side, attempt kind and intent ID. -/
structure Reserves (changes : List RuntimeFieldChange) (order : SubmitOrder) : Prop where
  fields_nodup : (changes.map (·.field)).Nodup
  strategy : ⟨.pendingStrategy, some order.strategy⟩ ∈ changes
  side : ⟨.pendingOrderSide, some order.side⟩ ∈ changes
  attemptKind : ⟨.pendingOrderAttemptKind, some order.attemptKind⟩ ∈ changes
  intentId : ⟨.pendingIntentId, some order.idempotencyKey⟩ ∈ changes

/-- An entry order is its reservation followed by its submission. -/
theorem createEntryOrderActions_eq (strategy : StrategyType) (attemptKind : OrderAttemptKind)
    (event : TradingEvent) (context : TradingContextView) :
    ∃ changes order, createEntryOrderActions strategy attemptKind event context =
        [.patchRuntimeContext changes, .submitOrder order] ∧
      Reserves changes order ∧ order.strategy = strategy ∧ order.side = .buy ∧
      order.attemptKind = attemptKind ∧
      order.idempotencyKey = orText context.runtime.pendingIntentId
        (freshEntryIntentId strategy event context) := by
  refine ⟨_, _, rfl, ⟨?_, ?_, ?_, ?_, ?_⟩, rfl, rfl, rfl, rfl⟩ <;> simp

/-- An exit order is its reservation followed by its submission. -/
theorem createExitOrderActions_eq (strategy : StrategyType) (reason : ExitReason)
    (returnState : PositionReturnState) (event : TradingEvent) (context : TradingContextView)
    (attemptKind : OrderAttemptKind) :
    ∃ changes order,
      createExitOrderActions strategy reason returnState event context attemptKind =
        [.patchRuntimeContext changes, .submitOrder order] ∧
      Reserves changes order ∧ order.strategy = strategy ∧ order.side = .sell ∧
      order.attemptKind = attemptKind ∧
      order.idempotencyKey = orText context.runtime.pendingIntentId
        (freshExitIntentId strategy reason event context) := by
  refine ⟨_, _, rfl, ⟨?_, ?_, ?_, ?_, ?_⟩, rfl, rfl, rfl, rfl⟩
  · cases attemptKind <;> simp
  all_goals simp

/-! ## Global transitions -/

theorem openLowerEventActions_plain {actions : List TradingActionRequest}
    (h : openLowerEventActions event context = .ok actions) : AllPlain event context actions := by
  obtain ⟨initialization, hinit, hactions⟩ := Except.bind_eq_ok_iff.mp h
  obtain ⟨enabled, -, hpatch⟩ := Except.bind_eq_ok_iff.mp hinit
  cases hpatch
  cases hactions
  simp [PlainChange]

/-- A row of the global layer asks for no order, or on a STOP and after a failed forced sale for
a forced sale while no order is pending. -/
theorem GlobalRow.shape (h : GlobalRow state event context outcome) :
    AllPlain event context outcome.actionRequests ∨
      (event.eventType = .stopConfirmed ∨ event.eventType = .forceSellFailed) ∧
        OrderShape event context outcome.actionRequests := by
  cases h with
  | stopHolding hevent hpending =>
      refine .inr ⟨.inl hevent, ?_⟩
      exact @OrderShape.forceSell _ _ [_, _] _ _ _ (by simp [PlainChange]) allPlain_nil hpending
  | forceSellFailed _ hevent hpending =>
      refine .inr ⟨.inr hevent, ?_⟩
      exact @OrderShape.forceSell _ _ [] _ _ _ allPlain_nil allPlain_nil hpending
  | stopPending =>
      refine .inl ?_
      simp only [createTransitionOutcome]
      split <;> simp [PlainChange]
  | stopFree => exact .inl (by simp [createTransitionOutcome, PlainChange])
  | forceSellFinished => exact .inl (by simp [handleForceSellFinished, createTransitionOutcome])
  | deferred | upperBusy | upperReturn | started | completed =>
      exact .inl (by simp [createTransitionOutcome])
  | openFirst _ h =>
      obtain ⟨actions, hactions, hopened⟩ := Except.bind_eq_ok_iff.mp h
      cases hopened
      exact .inl (openLowerEventActions_plain hactions)
  | reopen _ h =>
      obtain ⟨actions, hactions, hopened⟩ := Except.bind_eq_ok_iff.mp h
      cases hopened
      exact .inl (by simpa [createTransitionOutcome] using openLowerEventActions_plain hactions)

/-- The global layer asks at most for one forced sale. -/
theorem handleGlobalTransition_shape
    (h : handleGlobalTransition state event context = .ok (some outcome)) :
    OrderShape event context outcome.actionRequests := by
  rcases (handleGlobalTransition_row h).shape with hplain | ⟨-, hshape⟩
  · exact .plain hplain
  · exact hshape

end Trading
