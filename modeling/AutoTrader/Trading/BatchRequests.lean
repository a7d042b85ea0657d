import AutoTrader.Trading.OrderDiscipline

/-!
# Requests and the order fields

Which requests write the runtime's order fields.  The context refuses a patch of them
while an order is pending.

* `Quiet`, `Silent` — a request that writes no order field, and one that in addition asks
  the order pipeline for nothing.
* `Loose` — a patch that every runtime without a pending order takes, and that leaves it
  without one.
* `Releases` — a patch that in addition takes the pending strategy back.
-/

namespace Trading

/-! ## Requests -/

/-- The runtime fields of the pending order and of the exit intent. -/
def RuntimeField.isOrderField : RuntimeField → Bool
  | .pendingStrategy | .pendingOrderSide | .pendingOrderId | .pendingOrderAttemptKind
  | .pendingExitReason | .pendingExitPctB | .pendingReturnState => true
  | _ => false

/-- The request asks the order pipeline for something. -/
def TradingActionRequest.isExternal : TradingActionRequest → Bool
  | .submitOrder _ | .cancelPendingOrder _ _ | .forceSellAll _ _ | .reconcileOrder _ _ => true
  | _ => false

/-- A patch without order fields, or no patch at all. -/
def Quiet : TradingActionRequest → Prop
  | .patchRuntimeContext changes =>
      (changes.map (·.field)).Nodup ∧ ∀ change ∈ changes, change.field.isOrderField = false
  | _ => True

/-- The patch fits every runtime without a pending order, and leaves it without one. -/
structure Loose (changes : List RuntimeFieldChange) : Prop where
  fields_nodup : (changes.map (·.field)).Nodup
  patched : ∀ runtime : TradingRuntimeSnapshot, runtime.pendingOrderId = none →
    ∃ next : TradingRuntimeSnapshot,
      next.toRuntimeFields = applyChanges changes runtime.toRuntimeFields ∧
        next.pendingOrderId = none

/-- A request that asks for nothing outside the session, and no order field. -/
def Silent (action : TradingActionRequest) : Prop := Quiet action ∧ action.isExternal = false

/-- A request inside the session that keeps a runtime without a pending order so. -/
def Inner : TradingActionRequest → Prop
  | .patchRuntimeContext changes => Loose changes
  | action => action.isExternal = false

def AllQuiet (actions : List TradingActionRequest) : Prop := ∀ action ∈ actions, Quiet action

def AllSilent (actions : List TradingActionRequest) : Prop := ∀ action ∈ actions, Silent action

def AllInner (actions : List TradingActionRequest) : Prop := ∀ action ∈ actions, Inner action

section Requests

variable {action : TradingActionRequest} {xs ys : List TradingActionRequest}
variable (text : String) (b c : Bool)

@[simp] theorem allSilent_nil : AllSilent [] := by simp [AllSilent]

@[simp] theorem allSilent_cons : AllSilent (action :: xs) ↔ Silent action ∧ AllSilent xs := by
  simp [AllSilent]

@[simp] theorem allSilent_append : AllSilent (xs ++ ys) ↔ AllSilent xs ∧ AllSilent ys := by
  simp only [AllSilent, List.mem_append]
  exact ⟨fun h => ⟨fun a ha => h a (.inl ha), fun a ha => h a (.inr ha)⟩,
    fun h a ha => ha.elim (h.1 a) (h.2 a)⟩

@[simp] theorem allQuiet_nil : AllQuiet [] := by simp [AllQuiet]

@[simp] theorem allQuiet_cons : AllQuiet (action :: xs) ↔ Quiet action ∧ AllQuiet xs := by
  simp [AllQuiet]

@[simp] theorem allQuiet_append : AllQuiet (xs ++ ys) ↔ AllQuiet xs ∧ AllQuiet ys := by
  simp only [AllQuiet, List.mem_append]
  exact ⟨fun h => ⟨fun a ha => h a (.inl ha), fun a ha => h a (.inr ha)⟩,
    fun h a ha => ha.elim (h.1 a) (h.2 a)⟩

@[simp] theorem allInner_nil : AllInner [] := by simp [AllInner]

@[simp] theorem allInner_cons : AllInner (action :: xs) ↔ Inner action ∧ AllInner xs := by
  simp [AllInner]

@[simp] theorem allInner_append : AllInner (xs ++ ys) ↔ AllInner xs ∧ AllInner ys := by
  simp only [AllInner, List.mem_append]
  exact ⟨fun h => ⟨fun a ha => h a (.inl ha), fun a ha => h a (.inr ha)⟩,
    fun h a ha => ha.elim (h.1 a) (h.2 a)⟩

theorem AllSilent.allQuiet (h : AllSilent xs) : AllQuiet xs := fun a ha => (h a ha).1

@[simp] theorem silent_patch (changes : List RuntimeFieldChange) :
    Silent (patch changes) ↔
      (changes.map (·.field)).Nodup ∧ ∀ change ∈ changes, change.field.isOrderField = false := by
  simp [Silent, Quiet, patch, TradingActionRequest.isExternal]

@[simp] theorem quiet_patch (changes : List RuntimeFieldChange) :
    Quiet (patch changes) ↔
      (changes.map (·.field)).Nodup ∧ ∀ change ∈ changes, change.field.isOrderField = false :=
  Iff.rfl

@[simp] theorem quiet_cancelPendingOrder (id : Option String) :
    Quiet (.cancelPendingOrder id text) := trivial

@[simp] theorem quiet_reconcileOrder : Quiet (.reconcileOrder text b) := trivial

@[simp] theorem quiet_forceSellAll : Quiet (.forceSellAll b c) := trivial

@[simp] theorem quiet_submitOrder (order : SubmitOrder) : Quiet (.submitOrder order) := trivial

@[simp] theorem quiet_cancelScheduledEvaluation : Quiet (.cancelScheduledEvaluation text) :=
  trivial

@[simp] theorem inner_patch (changes : List RuntimeFieldChange) :
    Inner (patch changes) ↔ Loose changes := Iff.rfl

@[simp] theorem silent_openLowerEvent (action : OpenLowerEvent) :
    Silent (.openLowerEvent action) := ⟨trivial, rfl⟩

@[simp] theorem silent_closeLowerEvent : Silent (.closeLowerEvent text) := ⟨trivial, rfl⟩

@[simp] theorem silent_resetCaseBContext : Silent (.resetCaseBContext b) := ⟨trivial, rfl⟩

@[simp] theorem silent_resetCaseCContext : Silent (.resetCaseCContext b c) := ⟨trivial, rfl⟩

@[simp] theorem silent_queueEvent (request : QueueEvent) : Silent (.queueEvent request) :=
  ⟨trivial, rfl⟩

@[simp] theorem silent_scheduleReevaluation (request : ScheduleReevaluation) :
    Silent (.scheduleReevaluation request) := ⟨trivial, rfl⟩

@[simp] theorem silent_cancelScheduledEvaluation : Silent (.cancelScheduledEvaluation text) :=
  ⟨trivial, rfl⟩

@[simp] theorem silent_stopTradingRuntime : Silent (.stopTradingRuntime text) := ⟨trivial, rfl⟩

@[simp] theorem silent_createQueueEventAction {eventType : TradingEventType}
    {context : TradingContextView} : Silent (createQueueEventAction eventType context) :=
  silent_queueEvent _

@[simp] theorem silent_scheduleMarketReevaluation {eventType : TradingEventType}
    {context : TradingContextView} (trigger : ReevaluationTrigger) (delay : Option Duration) :
    Silent (scheduleMarketReevaluation eventType context text trigger delay) :=
  silent_scheduleReevaluation _

@[simp] theorem silent_createEntryRetryAction {eventType : TradingEventType}
    {context : TradingContextView} : Silent (createEntryRetryAction eventType context text) :=
  silent_scheduleReevaluation _

@[simp] theorem silent_activateTradeManagement {event : TradingEvent}
    {context : TradingContextView} : Silent (activateTradeManagement event context) :=
  silent_queueEvent _

end Requests

/-! ## Patches of order fields -/

/-- Writing one field that is no order field keeps every order field. -/
theorem set_orderFields {change : RuntimeFieldChange} (h : change.field.isOrderField = false)
    (runtime : RuntimeFields) :
    (change.field.set change.value runtime).pendingStrategy = runtime.pendingStrategy ∧
    (change.field.set change.value runtime).pendingOrderSide = runtime.pendingOrderSide ∧
    (change.field.set change.value runtime).pendingOrderId = runtime.pendingOrderId ∧
    (change.field.set change.value runtime).pendingOrderAttemptKind =
      runtime.pendingOrderAttemptKind ∧
    (change.field.set change.value runtime).pendingExitReason = runtime.pendingExitReason ∧
    (change.field.set change.value runtime).pendingExitPctB = runtime.pendingExitPctB ∧
    (change.field.set change.value runtime).pendingReturnState = runtime.pendingReturnState := by
  rcases change with ⟨field, value⟩
  cases field <;> first | exact ⟨rfl, rfl, rfl, rfl, rfl, rfl, rfl⟩ | cases h

/-- The runtime after a patch without order fields. -/
theorem applyChanges_orderFields {changes : List RuntimeFieldChange}
    (h : ∀ change ∈ changes, change.field.isOrderField = false) (runtime : RuntimeFields) :
    (applyChanges changes runtime).pendingStrategy = runtime.pendingStrategy ∧
    (applyChanges changes runtime).pendingOrderSide = runtime.pendingOrderSide ∧
    (applyChanges changes runtime).pendingOrderId = runtime.pendingOrderId ∧
    (applyChanges changes runtime).pendingOrderAttemptKind = runtime.pendingOrderAttemptKind ∧
    (applyChanges changes runtime).pendingExitReason = runtime.pendingExitReason ∧
    (applyChanges changes runtime).pendingExitPctB = runtime.pendingExitPctB ∧
    (applyChanges changes runtime).pendingReturnState = runtime.pendingReturnState := by
  induction changes generalizing runtime with
  | nil => exact ⟨rfl, rfl, rfl, rfl, rfl, rfl, rfl⟩
  | cons change changes ih =>
      obtain ⟨h1, h2, h3, h4, h5, h6, h7⟩ := set_orderFields (h change (by simp)) runtime
      have hrest := ih (fun c hc => h c (List.mem_cons_of_mem _ hc))
        (change.field.set change.value runtime)
      rw [h1, h2, h3, h4, h5, h6, h7] at hrest
      exact hrest

/-- A patch without order fields makes a valid runtime of every valid runtime. -/
theorem patched_of_quiet {changes : List RuntimeFieldChange}
    (h : ∀ change ∈ changes, change.field.isOrderField = false)
    (runtime : TradingRuntimeSnapshot) :
    ∃ next : TradingRuntimeSnapshot,
      next.toRuntimeFields = applyChanges changes runtime.toRuntimeFields ∧
      next.pendingStrategy = runtime.pendingStrategy ∧
      next.pendingOrderSide = runtime.pendingOrderSide ∧
      next.pendingOrderId = runtime.pendingOrderId ∧
      next.pendingOrderAttemptKind = runtime.pendingOrderAttemptKind := by
  obtain ⟨h1, h2, h3, h4, h5, h6, h7⟩ := applyChanges_orderFields h runtime.toRuntimeFields
  refine ⟨⟨applyChanges changes runtime.toRuntimeFields, ?_, ?_, ?_⟩, rfl, h1, h2, h3, h4⟩
  · rw [h1, h2, h3, h4]
    exact runtime.pending_order_complete
  · rw [h5, h7]
    exact runtime.return_state_has_reason
  · rw [h5, h6]
    exact runtime.exit_pct_b_has_reason

theorem Silent.inner {action : TradingActionRequest} (h : Silent action) : Inner action := by
  cases action with
  | patchRuntimeContext changes =>
      refine ⟨h.1.1, fun runtime hpending => ?_⟩
      obtain ⟨next, hnext, -, -, hid, -⟩ := patched_of_quiet h.1.2 runtime
      exact ⟨next, hnext, hid.trans hpending⟩
  | _ => exact h.2

theorem AllSilent.allInner {actions : List TradingActionRequest} (h : AllSilent actions) :
    AllInner actions := fun a ha => (h a ha).inner

/-- The patch of an entry order. -/
theorem loose_entry (strategy : StrategyType) (attemptKind : OrderAttemptKind)
    (intentId : String) :
    Loose [⟨.pendingStrategy, some strategy⟩, ⟨.pendingOrderSide, some .buy⟩,
      ⟨.pendingOrderAttemptKind, some attemptKind⟩, ⟨.pendingIntentId, some intentId⟩,
      ⟨.tradingPhase, .entryOrderPending⟩] := by
  refine ⟨by simp, fun runtime hpending => ⟨{ runtime with
    pendingStrategy := some strategy
    pendingOrderSide := some .buy
    pendingOrderAttemptKind := some attemptKind
    pendingIntentId := some intentId
    tradingPhase := .entryOrderPending
    pending_order_complete := by simp }, rfl, hpending⟩⟩

/-- The patch of a first exit order. -/
theorem loose_exit_initial (strategy : StrategyType) (attemptKind : OrderAttemptKind)
    (intentId : String) (reason : ExitReason) (pctB : Option Arithmetic.Decimal)
    (returnState : PositionReturnState) :
    Loose [⟨.pendingStrategy, some strategy⟩, ⟨.pendingOrderSide, some .sell⟩,
      ⟨.pendingOrderAttemptKind, some attemptKind⟩, ⟨.pendingIntentId, some intentId⟩,
      ⟨.tradingPhase, .exitOrderPending⟩, ⟨.pendingExitReason, some reason⟩,
      ⟨.pendingExitPctB, pctB⟩, ⟨.pendingReturnState, some returnState⟩] := by
  refine ⟨by simp, fun runtime hpending => ⟨{ runtime with
    pendingStrategy := some strategy
    pendingOrderSide := some .sell
    pendingOrderAttemptKind := some attemptKind
    pendingIntentId := some intentId
    tradingPhase := .exitOrderPending
    pendingExitReason := some reason
    pendingExitPctB := pctB
    pendingReturnState := some returnState
    pending_order_complete := by simp
    return_state_has_reason := by simp
    exit_pct_b_has_reason := by simp }, rfl, hpending⟩⟩

/-- The patch of a repeated exit order. -/
theorem loose_exit_retry (strategy : StrategyType) (attemptKind : OrderAttemptKind)
    (intentId : String) :
    Loose [⟨.pendingStrategy, some strategy⟩, ⟨.pendingOrderSide, some .sell⟩,
      ⟨.pendingOrderAttemptKind, some attemptKind⟩, ⟨.pendingIntentId, some intentId⟩,
      ⟨.tradingPhase, .exitOrderPending⟩] := by
  refine ⟨by simp, fun runtime hpending => ⟨{ runtime with
    pendingStrategy := some strategy
    pendingOrderSide := some .sell
    pendingOrderAttemptKind := some attemptKind
    pendingIntentId := some intentId
    tradingPhase := .exitOrderPending
    pending_order_complete := by simp }, rfl, hpending⟩⟩

/-- A patch that releases the order fields. -/
structure Releases (changes : List RuntimeFieldChange) : Prop extends Loose changes where
  strategy_released : ∀ runtime : RuntimeFields,
    (applyChanges changes runtime).pendingStrategy = none

/-- The changes of `clearExitPatch`. -/
theorem releases_clearExit : Releases [
    ⟨.pendingStrategy, none⟩, ⟨.pendingOrderSide, none⟩, ⟨.pendingOrderId, none⟩,
    ⟨.pendingOrderAttemptKind, none⟩, ⟨.pendingIntentId, none⟩, ⟨.pendingExitReason, none⟩,
    ⟨.pendingExitPctB, none⟩, ⟨.pendingReturnState, none⟩, ⟨.tradingPhase, .idle⟩] := by
  refine ⟨⟨by simp, fun runtime hpending => ⟨{ runtime with
    pendingStrategy := none
    pendingOrderSide := none
    pendingOrderId := none
    pendingOrderAttemptKind := none
    pendingIntentId := none
    pendingExitReason := none
    pendingExitPctB := none
    pendingReturnState := none
    tradingPhase := .idle
    pending_order_complete := by simp
    return_state_has_reason := by simp
    exit_pct_b_has_reason := by simp }, rfl, rfl⟩⟩, fun _ => rfl⟩

/-- The changes of a preparation feedback. -/
theorem releases_feedback : Releases [
    ⟨.pendingStrategy, none⟩, ⟨.pendingOrderSide, none⟩, ⟨.pendingOrderAttemptKind, none⟩,
    ⟨.pendingIntentId, none⟩, ⟨.tradingPhase, .idle⟩] := by
  refine ⟨⟨by simp, fun runtime hpending => ⟨{ runtime with
    pendingStrategy := none
    pendingOrderSide := none
    pendingOrderAttemptKind := none
    pendingIntentId := none
    tradingPhase := .idle
    pending_order_complete := by simp [hpending] }, rfl, hpending⟩⟩, fun _ => rfl⟩

@[simp] theorem inner_clearExitPatch : Inner clearExitPatch := releases_clearExit.toLoose

@[simp] theorem inner_clearAllPatch (phase : TradingPhase) : Inner (clearAllPatch phase) := by
  refine ⟨by simp, fun runtime hpending => ⟨{ runtime with
    positionOwner := none
    pendingStrategy := none
    pendingOrderSide := none
    pendingOrderId := none
    pendingOrderAttemptKind := none
    pendingIntentId := none
    pendingExitReason := none
    pendingExitPctB := none
    pendingReturnState := none
    tradingPhase := phase
    pending_order_complete := by simp
    return_state_has_reason := by simp
    exit_pct_b_has_reason := by simp }, rfl, rfl⟩⟩

/-- The changes of a STOP without a position. -/
theorem loose_stopWithoutPosition : Loose [
    ⟨.positionOwner, none⟩, ⟨.pendingStrategy, none⟩, ⟨.pendingOrderSide, none⟩,
    ⟨.pendingOrderId, none⟩, ⟨.pendingOrderAttemptKind, none⟩, ⟨.pendingIntentId, none⟩,
    ⟨.tradingPhase, .terminated⟩] := by
  refine ⟨by simp, fun runtime hpending => ⟨{ runtime with
    positionOwner := none
    pendingStrategy := none
    pendingOrderSide := none
    pendingOrderId := none
    pendingOrderAttemptKind := none
    pendingIntentId := none
    tradingPhase := .terminated
    pending_order_complete := by simp }, rfl, rfl⟩⟩

/-- An entry order: a loose patch and its submission. -/
theorem createEntryOrderActions_loose (strategy : StrategyType) (attemptKind : OrderAttemptKind)
    (event : TradingEvent) (context : TradingContextView) :
    ∃ changes order, createEntryOrderActions strategy attemptKind event context =
      [.patchRuntimeContext changes, .submitOrder order] ∧ Loose changes :=
  ⟨_, _, rfl, loose_entry _ _ _⟩

/-- An exit order: a loose patch and its submission. -/
theorem createExitOrderActions_loose (strategy : StrategyType) (reason : ExitReason)
    (returnState : PositionReturnState) (event : TradingEvent) (context : TradingContextView)
    (attemptKind : OrderAttemptKind) :
    ∃ changes order,
      createExitOrderActions strategy reason returnState event context attemptKind =
        [.patchRuntimeContext changes, .submitOrder order] ∧ Loose changes := by
  cases attemptKind with
  | initial => exact ⟨_, _, rfl, loose_exit_initial _ _ _ _ _ _⟩
  | retry => exact ⟨_, _, rfl, loose_exit_retry _ _ _⟩

end Trading
