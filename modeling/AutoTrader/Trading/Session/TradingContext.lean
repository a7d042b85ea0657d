import AutoTrader.Trading.Actions

/-!
# The mutable trading context

`TradingContext` of `domain/trading/context.py`: the snapshots of a running session
behind one version.

* `TradingContext` — the snapshots with the invariant every method keeps, that a
  pending order and the runtime's pending fields name the same order.
* `setPendingOrder`, `clearPendingOrder`, `applyRuntimePatch`, … — the methods.  A method that changes
  nothing leaves the version alone.
* `TradingContext.view` — the consistent view the state machine decides on.
-/

namespace Trading

instance (runtime : RuntimeFields) (pendingOrder : Option PendingOrderSnapshot) :
    Decidable (PendingAligned runtime pendingOrder) :=
  match pendingOrder with
  | none => isTrue (by simp [PendingAligned])
  | some order => decidable_of_iff
      (runtime.pendingOrderId = some order.orderId ∧
        runtime.pendingStrategy = some order.strategy ∧
        runtime.pendingOrderSide = some order.side ∧
        runtime.pendingOrderAttemptKind = some order.attemptKind) (by simp [PendingAligned])

/-- `_validate_pending_alignment`. -/
def validatePendingAlignment (runtime : RuntimeFields)
    (pendingOrder : Option PendingOrderSnapshot) : Except TradingError Unit :=
  match pendingOrder with
  | none => .ok ()
  | some order => do
      Except.require (runtime.pendingOrderId = some order.orderId)
        (.valueError "Pending order ID differs from runtime snapshot")
      Except.require (runtime.pendingStrategy = some order.strategy)
        (.valueError "Pending strategy differs from runtime snapshot")
      Except.require (runtime.pendingOrderSide = some order.side)
        (.valueError "Pending side differs from runtime snapshot")
      Except.require (runtime.pendingOrderAttemptKind = some order.attemptKind)
        (.valueError "Pending attempt kind differs from runtime snapshot")

theorem validatePendingAlignment_eq_ok_iff {runtime : RuntimeFields}
    {pendingOrder : Option PendingOrderSnapshot} :
    validatePendingAlignment runtime pendingOrder = .ok () ↔
      PendingAligned runtime pendingOrder := by
  cases pendingOrder with
  | none => simp [validatePendingAlignment, PendingAligned]
  | some order =>
      simp [validatePendingAlignment, PendingAligned, Except.require_bind_eq_ok_iff,
        Except.require_eq_ok_iff]

theorem no_order_aligned : PendingAligned ({} : TradingRuntimeSnapshot).toRuntimeFields none := by
  simp [PendingAligned]

/-- The snapshots of a session and their version. -/
structure TradingContext where
  market : MarketEvaluationSnapshot := {}
  runtime : TradingRuntimeSnapshot := {}
  position : PositionSnapshot := {}
  pendingOrder : Option PendingOrderSnapshot := none
  version : ℕ := 0
  pending_aligned : PendingAligned runtime.toRuntimeFields pendingOrder := by
    first | exact no_order_aligned | simp [PendingAligned]

namespace TradingContext

/-- `snapshot`: the view of this moment. -/
def view (context : TradingContext) (evaluatedAt : Timestamp) : TradingContextView where
  version := context.version
  evaluatedAt := evaluatedAt
  market := context.market
  runtime := context.runtime
  position := context.position
  pendingOrder := context.pendingOrder
  pending_aligned := context.pending_aligned

/-- `_replace_runtime_unlocked`. -/
def replaceRuntime (context : TradingContext) (runtime : TradingRuntimeSnapshot)
    (h : PendingAligned runtime.toRuntimeFields context.pendingOrder) : TradingContext :=
  if runtime = context.runtime then context
  else { context with runtime, version := context.version + 1, pending_aligned := h }

@[simp] theorem replaceRuntime_runtime {context : TradingContext}
    {runtime : TradingRuntimeSnapshot} (h : PendingAligned runtime.toRuntimeFields _) :
    (context.replaceRuntime runtime h).runtime = runtime := by
  unfold replaceRuntime
  split
  · rename_i heq; exact heq.symm
  · rfl

@[simp] theorem replaceRuntime_pendingOrder {context : TradingContext}
    {runtime : TradingRuntimeSnapshot} (h : PendingAligned runtime.toRuntimeFields _) :
    (context.replaceRuntime runtime h).pendingOrder = context.pendingOrder := by
  unfold replaceRuntime
  split <;> rfl

@[simp] theorem replaceRuntime_market {context : TradingContext}
    {runtime : TradingRuntimeSnapshot} (h : PendingAligned runtime.toRuntimeFields _) :
    (context.replaceRuntime runtime h).market = context.market := by
  unfold replaceRuntime
  split <;> rfl

@[simp] theorem replaceRuntime_position {context : TradingContext}
    {runtime : TradingRuntimeSnapshot} (h : PendingAligned runtime.toRuntimeFields _) :
    (context.replaceRuntime runtime h).position = context.position := by
  unfold replaceRuntime
  split <;> rfl

/-! ## Market, position and pending order -/

/-- `update_market`. -/
def updateMarket (context : TradingContext) (market : MarketEvaluationSnapshot) :
    TradingContext :=
  if context.market = market then context
  else { context with market, version := context.version + 1 }

@[simp] theorem updateMarket_runtime (context : TradingContext)
    (market : MarketEvaluationSnapshot) :
    (context.updateMarket market).runtime = context.runtime := by
  unfold updateMarket
  split <;> rfl

@[simp] theorem updateMarket_pendingOrder (context : TradingContext)
    (market : MarketEvaluationSnapshot) :
    (context.updateMarket market).pendingOrder = context.pendingOrder := by
  unfold updateMarket
  split <;> rfl

@[simp] theorem updateMarket_position (context : TradingContext)
    (market : MarketEvaluationSnapshot) :
    (context.updateMarket market).position = context.position := by
  unfold updateMarket
  split <;> rfl

/-- The runtime with another owner of the position. -/
def withOwner (runtime : TradingRuntimeSnapshot) (owner : Option StrategyType) :
    TradingRuntimeSnapshot :=
  { runtime with positionOwner := owner }

/-- `update_position`. -/
def updatePosition (context : TradingContext) (position : PositionSnapshot)
    (owner : Option StrategyType) : Except TradingError TradingContext := do
  Except.require (position.isOpen = true ∨ owner = none)
    (.valueError "A zero position cannot have a strategy owner")
  if context.position = position ∧ context.runtime = withOwner context.runtime owner then
    .ok context
  else .ok { context with
    position
    runtime := withOwner context.runtime owner
    version := context.version + 1
    pending_aligned := context.pending_aligned }

/-- The runtime after its order is gone; the intent stays when it is to be retried. -/
def withoutPendingOrder (runtime : TradingRuntimeSnapshot) (preserveIntentId : Bool) :
    TradingRuntimeSnapshot :=
  { runtime with
    pendingStrategy := none
    pendingOrderSide := none
    pendingOrderId := none
    pendingOrderAttemptKind := none
    pendingIntentId := if preserveIntentId then runtime.pendingIntentId else none
    pending_order_complete := no_pending_order }

/-- The runtime with the order its outcome is awaited of. -/
def withPendingOrder (runtime : TradingRuntimeSnapshot) (order : PendingOrderSnapshot) :
    TradingRuntimeSnapshot :=
  { runtime with
    pendingStrategy := some order.strategy
    pendingOrderSide := some order.side
    pendingOrderId := some order.orderId
    pendingOrderAttemptKind := some order.attemptKind
    pending_order_complete := by simp }

/-- `update_pending_order(None)`. -/
def clearPendingOrder (context : TradingContext) (preserveIntentId : Bool) : TradingContext :=
  if context.pendingOrder = none ∧
      context.runtime = withoutPendingOrder context.runtime preserveIntentId then context
  else { context with
    runtime := withoutPendingOrder context.runtime preserveIntentId
    pendingOrder := none
    version := context.version + 1
    pending_aligned := by simp [PendingAligned] }

@[simp] theorem clearPendingOrder_pendingOrder (context : TradingContext) (preserve : Bool) :
    (context.clearPendingOrder preserve).pendingOrder = none := by
  unfold clearPendingOrder
  split
  · rename_i h; exact h.1
  · rfl

@[simp] theorem clearPendingOrder_runtime (context : TradingContext) (preserve : Bool) :
    (context.clearPendingOrder preserve).runtime =
      withoutPendingOrder context.runtime preserve := by
  unfold clearPendingOrder
  split
  · rename_i h; exact h.2
  · rfl

@[simp] theorem clearPendingOrder_market (context : TradingContext) (preserve : Bool) :
    (context.clearPendingOrder preserve).market = context.market := by
  unfold clearPendingOrder
  split <;> rfl

@[simp] theorem clearPendingOrder_position (context : TradingContext) (preserve : Bool) :
    (context.clearPendingOrder preserve).position = context.position := by
  unfold clearPendingOrder
  split <;> rfl

/-- `update_pending_order` with an order. -/
def setPendingOrder (context : TradingContext) (order : PendingOrderSnapshot) : TradingContext :=
  if context.pendingOrder = some order ∧
      context.runtime = withPendingOrder context.runtime order then context
  else { context with
    runtime := withPendingOrder context.runtime order
    pendingOrder := some order
    version := context.version + 1
    pending_aligned := by simp [PendingAligned, withPendingOrder] }

@[simp] theorem setPendingOrder_pendingOrder (context : TradingContext)
    (order : PendingOrderSnapshot) :
    (context.setPendingOrder order).pendingOrder = some order := by
  unfold setPendingOrder
  split
  · rename_i h; exact h.1
  · rfl

@[simp] theorem setPendingOrder_runtime (context : TradingContext)
    (order : PendingOrderSnapshot) :
    (context.setPendingOrder order).runtime = withPendingOrder context.runtime order := by
  unfold setPendingOrder
  split
  · rename_i h; exact h.2
  · rfl

@[simp] theorem setPendingOrder_market (context : TradingContext)
    (order : PendingOrderSnapshot) :
    (context.setPendingOrder order).market = context.market := by
  unfold setPendingOrder
  split <;> rfl

@[simp] theorem setPendingOrder_position (context : TradingContext)
    (order : PendingOrderSnapshot) :
    (context.setPendingOrder order).position = context.position := by
  unfold setPendingOrder
  split <;> rfl

/-! ## Runtime patches -/

/-- The runtime a patch makes, or what its checks raise. -/
def patchedRuntime (context : TradingContext) (changes : List RuntimeFieldChange) :
    Except TradingError TradingRuntimeSnapshot := do
  Except.require (changes.map (·.field)).Nodup
    (.valueError "Runtime patch must not contain duplicate fields")
  (applyChanges changes context.runtime.toRuntimeFields).validate

/-- `apply_runtime_patch`. -/
def applyRuntimePatch (context : TradingContext) (changes : List RuntimeFieldChange) :
    Except TradingError TradingContext := do
  let runtime ← context.patchedRuntime changes
  match h : validatePendingAlignment runtime.toRuntimeFields context.pendingOrder with
  | .ok () => .ok (context.replaceRuntime runtime (validatePendingAlignment_eq_ok_iff.mp h))
  | .error e => .error e

/-- A patch that is accepted writes the runtime and nothing else. -/
theorem applyRuntimePatch_eq_ok {context next : TradingContext}
    {changes : List RuntimeFieldChange} (h : context.applyRuntimePatch changes = .ok next) :
    next.runtime.toRuntimeFields = applyChanges changes context.runtime.toRuntimeFields ∧
    next.market = context.market ∧ next.position = context.position ∧
    next.pendingOrder = context.pendingOrder := by
  obtain ⟨runtime, hruntime, h⟩ := Except.bind_eq_ok_iff.mp h
  have hfields : runtime.toRuntimeFields = applyChanges changes context.runtime.toRuntimeFields :=
    RuntimeFields.validate_eq_ok (Except.require_bind_eq_ok_iff.mp hruntime).2
  split at h
  · cases h
    exact ⟨by rw [replaceRuntime_runtime, hfields], replaceRuntime_market _,
      replaceRuntime_position _, replaceRuntime_pendingOrder _⟩
  · cases h

/-! ## Lower events and Case contexts -/

/-- `open_lower_event`. -/
def openLowerEvent (context : TradingContext) (action : OpenLowerEvent) : TradingContext :=
  context.replaceRuntime
    { context.runtime with
      lowerEventId := some action.lowerEventId
      touchTime := some action.touchTime
      touchCandleId := action.candleId
      touchCandleLow := some action.touchCandleLow
      lowerBandAtTouch := some action.lowerBandAtTouch
      touchCandleBbw := some action.touchCandleBbw } context.pending_aligned

/-- `close_lower_event`. -/
def closeLowerEvent (context : TradingContext) : TradingContext :=
  context.replaceRuntime
    { context.runtime with
      lowerEventId := none
      touchTime := none
      touchCandleId := none
      touchCandleLow := none
      lowerBandAtTouch := none
      touchCandleBbw := none } context.pending_aligned

/-- `reset_case_b_context`. -/
def resetCaseBContext (context : TradingContext) (preserveSignal : Bool) : TradingContext :=
  let runtime := context.runtime
  context.replaceRuntime
    { runtime with
      caseBEnabled := false
      caseBEntryPaused := false
      caseBOnlyUntilNextLowerTouch := false
      caseBExitReason := none
      signalCreated := if preserveSignal then runtime.signalCreated else false
      signalCandleId := if preserveSignal then runtime.signalCandleId else none
      signalTime := if preserveSignal then runtime.signalTime else none } context.pending_aligned

/-- `reset_case_c_context`. -/
def resetCaseCContext (context : TradingContext) (preserveExitResult preserveSetupCandle : Bool) :
    TradingContext :=
  let runtime := context.runtime
  context.replaceRuntime
    { runtime with
      caseCEnabled := false
      allowNewCaseCSetup := false
      caseCConsumedForEvent := false
      caseCRecoveryConfirmed := false
      lastCaseCSetupCandleId :=
        if preserveSetupCandle then runtime.lastCaseCSetupCandleId else none
      flushLow := none
      flushLowPctB := none
      flushLowTime := none
      currentOpenPctB := none
      timerBasePctB := none
      timerBaseTime := none
      entryPctB := none
      tpPrice := none
      previousTrailEmaSlope := none
      caseCExitReason := if preserveExitResult then runtime.caseCExitReason else none
      caseCExitPctB := if preserveExitResult then runtime.caseCExitPctB else none }
    context.pending_aligned

end TradingContext

end Trading
