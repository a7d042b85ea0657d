import AutoTrader.Trading.States

/-!
# Snapshots read by the state machine

The frozen dataclasses of `domain/trading/context.py`.

* `MarketEvaluationSnapshot` — the market values of one atomic evaluation.
* `RuntimeFields`, `TradingRuntimeSnapshot` — the strategy runtime, first as the
  bare record and then with the invariants its constructor checks.
* `PositionSnapshot`, `PendingOrderSnapshot` — the authoritative position and the
  order that waits for its outcome.
* `TradingContextView` — all of them with the version and the evaluation time.

Times are microseconds: the source only accepts timezone-aware datetimes, so a
time is a point on one axis.
-/

namespace Trading

open Arithmetic

/-- A timezone-aware datetime, in microseconds. -/
abbrev Timestamp := Int

/-- A `timedelta`, in microseconds. -/
abbrev Duration := Int

/-- The date in Seoul.  The clocks there are nine hours ahead of UTC since October 1988; the
source's `ZoneInfo` also knows the offsets before. -/
def kstDate (time : Timestamp) : ℤ := (time + 9 * 3600000000) / 86400000000

/-! ## Market evaluation -/

-- The default values pass the checks of the snapshot.
theorem no_close_time : (none : Option Timestamp).isSome → false := by simp

theorem no_duration_nonneg : (0 : Duration) ≤ 0 := le_refl 0

theorem no_previous_lows : ([] : List Decimal).length = 0 ∨ ([] : List Decimal).length = 3 :=
  .inl rfl

/-- The market values of one evaluation.  A confirmed close time needs a confirmed
close, durations are not negative and the previous lows are none or three. -/
structure MarketEvaluationSnapshot where
  realtimePrice : Decimal := 0
  lowerBand : Decimal := 0
  upperBand : Decimal := 0
  realtimePctB : Decimal := 0
  current30mCandleId : Option String := none
  current30mLow : Decimal := 0
  touchCandleBbw : Decimal := 0
  confirmed30mClose : Bool := false
  confirmed30mCloseTime : Option Timestamp := none
  confirmed1mClose : Bool := false
  emaSlope30mClose : Decimal := 0
  realtimeEmaSlope : Decimal := 0
  currentCloseEmaSlope : Decimal := 0
  tpReferenceEmaSlope : Decimal := 0
  cci30mRealtime : Decimal := 0
  pctBClose : Decimal := 0
  currentClosedCandleLow : Decimal := 0
  previous3ClosedCandleLows : List Decimal := []
  holdingElapsed : Duration := 0
  signalElapsed : Duration := 0
  caseCTimerElapsed : Duration := 0
  pctBAtLeast060For5s : Bool := false
  realtimeSlopeAbove008For5s : Bool := false
  realtimeSlopeAtMost004For5s : Bool := false
  pctBBelow060For5s : Bool := false
  realtimeSlopeAtMostMinus055For3m : Bool := false
  close_time_confirmed : confirmed30mCloseTime.isSome → confirmed30mClose := by
    first | exact no_close_time | simp
  holding_nonneg : 0 ≤ holdingElapsed := by first | exact no_duration_nonneg | decide
  signal_nonneg : 0 ≤ signalElapsed := by first | exact no_duration_nonneg | decide
  case_c_timer_nonneg : 0 ≤ caseCTimerElapsed := by first | exact no_duration_nonneg | decide
  previous_lows : previous3ClosedCandleLows.length = 0 ∨
    previous3ClosedCandleLows.length = 3 := by first | exact no_previous_lows | simp
  deriving DecidableEq

/-! ## Strategy runtime -/

/-- The fields of the strategy runtime. -/
structure RuntimeFields where
  positionOwner : Option StrategyType := none
  pendingStrategy : Option StrategyType := none
  pendingOrderSide : Option OrderSide := none
  pendingOrderId : Option String := none
  pendingOrderAttemptKind : Option OrderAttemptKind := none
  pendingIntentId : Option String := none
  tradingPhase : TradingPhase := .idle
  lowerEventId : Option String := none
  touchTime : Option Timestamp := none
  touchCandleId : Option String := none
  touchCandleLow : Option Decimal := none
  lowerBandAtTouch : Option Decimal := none
  touchCandleBbw : Option Decimal := none
  caseBEnabled : Bool := false
  caseCEnabled : Bool := false
  caseBEntryPaused : Bool := false
  caseBOnlyUntilNextLowerTouch : Bool := false
  allowNewCaseCSetup : Bool := false
  caseCConsumedForEvent : Bool := false
  caseCRecoveryConfirmed : Bool := false
  signalCreated : Bool := false
  signalCandleId : Option String := none
  signalTime : Option Timestamp := none
  lastCaseCSetupCandleId : Option String := none
  flushLow : Option Decimal := none
  flushLowPctB : Option Decimal := none
  flushLowTime : Option Timestamp := none
  currentOpenPctB : Option Decimal := none
  timerBasePctB : Option Decimal := none
  timerBaseTime : Option Timestamp := none
  entryPctB : Option Decimal := none
  tpPrice : Option Decimal := none
  previousTrailEmaSlope : Option Decimal := none
  pendingExitReason : Option ExitReason := none
  pendingExitPctB : Option Decimal := none
  pendingReturnState : Option PositionReturnState := none
  caseBExitReason : Option ExitReason := none
  caseCExitReason : Option ExitReason := none
  caseCExitPctB : Option Decimal := none
  deriving DecidableEq

-- So do the empty pending fields.
theorem no_pending_order : (none : Option String).isSome →
    (none : Option StrategyType).isSome ∧ (none : Option OrderSide).isSome ∧
      (none : Option OrderAttemptKind).isSome := by simp

theorem no_return_state :
    (none : Option PositionReturnState).isSome → (none : Option ExitReason).isSome := by simp

theorem no_exit_pct_b : (none : Option Decimal).isSome → (none : Option ExitReason).isSome := by
  simp

/-- A runtime its constructor accepts: a pending order ID comes with strategy, side
and attempt kind, and the exit intent's details come with its reason. -/
structure TradingRuntimeSnapshot extends RuntimeFields where
  pending_order_complete : pendingOrderId.isSome →
    pendingStrategy.isSome ∧ pendingOrderSide.isSome ∧ pendingOrderAttemptKind.isSome := by
    first | exact no_pending_order | simp
  return_state_has_reason : pendingReturnState.isSome → pendingExitReason.isSome := by
    first | exact no_return_state | simp
  exit_pct_b_has_reason : pendingExitPctB.isSome → pendingExitReason.isSome := by
    first | exact no_exit_pct_b | simp
  deriving DecidableEq

/-- `__post_init__` of the runtime: the bare record becomes a runtime or raises. -/
def RuntimeFields.validate (fields : RuntimeFields) : Except TradingError TradingRuntimeSnapshot :=
  if hid : fields.pendingOrderId.isSome → fields.pendingStrategy.isSome ∧
      fields.pendingOrderSide.isSome ∧ fields.pendingOrderAttemptKind.isSome then
    if hreturn : fields.pendingReturnState.isSome → fields.pendingExitReason.isSome then
      if hpct : fields.pendingExitPctB.isSome → fields.pendingExitReason.isSome then
        .ok ⟨fields, hid, hreturn, hpct⟩
      else .error (.valueError "pending_exit_pct_b requires pending_exit_reason")
    else .error (.valueError "pending_return_state requires pending_exit_reason")
  else .error (.valueError "A pending order ID requires strategy, side, and attempt kind")

/-- Validation keeps every field. -/
theorem RuntimeFields.validate_eq_ok {fields : RuntimeFields} {runtime : TradingRuntimeSnapshot}
    (h : fields.validate = .ok runtime) : runtime.toRuntimeFields = fields := by
  unfold validate at h
  split at h
  · split at h
    · split at h
      · cases h; rfl
      · cases h
    · cases h
  · cases h

/-- The fields of a runtime pass validation. -/
theorem TradingRuntimeSnapshot.validate_toRuntimeFields (runtime : TradingRuntimeSnapshot) :
    runtime.toRuntimeFields.validate = .ok runtime := by
  unfold RuntimeFields.validate
  rw [dif_pos runtime.pending_order_complete, dif_pos runtime.return_state_has_reason,
    dif_pos runtime.exit_pct_b_has_reason]

/-! ## Position, pending order and view -/

-- An empty position passes its checks.
theorem no_quantity_nonneg : (0 : ℚ) ≤ 0 := le_refl 0

theorem no_entry_price : ∀ p ∈ (none : Option ℚ), 0 ≤ p := by simp

/-- The authoritative quantity and average entry price. -/
structure PositionSnapshot where
  quantity : ℚ := 0
  entryPrice : Option ℚ := none
  quantity_nonneg : 0 ≤ quantity := by first | exact no_quantity_nonneg | decide
  entryPrice_nonneg : ∀ p ∈ entryPrice, 0 ≤ p := by first | exact no_entry_price | simp
  deriving DecidableEq

def PositionSnapshot.isOpen (position : PositionSnapshot) : Bool := decide (0 < position.quantity)

/-- The order whose outcome is awaited. -/
structure PendingOrderSnapshot where
  orderId : String
  strategy : StrategyType
  side : OrderSide
  attemptKind : OrderAttemptKind
  hasPartialFill : Bool := false
  statusUnknown : Bool := false
  deriving DecidableEq

/-- The runtime's pending fields name the same order as the snapshot. -/
def PendingAligned (runtime : RuntimeFields) (pendingOrder : Option PendingOrderSnapshot) : Prop :=
  ∀ order ∈ pendingOrder,
    runtime.pendingOrderId = some order.orderId ∧
    runtime.pendingStrategy = some order.strategy ∧
    runtime.pendingOrderSide = some order.side ∧
    runtime.pendingOrderAttemptKind = some order.attemptKind

/-- One consistent view of the context for a decision of the state machine. -/
structure TradingContextView where
  version : ℕ
  evaluatedAt : Timestamp
  market : MarketEvaluationSnapshot
  runtime : TradingRuntimeSnapshot
  position : PositionSnapshot := {}
  pendingOrder : Option PendingOrderSnapshot := none
  pending_aligned : PendingAligned runtime.toRuntimeFields pendingOrder := by
    simp [PendingAligned]

end Trading
