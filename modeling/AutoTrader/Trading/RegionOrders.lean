import AutoTrader.Trading.OrderShape
import AutoTrader.Trading.RegionRows
import AutoTrader.Trading.SignalRows

/-!
# Orders of the parallel regions

The shape of every outcome of the three regions of trade management, handler by
handler.

* `RegionOneShape` — region one asks for an order only on an order event.
* `SignalShape` — a signal region asks only for an entry of its own strategy, and on
  other events than region one.
* `handleRegionOne_shape`, `handleCaseCSignalTransition_shape`,
  `handleCaseBSignalTransition_shape` — the three regions.
-/

namespace Trading

variable {context : TradingContextView} {event : TradingEvent} {state : TradingStateConfiguration}
variable {outcome : TransitionOutcome}

/-! ## Region one -/

/-- The events on which region one may ask for an order.  No signal region reacts to
any of them. -/
def isOrderEvent : TradingEventType → Bool
  | .caseBBuyRetry | .caseCBuyRetry
  | .caseBEmergencyStop | .caseBStop | .caseBTimeExit | .caseBTakeProfit | .caseBTrendHoldSell
  | .caseBSellRetry
  | .caseCStop | .caseCTimeExit | .caseCSellAtTpPrice | .caseCEmaDecreasement
  | .caseCSellRetry => true
  | _ => false

/-- Region one asks for an order only on an order event. -/
inductive RegionOneShape (event : TradingEvent) (context : TradingContextView)
    (actions : List TradingActionRequest) : Prop
  | plain (h : AllPlain event context actions)
  | order (hevent : isOrderEvent event.eventType = true) (h : OrderShape event context actions)

theorem RegionOneShape.orderShape {actions : List TradingActionRequest}
    (h : RegionOneShape event context actions) : OrderShape event context actions := by
  cases h with
  | plain h => exact .plain h
  | order _ h => exact h

theorem handlePreparationFeedback_plain
    (h : handlePreparationFeedback state event context = some outcome) :
    AllPlain event context outcome.actionRequests := by
  unfold handlePreparationFeedback at h
  dsimp only at h
  split at h
  · split at h
    · cases h
      simp only [createTransitionOutcome]
      split <;> simp [PlainChange]
    · cases h
  · split at h
    · cases h
      simp only [createTransitionOutcome]
      split <;> simp [PlainChange]
    · cases h
  · cases h

theorem handleOwnershipTransition_shape
    (h : handleOwnershipTransition state event context = some outcome) :
    RegionOneShape event context outcome.actionRequests := by
  cases (handleOwnershipTransition_row h).2 with
  | feedback _ h => exact .plain (handlePreparationFeedback_plain h)
  | caseBOpened => exact .plain (by simp [createTransitionOutcome])
  | caseCOpened => exact .plain (by simp [createTransitionOutcome, PlainChange])
  | buyFailed => exact .plain (by simp [createTransitionOutcome])
  | caseBRetry hevent hretry =>
      simp only [canRetryCaseBEntry, Bool.and_eq_true, Option.isNone_iff_eq_none] at hretry
      exact .order (by rw [hevent]; rfl)
        (createEntryOrderActions_shape .caseB .retry hretry.1.1.1.2 hretry.1.1.1.1)
  | caseCRetry hevent hretry =>
      simp only [canRetryCaseCEntry, Bool.and_eq_true, Option.isNone_iff_eq_none] at hretry
      exact .order (by rw [hevent]; rfl)
        (createEntryOrderActions_shape .caseC .retry hretry.1.1.2 hretry.1.1.1)

theorem checkCaseBHolding_plain (isStart : Bool) :
    AllPlain event context (checkCaseBHolding state isStart context).actionRequests := by
  unfold checkCaseBHolding
  split <;> simp [createTransitionOutcome]

/-- The events of the holding exits are order events. -/
theorem isOrderEvent_of_holdingExit {eventType : TradingEventType} {exit : String × ExitReason}
    (h : caseBHoldingExitByEvent eventType = some exit) : isOrderEvent eventType = true := by
  cases eventType <;> first | rfl | cases h

theorem CaseBHoldingRow.shape (h : CaseBHoldingRow state event context outcome) :
    RegionOneShape event context outcome.actionRequests := by
  cases h with
  | check => exact .plain (checkCaseBHolding_plain _)
  | upperTrend => exact .plain (by simp [createTransitionOutcome])
  | sellFailed => exact .plain (by simp [scheduleCaseBSellRetry, createTransitionOutcome])
  | sellRetry hevent hreason hreturn hpending =>
      exact .order (by rw [hevent]; rfl)
        (createExitOrderActions_shape_retry .caseB hpending hreason hreturn)
  | exit hexit _ hstart =>
      exact .order (isOrderEvent_of_holdingExit hexit)
        (createExitOrderActions_shape_initial .caseB _ _ hstart)

theorem TrendHoldRow.shape (h : TrendHoldRow state event context outcome) :
    RegionOneShape event context outcome.actionRequests := by
  cases h with
  | sell => exact .plain (by simp [createTransitionOutcome])
  | remains => exact .plain (by simp [createTransitionOutcome])
  | exit hevent _ hstart =>
      exact .order (by rw [hevent]; rfl)
        (createExitOrderActions_shape_initial .caseB _ _ hstart)
  | sellFailed => exact .plain (by simp [scheduleCaseBSellRetry, createTransitionOutcome])
  | sellRetry hevent hreason hreturn hpending =>
      exact .order (by rw [hevent]; rfl)
        (createExitOrderActions_shape_retry .caseB hpending hreason hreturn)

theorem handleCaseBPositionTransition_shape
    (h : handleCaseBPositionTransition state event context = .ok (some outcome)) :
    RegionOneShape event context outcome.actionRequests := by
  cases handleCaseBPositionTransition_row h with
  | sellFilled | closed => exact .plain (by simp [createTransitionOutcome])
  | reentered _ _ hinitialization =>
      obtain ⟨enabled, -, hpatch⟩ := Except.bind_eq_ok_iff.mp hinitialization
      cases hpatch
      exact .plain (by simp [createTransitionOutcome, PlainChange])
  | holding _ h => exact h.shape
  | trendHold _ h => exact h.shape

theorem handleTimeExitOrFailure_shape {returnState : PositionReturnState} {failureId : String}
    (h : handleTimeExitOrFailure state event context returnState failureId = some outcome) :
    RegionOneShape event context outcome.actionRequests := by
  unfold handleTimeExitOrFailure at h
  split at h
  · rename_i hexit
    cases h
    exact .order (by rw [hexit.1]; rfl)
      (createExitOrderActions_shape_initial .caseC _ _ hexit.2.2)
  · split at h
    · cases h; exact .plain (by simp [scheduleCaseCSellRetry, createTransitionOutcome])
    · cases h

theorem retryCaseCExit_shape {id : String} {returnState : PositionReturnState}
    (h : retryCaseCExit id state returnState event context = some outcome) :
    RegionOneShape event context outcome.actionRequests := by
  unfold retryCaseCExit at h
  split at h
  · rename_i hreason
    split at h
    · rename_i hretry
      cases h
      exact .order (by rw [hretry.1]; rfl)
        (createExitOrderActions_shape_retry .caseC hretry.2.2 hreason hretry.2.1)
    · cases h
  · cases h

theorem checkCaseCHolding_plain (isStart : Bool) :
    AllPlain event context (checkCaseCHolding state isStart context).actionRequests := by
  unfold checkCaseCHolding
  split <;> simp [createTransitionOutcome]

theorem checkTpTrailing_plain (isStart : Bool) :
    AllPlain event context (checkTpTrailing state isStart context).actionRequests := by
  unfold checkTpTrailing
  split <;> simp [createTransitionOutcome]

theorem enterProfitZone_plain (h : enterProfitZone state context = .ok outcome) :
    AllPlain event context outcome.actionRequests := by
  obtain ⟨width, -, h⟩ := Except.bind_eq_ok_iff.mp h
  obtain ⟨tenth, -, h⟩ := Except.bind_eq_ok_iff.mp h
  obtain ⟨price, -, h⟩ := Except.bind_eq_ok_iff.mp h
  cases h
  simp [createTransitionOutcome, PlainChange]

theorem CaseCHoldingRow.shape (h : CaseCHoldingRow state event context outcome) :
    RegionOneShape event context outcome.actionRequests := by
  cases h with
  | check isStart => exact .plain (checkCaseCHolding_plain isStart)
  | stop hevent _ hstart =>
      exact .order (by rw [hevent]; rfl)
        (createExitOrderActions_shape_initial .caseC _ _ hstart)
  | profitZone _ _ _ h => exact .plain (enterProfitZone_plain h)
  | shared h => exact handleTimeExitOrFailure_shape h
  | sellFailed => exact .plain (by simp [scheduleCaseCSellRetry, createTransitionOutcome])
  | sellRetry h => exact retryCaseCExit_shape h

theorem TpTrailingRow.shape (h : TpTrailingRow state event context outcome) :
    RegionOneShape event context outcome.actionRequests := by
  cases h with
  | check isStart => exact .plain (checkTpTrailing_plain isStart)
  | increased => exact .plain (by simp [createTransitionOutcome, PlainChange])
  | fallback hevent _ hstart | decreased hevent _ hstart =>
      exact .order (by rw [hevent]; rfl)
        (createExitOrderActions_shape_initial .caseC _ _ hstart)
  | shared h => exact handleTimeExitOrFailure_shape h
  | sellFailed => exact .plain (by simp [scheduleCaseCSellRetry, createTransitionOutcome])
  | sellRetry h => exact retryCaseCExit_shape h

theorem handleCaseCPositionTransition_shape
    (h : handleCaseCPositionTransition state event context = .ok (some outcome)) :
    RegionOneShape event context outcome.actionRequests := by
  cases handleCaseCPositionTransition_row h with
  | sellFilled | unrecovered => exact .plain (by simp [createTransitionOutcome])
  | finished | recovered | handedOff =>
      exact .plain (by simp [createTransitionOutcome, PlainChange])
  | holding _ h => exact h.shape
  | tpTrailing _ h => exact h.shape

theorem handleRegionOne_shape (h : handleRegionOne state event context = .ok (some outcome)) :
    RegionOneShape event context outcome.actionRequests := by
  unfold handleRegionOne at h
  split at h
  · exact handleCaseBPositionTransition_shape h
  split at h
  · exact handleCaseCPositionTransition_shape h
  · exact handleOwnershipTransition_shape (Except.ok.inj h)

/-! ## Signal regions -/

/-- The events on which a signal region may ask for an entry order. -/
def isSignalOrderEvent : TradingEventType → Bool
  | .retryCaseCSetupConditionCheck => true
  | .startCaseBWaitPullbackConditionCheck | .retryCaseBWaitPullbackConditionCheck => true
  | _ => false

/-- A signal region asks at most for an entry order of its own strategy. -/
inductive SignalShape (strategy : StrategyType) (event : TradingEvent)
    (context : TradingContextView) (actions : List TradingActionRequest) : Prop
  | plain (h : AllPlain event context actions)
  | order (hevent : isSignalOrderEvent event.eventType = true)
      (hbuy : actions.any (isBuyOf strategy) = true) (h : OrderShape event context actions)

theorem checkSetup_plain (isActivation : Bool) :
    AllPlain event context (checkSetup state isActivation context).actionRequests := by
  unfold checkSetup
  split <;> simp [createTransitionOutcome, PlainChange]

theorem giveUpSetup_plain {id : String} (h : giveUpSetup id state event context = some outcome) :
    AllPlain event context outcome.actionRequests := by
  unfold giveUpSetup at h
  split at h
  · cases h; simp [createTransitionOutcome, PlainChange]
  · cases h

theorem recordFlush_plain {id : String} (h : recordFlush id state context = .ok outcome) :
    AllPlain event context outcome.actionRequests := by
  obtain ⟨pctB, -, h⟩ := Except.bind_eq_ok_iff.mp h
  cases h
  simp [createTransitionOutcome, PlainChange]

theorem restartRecoveryWindow_plain (h : restartRecoveryWindow state context = .ok outcome) :
    AllPlain event context outcome.actionRequests := by
  obtain ⟨pctB, -, h⟩ := Except.bind_eq_ok_iff.mp h
  cases h
  simp [createTransitionOutcome, PlainChange]

theorem buyCaseC_shape (hevent : isSignalOrderEvent event.eventType = true)
    (hpending : context.runtime.pendingOrderId = none)
    (howner : context.runtime.positionOwner = none) :
    SignalShape .caseC event context (buyCaseC state event context).actionRequests := by
  refine .order hevent ?_ ?_
  · simp [buyCaseC, createTransitionOutcome, createEntryOrderActions, isBuyOf, patch]
  · exact @OrderShape.prepend _ _ [_] _ (by simp [PlainChange])
      (createEntryOrderActions_shape .caseC .initial hpending howner)

theorem checkRebound_shape (hevent : isSignalOrderEvent event.eventType = true)
    (h : checkRebound state event context = some outcome) :
    SignalShape .caseC event context outcome.actionRequests := by
  unfold checkRebound at h
  split at h
  · rename_i hbuy
    simp only [canBuyCaseC, Bool.and_eq_true, Option.isNone_iff_eq_none] at hbuy
    cases h
    exact buyCaseC_shape hevent hbuy.1.1.2 hbuy.1.1.1
  split at h
  · cases h; exact .plain (by simp [createTransitionOutcome])
  split at h
  · cases h; exact .plain (by simp [createTransitionOutcome])
  · cases h

theorem handleCaseCSignalTransition_shape
    (h : handleCaseCSignalTransition state event context = .ok (some outcome)) :
    SignalShape .caseC event context outcome.actionRequests := by
  cases handleCaseCSignalTransition_row h with
  | check isActivation => exact .plain (checkSetup_plain isActivation)
  | giveUpWaiting _ h | giveUp _ h => exact .plain (giveUpSetup_plain h)
  | start => exact .plain (by simp [startSetup, createTransitionOutcome, PlainChange])
  | consume => exact .plain (by simp [consumeSetup, createTransitionOutcome, PlainChange])
  | flush _ _ _ h => exact .plain (recordFlush_plain h)
  | restart _ _ h => exact .plain (restartRecoveryWindow_plain h)
  | rebound _ hevent h => exact checkRebound_shape (by rw [hevent]; rfl) h
  | opened => exact .plain (by simp [createTransitionOutcome])
  | lost => exact .plain (by simp [createTransitionOutcome, PlainChange])

theorem handleCaseBPermission_plain {pausedId resumedId waitOnlyId : String}
    (h : handleCaseBPermission state event context pausedId resumedId waitOnlyId = some outcome) :
    AllPlain event context outcome.actionRequests := by
  unfold handleCaseBPermission at h
  split at h
  · split at h
    · cases h; simp [createTransitionOutcome, PlainChange]
    · cases h
  · split at h
    · cases h; simp [createTransitionOutcome, PlainChange]
    · cases h
  · split at h
    · cases h
    · cases h; simp [createTransitionOutcome, PlainChange]
  · cases h

theorem checkWaitPullback_shape {isStart : Bool}
    (hevent : isSignalOrderEvent event.eventType = true)
    (h : checkWaitPullback state isStart event context = some outcome) :
    SignalShape .caseB event context outcome.actionRequests := by
  unfold checkWaitPullback at h
  split at h
  · cases h; exact .plain (by simp [createTransitionOutcome])
  split at h
  · rename_i hbuy
    simp only [canBuyCaseB, Bool.and_eq_true, Option.isNone_iff_eq_none] at hbuy
    cases h
    refine .order hevent ?_
      (createEntryOrderActions_shape .caseB .initial hbuy.1.1.1.2 hbuy.1.1.1.1)
    simp [createTransitionOutcome, createEntryOrderActions, isBuyOf, patch]
  split at h
  · cases h; exact .plain (by simp [createTransitionOutcome])
  · cases h

theorem handleCaseBSignalTransition_shape
    (h : handleCaseBSignalTransition state event context = some outcome) :
    SignalShape .caseB event context outcome.actionRequests := by
  cases handleCaseBSignalTransition_row h with
  | takesPart | staysOut => exact .plain (by simp [createTransitionOutcome, PlainChange])
  | noSignal => exact .plain (by simp [createTransitionOutcome])
  | signal => exact .plain (by simp [createCaseBSignal, createTransitionOutcome, PlainChange])
  | permissionOfSignal _ h | permissionOfPullback _ h => exact .plain (handleCaseBPermission_plain h)
  | pullback isStart _ hevent h =>
      exact checkWaitPullback_shape (by rw [hevent]; cases isStart <;> rfl) h
  | opened => exact .plain (by simp [createTransitionOutcome])
  | lost => exact .plain (by simp [createTransitionOutcome, PlainChange])

end Trading
