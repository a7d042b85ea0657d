import AutoTrader.Trading.BatchRequests
import AutoTrader.Trading.RegionRows
import AutoTrader.Trading.SignalRows

/-!
# The order fields in a microstep

When a microstep writes the runtime's order fields, which cancellations it asks for, and
when it ends a session.

* `releasesOrder` — the steps that release the order fields without looking whether an
  order is pending: a preparation feedback and a reflected exit.
* `RegionOneBatch`, `SignalBatch`, `StepBatch` — what the parts of a microstep ask for.
* `handleGlobalTransition_batch` — what comes before the order pipeline is asked, and what comes after.
-/

namespace Trading

variable {context : TradingContextView} {event : TradingEvent} {state : TradingStateConfiguration}
  {outcome : TransitionOutcome}

/-! ## Region one -/

/-- O-03 and O-07 on a preparation feedback: the signal is watched again. -/
def returnsToWatch (state : TradingStateConfiguration) (event : TradingEvent) : Bool :=
  state.ownershipState == some .noPosition &&
    (event.eventType == .buyRiskBlocked || event.eventType == .orderPreparationExpired) &&
    match preparationFeedbackStrategy event with
    | some .caseB => event.eventType == .orderPreparationExpired ||
        state.caseBSignalState == some .bPositionOpenSignalled
    | some .caseC => event.eventType == .orderPreparationExpired ||
        state.caseCSignalState == some .cPositionOpenSignalled
    | none => false

/-- PB-23F and PC-23F: the fill of an exit is reflected in position and history. -/
def reflectsExit (state : TradingStateConfiguration) (event : TradingEvent)
    (context : TradingContextView) : Bool :=
  context.runtime.positionOwner.isNone && context.runtime.pendingExitReason.isSome &&
    match event.eventType with
    | .caseBSellFilled =>
        (state.caseBPositionState == some .caseBHolding ||
          state.caseBPositionState == some .caseBTrendHold) &&
          context.runtime.caseBExitReason == context.runtime.pendingExitReason
    | .caseCSellFilled =>
        (state.caseCPositionState == some .caseCHolding ||
          state.caseCPositionState == some .caseCTpTrailing) &&
          context.runtime.caseCExitReason == context.runtime.pendingExitReason
    | _ => false

/-- The step releases the order fields without looking whether an order is pending. -/
def releasesOrder (state : TradingStateConfiguration) (event : TradingEvent)
    (context : TradingContextView) : Bool :=
  returnsToWatch state event || reflectsExit state event context

/-- What region one asks for. -/
inductive RegionOneRequests (released : Bool) (context : TradingContextView) :
    List TradingActionRequest → Prop
  | silent {actions : List TradingActionRequest} (h : AllSilent actions) :
      RegionOneRequests released context actions
  | release {changes : List RuntimeFieldChange} {rest : List TradingActionRequest}
      (hrelease : released = true) (hchanges : Releases changes) (hrest : AllSilent rest) :
      RegionOneRequests released context (.patchRuntimeContext changes :: rest)
  | order {changes : List RuntimeFieldChange} {order : SubmitOrder}
      (hpending : context.runtime.pendingOrderId = none) (hchanges : Loose changes) :
      RegionOneRequests released context [.patchRuntimeContext changes, .submitOrder order]

/-- The roots a transition of a region goes to. -/
def KeepsRunning (state after : TradingStateConfiguration) : Prop :=
  after.rootState = state.rootState ∨ after.rootState = .lowerTouchWatch ∨
    after.rootState = .tradeManagement

@[simp] theorem keepsRunning_self : KeepsRunning state state := .inl rfl

@[simp] theorem keepsRunning_withOwnership (region : OwnershipRegion) :
    KeepsRunning state (state.withOwnership region) := .inl (by simp)

@[simp] theorem keepsRunning_withCaseBSignal (signal : CaseBSignalState) :
    KeepsRunning state (state.withCaseBSignal signal) := .inl (by simp)

@[simp] theorem keepsRunning_withCaseCSignal (signal : CaseCSignalState) :
    KeepsRunning state (state.withCaseCSignal signal) := .inl (by simp)

/-- What region one asks for, and where it goes. -/
structure RegionOneBatch (released : Bool) (state : TradingStateConfiguration)
    (context : TradingContextView) (outcome : TransitionOutcome) : Prop where
  requests : RegionOneRequests released context outcome.actionRequests
  running : KeepsRunning state outcome.stateAfter

section RegionOne

variable {released : Bool} {id : String} {extra : List String}
  {actions : List TradingActionRequest} {after : TradingStateConfiguration} {exclusive : Bool}

/-- A transition without order fields. -/
theorem RegionOneBatch.silent (h : AllSilent actions) (hafter : KeepsRunning state after) :
    RegionOneBatch released state context
      (createTransitionOutcome id after actions extra exclusive) :=
  ⟨.silent h, hafter⟩

/-- A transition that only orders an entry. -/
theorem RegionOneBatch.entry (strategy : StrategyType) (attemptKind : OrderAttemptKind)
    (hpending : context.runtime.pendingOrderId = none) :
    RegionOneBatch released state context
      (createTransitionOutcome id state
        (createEntryOrderActions strategy attemptKind event context)) := by
  refine ⟨?_, keepsRunning_self⟩
  obtain ⟨changes, order, heq, hloose⟩ :=
    createEntryOrderActions_loose strategy attemptKind event context
  rw [createTransitionOutcome, heq]
  exact .order hpending hloose

/-- A transition that only orders an exit. -/
theorem RegionOneBatch.exit (strategy : StrategyType) (reason : ExitReason)
    (returnState : PositionReturnState) (attemptKind : OrderAttemptKind)
    (hpending : context.runtime.pendingOrderId = none) :
    RegionOneBatch released state context
      (createTransitionOutcome id state
        (createExitOrderActions strategy reason returnState event context attemptKind)) := by
  refine ⟨?_, keepsRunning_self⟩
  obtain ⟨changes, order, heq, hloose⟩ :=
    createExitOrderActions_loose strategy reason returnState event context attemptKind
  rw [createTransitionOutcome, heq]
  exact .order hpending hloose

/-! ### Ownership -/

theorem handlePreparationFeedback_batch
    (hstate : state.ownershipState = some .noPosition)
    (hevent : event.eventType = .buyRiskBlocked ∨ event.eventType = .orderPreparationExpired)
    (h : handlePreparationFeedback state event context = some outcome) :
    RegionOneBatch (returnsToWatch state event) state context outcome := by
  have htype : (event.eventType == .buyRiskBlocked ||
      event.eventType == .orderPreparationExpired) = true := by
    simpa using hevent
  unfold handlePreparationFeedback at h
  dsimp only at h
  split at h
  case h_1 hstrategy =>
    split at h
    · rename_i hwatch
      cases h
      refine ⟨.release ?_ releases_feedback ?_, by simp [createTransitionOutcome]⟩
      · simpa [returnsToWatch, hstate, htype, hstrategy] using hwatch
      · split <;> simp
    · cases h
  case h_2 hstrategy =>
    split at h
    · rename_i hwatch
      cases h
      refine ⟨.release ?_ releases_feedback ?_, by simp [createTransitionOutcome]⟩
      · simpa [returnsToWatch, hstate, htype, hstrategy] using hwatch
      · split <;> simp
    · cases h
  case h_3 => cases h

theorem handleOwnershipTransition_batch
    (h : handleOwnershipTransition state event context = some outcome) :
    RegionOneBatch (returnsToWatch state event) state context outcome := by
  obtain ⟨hstate, hrow⟩ := handleOwnershipTransition_row h
  cases hrow with
  | feedback hevent h => exact handlePreparationFeedback_batch hstate hevent h
  | caseBOpened => exact .silent (by simp) (by simp)
  | caseCOpened => exact .silent (by simp [RuntimeField.isOrderField]) (by simp)
  | buyFailed => exact .silent (by simp) (by simp)
  | caseBRetry _ hretry =>
      simp only [canRetryCaseBEntry, Bool.and_eq_true, Option.isNone_iff_eq_none] at hretry
      exact .entry _ _ hretry.1.1.1.2
  | caseCRetry _ hretry =>
      simp only [canRetryCaseCEntry, Bool.and_eq_true, Option.isNone_iff_eq_none] at hretry
      exact .entry _ _ hretry.1.1.2

/-! ### Case B -/

theorem canStartExit_pendingOrderId (h : canStartExit context = true) :
    context.runtime.pendingOrderId = none := by
  simp only [canStartExit, Bool.and_eq_true, Option.isNone_iff_eq_none] at h
  exact h.1

theorem checkCaseBHolding_batch (isStart : Bool) :
    RegionOneBatch released state context (checkCaseBHolding state isStart context) := by
  unfold checkCaseBHolding
  split <;> exact .silent (by simp) (by simp)

theorem CaseBHoldingRow.batch (h : CaseBHoldingRow state event context outcome) :
    RegionOneBatch released state context outcome := by
  cases h with
  | check => exact checkCaseBHolding_batch _
  | upperTrend | sellFailed => exact .silent (by simp) (by simp)
  | sellRetry _ _ _ hpending => exact .exit _ _ _ _ hpending
  | exit _ _ hstart => exact .exit _ _ _ _ (canStartExit_pendingOrderId hstart)

theorem TrendHoldRow.batch (h : TrendHoldRow state event context outcome) :
    RegionOneBatch released state context outcome := by
  cases h with
  | sell | remains | sellFailed => exact .silent (by simp) (by simp)
  | exit _ _ hstart => exact .exit _ _ _ _ (canStartExit_pendingOrderId hstart)
  | sellRetry _ _ _ hpending => exact .exit _ _ _ _ hpending

theorem handleCaseBPositionTransition_batch
    (h : handleCaseBPositionTransition state event context = .ok (some outcome)) :
    RegionOneBatch (reflectsExit state event context) state context outcome := by
  cases handleCaseBPositionTransition_row h with
  | sellFilled hstate hevent hsubstate howner hreason hsame =>
      refine ⟨.release ?_ releases_clearExit (by simp), by simp [createTransitionOutcome]⟩
      simpa [reflectsExit, hevent, hstate, howner, hreason, hsame] using hsubstate
  | reentered _ _ hinitialization =>
      obtain ⟨enabled, -, hpatch⟩ := Except.bind_eq_ok_iff.mp hinitialization
      cases hpatch
      exact .silent (by simp [RuntimeField.isOrderField]) (.inr (.inr rfl))
  | closed => exact .silent (by simp) (.inr (.inl rfl))
  | holding _ h => exact h.batch
  | trendHold _ h => exact h.batch

/-! ### Case C -/

theorem handleTimeExitOrFailure_batch {returnState : PositionReturnState} {failureId : String}
    (h : handleTimeExitOrFailure state event context returnState failureId = some outcome) :
    RegionOneBatch released state context outcome := by
  unfold handleTimeExitOrFailure at h
  split at h
  · rename_i hexit
    cases h
    exact .exit _ _ _ _ (canStartExit_pendingOrderId hexit.2.2)
  · split at h
    · cases h; exact .silent (by simp) (by simp)
    · cases h

theorem retryCaseCExit_batch {returnState : PositionReturnState}
    (h : retryCaseCExit id state returnState event context = some outcome) :
    RegionOneBatch released state context outcome := by
  unfold retryCaseCExit at h
  split at h
  · split at h
    · rename_i hretry
      cases h
      exact .exit _ _ _ _ hretry.2.2
    · cases h
  · cases h

theorem checkCaseCHolding_batch (isStart : Bool) :
    RegionOneBatch released state context (checkCaseCHolding state isStart context) := by
  unfold checkCaseCHolding
  split <;> exact .silent (by simp) (by simp)

theorem checkTpTrailing_batch (isStart : Bool) :
    RegionOneBatch released state context (checkTpTrailing state isStart context) := by
  unfold checkTpTrailing
  split <;> exact .silent (by simp) (by simp)

theorem enterProfitZone_batch (h : enterProfitZone state context = .ok outcome) :
    RegionOneBatch released state context outcome := by
  obtain ⟨width, -, h⟩ := Except.bind_eq_ok_iff.mp h
  obtain ⟨tenth, -, h⟩ := Except.bind_eq_ok_iff.mp h
  obtain ⟨price, -, h⟩ := Except.bind_eq_ok_iff.mp h
  cases h
  exact .silent (by simp [RuntimeField.isOrderField]) (by simp)

theorem CaseCHoldingRow.batch (h : CaseCHoldingRow state event context outcome) :
    RegionOneBatch released state context outcome := by
  cases h with
  | check isStart => exact checkCaseCHolding_batch isStart
  | stop _ _ hstart => exact .exit _ _ _ _ (canStartExit_pendingOrderId hstart)
  | profitZone _ _ _ h => exact enterProfitZone_batch h
  | shared h => exact handleTimeExitOrFailure_batch h
  | sellFailed => exact .silent (by simp) (by simp)
  | sellRetry h => exact retryCaseCExit_batch h

theorem TpTrailingRow.batch (h : TpTrailingRow state event context outcome) :
    RegionOneBatch released state context outcome := by
  cases h with
  | check isStart => exact checkTpTrailing_batch isStart
  | increased => exact .silent (by simp [RuntimeField.isOrderField]) (by simp)
  | fallback _ _ hstart | decreased _ _ hstart =>
      exact .exit _ _ _ _ (canStartExit_pendingOrderId hstart)
  | shared h => exact handleTimeExitOrFailure_batch h
  | sellFailed => exact .silent (by simp) (by simp)
  | sellRetry h => exact retryCaseCExit_batch h

theorem handleCaseCPositionTransition_batch
    (h : handleCaseCPositionTransition state event context = .ok (some outcome)) :
    RegionOneBatch (reflectsExit state event context) state context outcome := by
  cases handleCaseCPositionTransition_row h with
  | sellFilled hstate hevent hsubstate howner hreason hsame =>
      refine ⟨.release ?_ releases_clearExit (by simp), by simp [createTransitionOutcome]⟩
      simpa [reflectsExit, hevent, hstate, howner, hreason, hsame] using hsubstate
  | finished | recovered | handedOff =>
      exact .silent (by simp [RuntimeField.isOrderField]) (by simp)
  | unrecovered => exact .silent (by simp) (by simp)
  | holding _ h => exact h.batch
  | tpTrailing _ h => exact h.batch

theorem RegionOneRequests.mono {more : Bool} (h : RegionOneRequests released context actions)
    (hmore : released = true → more = true) : RegionOneRequests more context actions := by
  cases h with
  | silent h => exact .silent h
  | release hrelease hchanges hrest => exact .release (hmore hrelease) hchanges hrest
  | order hpending hchanges => exact .order hpending hchanges

theorem RegionOneBatch.mono {more : Bool} (h : RegionOneBatch released state context outcome)
    (hmore : released = true → more = true) : RegionOneBatch more state context outcome :=
  ⟨h.requests.mono hmore, h.running⟩

theorem handleRegionOne_batch (h : handleRegionOne state event context = .ok (some outcome)) :
    RegionOneBatch (releasesOrder state event context) state context outcome := by
  unfold handleRegionOne at h
  split at h
  · exact (handleCaseBPositionTransition_batch h).mono (by simp +contextual [releasesOrder])
  split at h
  · exact (handleCaseCPositionTransition_batch h).mono (by simp +contextual [releasesOrder])
  · exact (handleOwnershipTransition_batch (Except.ok.inj h)).mono
      (by simp +contextual [releasesOrder])

/-- Rewriting the event for region one makes no feedback and no fill. -/
theorem releasesOrder_resolveRegionOneEvent
    (h : releasesOrder state (resolveRegionOneEvent state event) context = true) :
    releasesOrder state event context = true := by
  unfold resolveRegionOneEvent at h
  split at h
  · exact h
  · split at h
    case h_6 => exact h
    all_goals simp [releasesOrder, returnsToWatch, reflectsExit] at h

end RegionOne

/-! ## Signal regions -/

/-- The strategy that competes for the entry. -/
def StrategyType.rival : StrategyType → StrategyType
  | .caseB => .caseC
  | .caseC => .caseB

/-- The event that the position of the strategy was opened. -/
def StrategyType.positionOpened : StrategyType → TradingEventType
  | .caseB => .caseBPositionOpened
  | .caseC => .caseCPositionOpened

/-- The signal region of the strategy waits for its entry order. -/
def entrySignalled (strategy : StrategyType) (state : TradingStateConfiguration) : Bool :=
  match strategy with
  | .caseB => state.caseBSignalState == some .bPositionOpenSignalled
  | .caseC => state.caseCSignalState == some .cPositionOpenSignalled

/-- B-19 and C-17: the position of the rival was opened while the entry is signalled. -/
def losesArbitration (strategy : StrategyType) (state : TradingStateConfiguration)
    (event : TradingEvent) (context : TradingContextView) : Bool :=
  entrySignalled strategy state && event.eventType == strategy.rival.positionOpened &&
    context.runtime.positionOwner == some strategy.rival

/-- What the signal region of a strategy asks for. -/
inductive SignalRequests (strategy : StrategyType) (state : TradingStateConfiguration)
    (event : TradingEvent) (context : TradingContextView) : List TradingActionRequest → Prop
  | silent {actions : List TradingActionRequest} (h : AllSilent actions) :
      SignalRequests strategy state event context actions
  | entry {before : List TradingActionRequest} {changes : List RuntimeFieldChange}
      {order : SubmitOrder} (hevent : isSignalOrderEvent event.eventType = true)
      (hpending : context.runtime.pendingOrderId = none) (hbefore : AllSilent before)
      (hchanges : Loose changes) :
      SignalRequests strategy state event context
        (before ++ [.patchRuntimeContext changes, .submitOrder order])
  | cancel {reason : String} {changes : List RuntimeFieldChange}
      (hloses : losesArbitration strategy state event context = true)
      (hchanges : Quiet (.patchRuntimeContext changes)) :
      SignalRequests strategy state event context
        [.cancelPendingOrder context.runtime.pendingOrderId reason, .patchRuntimeContext changes]

/-- What the signal region of a strategy asks for, and where it goes. -/
structure SignalBatch (strategy : StrategyType) (state : TradingStateConfiguration)
    (event : TradingEvent) (context : TradingContextView) (outcome : TransitionOutcome) :
    Prop where
  requests : SignalRequests strategy state event context outcome.actionRequests
  running : KeepsRunning state outcome.stateAfter

section Signals

variable {strategy : StrategyType} {id : String} {extra : List String}
  {actions : List TradingActionRequest} {after : TradingStateConfiguration} {exclusive : Bool}

theorem SignalBatch.silent (h : AllSilent actions) (hafter : KeepsRunning state after) :
    SignalBatch strategy state event context
      (createTransitionOutcome id after actions extra exclusive) :=
  ⟨.silent h, hafter⟩

theorem checkSetup_batch (isActivation : Bool) :
    SignalBatch .caseC state event context (checkSetup state isActivation context) := by
  unfold checkSetup
  split <;> exact .silent (by simp [RuntimeField.isOrderField]) (by simp)

theorem giveUpSetup_batch
    (h : giveUpSetup id state event context = some outcome) :
    SignalBatch .caseC state event context outcome := by
  unfold giveUpSetup at h
  split at h
  · cases h; exact .silent (by simp [RuntimeField.isOrderField]) (by simp)
  · cases h

theorem recordFlush_batch
    (h : recordFlush id state context = .ok outcome) :
    SignalBatch .caseC state event context outcome := by
  obtain ⟨pctB, -, h⟩ := Except.bind_eq_ok_iff.mp h
  cases h
  exact .silent (by simp [RuntimeField.isOrderField]) (by simp)

theorem restartRecoveryWindow_batch
    (h : restartRecoveryWindow state context = .ok outcome) :
    SignalBatch .caseC state event context outcome := by
  obtain ⟨pctB, -, h⟩ := Except.bind_eq_ok_iff.mp h
  cases h
  exact .silent (by simp [RuntimeField.isOrderField]) (by simp)

theorem checkRebound_batch
    (hevent : isSignalOrderEvent event.eventType = true)
    (h : checkRebound state event context = some outcome) :
    SignalBatch .caseC state event context outcome := by
  unfold checkRebound at h
  split at h
  · rename_i hbuy
    simp only [canBuyCaseC, Bool.and_eq_true, Option.isNone_iff_eq_none] at hbuy
    cases h
    obtain ⟨changes, order, heq, hloose⟩ :=
      createEntryOrderActions_loose .caseC .initial event context
    refine ⟨?_, by simp [buyCaseC, createTransitionOutcome]⟩
    rw [buyCaseC, createTransitionOutcome, heq]
    exact @SignalRequests.entry _ _ _ _ [_] _ _ hevent hbuy.1.1.2
      (by simp [RuntimeField.isOrderField]) hloose
  split at h
  · cases h; exact .silent (by simp) (by simp)
  split at h
  · cases h; exact .silent (by simp) (by simp)
  · cases h

theorem handleCaseCSignalTransition_batch
    (h : handleCaseCSignalTransition state event context = .ok (some outcome)) :
    SignalBatch .caseC state event context outcome := by
  cases handleCaseCSignalTransition_row h with
  | check isActivation => exact checkSetup_batch isActivation
  | giveUpWaiting _ h | giveUp _ h => exact giveUpSetup_batch h
  | start | consume => exact .silent (by simp [RuntimeField.isOrderField]) (by simp)
  | flush _ _ _ h => exact recordFlush_batch h
  | restart _ _ h => exact restartRecoveryWindow_batch h
  | rebound _ hevent h => exact checkRebound_batch (by rw [hevent]; rfl) h
  | opened => exact .silent (by simp) (by simp)
  | lost hstate hevent howner =>
      refine ⟨.cancel ?_ (by simp [Quiet, RuntimeField.isOrderField]),
        by simp [createTransitionOutcome]⟩
      simp [losesArbitration, entrySignalled, hstate, hevent, howner, StrategyType.rival,
        StrategyType.positionOpened]

theorem handleCaseBPermission_batch {pausedId resumedId waitOnlyId : String}
    (h : handleCaseBPermission state event context pausedId resumedId waitOnlyId = some outcome) :
    SignalBatch .caseB state event context outcome := by
  unfold handleCaseBPermission at h
  split at h
  · split at h
    · cases h; exact .silent (by simp [RuntimeField.isOrderField]) (by simp)
    · cases h
  · split at h
    · cases h; exact .silent (by simp [RuntimeField.isOrderField]) (by simp)
    · cases h
  · split at h
    · cases h
    · cases h; exact .silent (by simp [RuntimeField.isOrderField]) (by simp)
  · cases h

theorem checkWaitPullback_batch {isStart : Bool}
    (hevent : isSignalOrderEvent event.eventType = true)
    (h : checkWaitPullback state isStart event context = some outcome) :
    SignalBatch .caseB state event context outcome := by
  unfold checkWaitPullback at h
  split at h
  · cases h; exact .silent (by simp) (by simp)
  split at h
  · rename_i hbuy
    simp only [canBuyCaseB, Bool.and_eq_true, Option.isNone_iff_eq_none] at hbuy
    cases h
    obtain ⟨changes, order, heq, hloose⟩ :=
      createEntryOrderActions_loose .caseB .initial event context
    refine ⟨?_, by simp [createTransitionOutcome]⟩
    rw [createTransitionOutcome, heq]
    exact @SignalRequests.entry _ _ _ _ [] _ _ hevent hbuy.1.1.1.2 allSilent_nil hloose
  split at h
  · cases h; exact .silent (by simp) (by simp)
  · cases h

theorem handleCaseBSignalTransition_batch
    (h : handleCaseBSignalTransition state event context = some outcome) :
    SignalBatch .caseB state event context outcome := by
  cases handleCaseBSignalTransition_row h with
  | takesPart | staysOut | signal =>
      exact .silent (by simp [RuntimeField.isOrderField]) (by simp)
  | noSignal | opened => exact .silent (by simp) (by simp)
  | permissionOfSignal _ h | permissionOfPullback _ h => exact handleCaseBPermission_batch h
  | pullback isStart _ hevent h =>
      exact checkWaitPullback_batch (by rw [hevent]; cases isStart <;> rfl) h
  | lost hstate hevent howner =>
      refine ⟨.cancel ?_ (by simp [Quiet, RuntimeField.isOrderField]),
        by simp [createTransitionOutcome]⟩
      simp [losesArbitration, entrySignalled, hstate, hevent, howner, StrategyType.rival,
        StrategyType.positionOpened]

end Signals

/-! ## The global layer -/

/-- The batches of a microstep.  The context takes a patch of order fields only while no
order is pending, so it stands before whatever is asked of the order pipeline. -/
inductive BatchRequests (state : TradingStateConfiguration) (event : TradingEvent)
    (context : TradingContextView) : List TradingActionRequest → Prop
  | quiet {actions : List TradingActionRequest} (h : AllQuiet actions) :
      BatchRequests state event context actions
  | inner {before after : List TradingActionRequest}
      (hfree : context.runtime.pendingOrderId = none ∨ state.rootState = .notStarted)
      (hbefore : AllInner before) (hafter : AllQuiet after) :
      BatchRequests state event context (before ++ after)
  | release {changes : List RuntimeFieldChange} {rest : List TradingActionRequest}
      (hrelease : releasesOrder state event context = true) (hchanges : Releases changes)
      (hrest : AllQuiet rest) :
      BatchRequests state event context (.patchRuntimeContext changes :: rest)

/-- A batch that stays inside the session. -/
theorem BatchRequests.allInner {actions : List TradingActionRequest}
    (hfree : context.runtime.pendingOrderId = none ∨ state.rootState = .notStarted)
    (h : AllInner actions) : BatchRequests state event context actions := by
  rw [← List.append_nil actions]
  exact .inner hfree h allQuiet_nil

/-- Every cancellation names the pending order of the runtime, on a STOP or for a strategy
that lost the entry. -/
def CancelsPending (state : TradingStateConfiguration) (event : TradingEvent)
    (context : TradingContextView) (actions : List TradingActionRequest) : Prop :=
  ∀ id reason, .cancelPendingOrder id reason ∈ actions →
    id = context.runtime.pendingOrderId ∧
      ((event.eventType = .stopConfirmed ∧ id ≠ none) ∨
        ∃ strategy, losesArbitration strategy state event context = true)

/-- The requests of G-05, a STOP without a position. -/
def stopWithoutPosition : List TradingActionRequest := [
  .closeLowerEvent "STOP_WITHOUT_POSITION",
  .resetCaseBContext false,
  .resetCaseCContext false false,
  patch [
    ⟨.positionOwner, none⟩,
    ⟨.pendingStrategy, none⟩,
    ⟨.pendingOrderSide, none⟩,
    ⟨.pendingOrderId, none⟩,
    ⟨.pendingOrderAttemptKind, none⟩,
    ⟨.pendingIntentId, none⟩,
    ⟨.tradingPhase, .terminated⟩],
  .cancelScheduledEvaluation "trading-session",
  .stopTradingRuntime "STOP_WITHOUT_POSITION"]

/-- How a step ends the session: G-05 and G-06F, with no order pending. -/
inductive EndsSession (event : TradingEvent) (context : TradingContextView) :
    List TradingActionRequest → Prop
  | stop (hevent : event.eventType = .stopConfirmed)
      (hpending : context.runtime.pendingOrderId = none) :
      EndsSession event context stopWithoutPosition
  | forceSell (hevent : event.eventType = .forceSellFinished)
      (hpending : context.runtime.pendingOrderId = none) :
      EndsSession event context handleForceSellFinished.actionRequests

/-- What a microstep asks for, and where it goes. -/
structure StepBatch (state : TradingStateConfiguration) (event : TradingEvent)
    (context : TradingContextView) (after : TradingStateConfiguration)
    (actions : List TradingActionRequest) : Prop where
  requests : BatchRequests state event context actions
  cancels : CancelsPending state event context actions
  ends : after.rootState = .logicTerminated →
    state.rootState = .logicTerminated ∨ EndsSession event context actions
  starts : after.rootState = .notStarted → state.rootState = .notStarted ∧ actions = []

section Global

variable {actions : List TradingActionRequest} {after : TradingStateConfiguration}
  {extra : List String} {id : String}

theorem cancelsPending_of_not_mem (h : ∀ id reason, .cancelPendingOrder id reason ∉ actions) :
    CancelsPending state event context actions :=
  fun id reason hmem => absurd hmem (h id reason)

theorem AllInner.not_mem (h : AllInner actions) {cancelled : Option String} {reason : String} :
    .cancelPendingOrder cancelled reason ∉ actions :=
  fun hmem => Bool.noConfusion (h _ hmem : true = false)

/-- A transition inside the session that does not end it. -/
theorem StepBatch.inner
    (hfree : context.runtime.pendingOrderId = none ∨ state.rootState = .notStarted)
    (h : AllInner actions) (hends : after.rootState ≠ .logicTerminated)
    (hstarts : after.rootState ≠ .notStarted) : StepBatch state event context after actions where
  requests := .allInner hfree h
  cancels := cancelsPending_of_not_mem fun _ _ => h.not_mem
  ends := fun hroot => absurd hroot hends
  starts := fun hroot => absurd hroot hstarts

@[simp] theorem inner_closeLowerEvent (text : String) : Inner (.closeLowerEvent text) := rfl

@[simp] theorem inner_resetCaseBContext (b : Bool) : Inner (.resetCaseBContext b) := rfl

@[simp] theorem inner_resetCaseCContext (b c : Bool) : Inner (.resetCaseCContext b c) := rfl

@[simp] theorem inner_cancelScheduledEvaluation (text : String) :
    Inner (.cancelScheduledEvaluation text) := rfl

@[simp] theorem inner_stopTradingRuntime (text : String) : Inner (.stopTradingRuntime text) := rfl

theorem openLowerEventActions_silent
    (h : openLowerEventActions event context = .ok actions) : AllSilent actions := by
  obtain ⟨initialization, hinit, hactions⟩ := Except.bind_eq_ok_iff.mp h
  obtain ⟨enabled, -, hpatch⟩ := Except.bind_eq_ok_iff.mp hinit
  cases hpatch
  cases hactions
  simp [RuntimeField.isOrderField]

/-- A transition without order fields. -/
theorem StepBatch.silent (h : AllSilent actions) (hends : after.rootState ≠ .logicTerminated)
    (hstarts : after.rootState ≠ .notStarted) : StepBatch state event context after actions where
  requests := .quiet h.allQuiet
  cancels := cancelsPending_of_not_mem fun _ _ => h.allInner.not_mem
  ends := fun hroot => absurd hroot hends
  starts := fun hroot => absurd hroot hstarts

theorem handleGlobalTransition_batch
    (h : handleGlobalTransition state event context = .ok (some outcome)) :
    StepBatch state event context outcome.stateAfter outcome.actionRequests := by
  cases handleGlobalTransition_row h with
  | deferred _ _ hroot _ _ hpending =>
      exact .inner (.inl hpending) (by simp) (by simp [hroot]) (by simp [hroot])
  | @stopPending pendingOrderId hevent hpending =>
      refine ⟨.quiet ?_, ?_, (fun hend => by cases hend), fun hstart => by cases hstart⟩
      · simp only [createTransitionOutcome]
        split <;> simp [RuntimeField.isOrderField]
      · intro id reason hmem
        have hid : id = some pendingOrderId := by
          simp only [createTransitionOutcome] at hmem
          split at hmem
          · simpa [patch] using And.left (by simpa [patch] using hmem)
          · simp [patch] at hmem
        exact ⟨hid.trans hpending.symm, .inl ⟨hevent, by simp [hid]⟩⟩
  | stopHolding =>
      refine ⟨.quiet ?_, ?_, (fun hend => by cases hend), fun hstart => by cases hstart⟩
      · simp [createTransitionOutcome, RuntimeField.isOrderField]
      · exact cancelsPending_of_not_mem (by simp [createTransitionOutcome, patch])
  | stopFree hevent hpending =>
      have hinner : AllInner stopWithoutPosition := by
        simp [stopWithoutPosition, loose_stopWithoutPosition]
      exact ⟨.allInner (.inl hpending) hinner, cancelsPending_of_not_mem fun _ _ => hinner.not_mem,
        fun _ => .inr (.stop hevent hpending), fun hstart => by cases hstart⟩
  | forceSellFinished _ hevent hpending =>
      have hinner : AllInner handleForceSellFinished.actionRequests := by
        simp [handleForceSellFinished, createTransitionOutcome]
      exact ⟨.allInner (.inl hpending) hinner, cancelsPending_of_not_mem fun _ _ => hinner.not_mem,
        fun _ => .inr (.forceSell hevent hpending), fun hstart => by cases hstart⟩
  | forceSellFailed hroot =>
      refine ⟨.quiet (by simp [retryForceSell, createTransitionOutcome]),
        cancelsPending_of_not_mem (by simp [retryForceSell, createTransitionOutcome]), ?_, ?_⟩
      · exact fun hend => absurd (hend.symm.trans hroot) (by decide)
      · exact fun hstart => absurd (hstart.symm.trans hroot) (by decide)
  | upperBusy hroot =>
      exact ⟨.quiet allQuiet_nil, cancelsPending_of_not_mem (by simp [createTransitionOutcome]),
        fun hend => absurd (hend.symm.trans hroot) (by decide),
        fun hstart => absurd (hstart.symm.trans hroot) (by decide)⟩
  | upperReturn _ hpending =>
      exact .inner (.inl hpending) (by simp [createTransitionOutcome]) (by decide) (by decide)
  | openFirst _ h =>
      obtain ⟨actions, hactions, hopened⟩ := Except.bind_eq_ok_iff.mp h
      cases hopened
      exact .silent (openLowerEventActions_silent hactions) (fun hend => by cases hend)
        fun hstart => by cases hstart
  | reopen _ h =>
      obtain ⟨actions, hactions, hopened⟩ := Except.bind_eq_ok_iff.mp h
      cases hopened
      refine .silent ?_ (fun hend => by cases hend) fun hstart => by cases hstart
      simpa [createTransitionOutcome] using openLowerEventActions_silent hactions
  | started hroot =>
      exact .inner (.inr hroot) (by simp [createTransitionOutcome]) (by decide) (by decide)
  | completed =>
      exact .silent (by simp [createTransitionOutcome]) (by decide) (by decide)

end Global

end Trading
