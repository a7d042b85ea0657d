import AutoTrader.Trading.Stm

/-!
# The rows of region one

What the handlers of region one do with an event, as the rows of their transition table: what
holds when a row is taken, and its outcome.

* `OwnershipRow` — nobody owns the position.
* `CaseBHoldingRow`, `TrendHoldRow`, `CaseBPositionRow` — Case B owns it.
* `CaseCHoldingRow`, `TpTrailingRow`, `CaseCPositionRow` — Case C owns it.
-/

namespace Trading

/-! ## No owner -/

section

variable (state : TradingStateConfiguration) (event : TradingEvent) (context : TradingContextView)

/-- O-01 to O-09. -/
inductive OwnershipRow : TransitionOutcome → Prop
  | feedback {outcome : TransitionOutcome}
      (hevent : event.eventType = .buyRiskBlocked ∨ event.eventType = .orderPreparationExpired)
      (h : handlePreparationFeedback state event context = some outcome) : OwnershipRow outcome
  | caseBOpened (hevent : event.eventType = .caseBPositionOpened)
      (howns : ownsOpenPosition .caseB context = true) :
      OwnershipRow (createTransitionOutcome "O-02"
        (state.withOwnership (.caseB .caseBHolding))
        [createQueueEventAction .startCaseBConditionCheck context] ["PB-01"])
  | caseCOpened (hevent : event.eventType = .caseCPositionOpened)
      (howns : ownsOpenPosition .caseC context = true) :
      OwnershipRow (createTransitionOutcome "O-06"
        (state.withOwnership (.caseC .caseCHolding))
        [patch [⟨.caseBEntryPaused, true⟩],
         createQueueEventAction .startCaseCConditionCheck context] ["PC-01"])
  | buyFailed {id : String} (hid : id ∈ ["O-03", "O-05", "O-07", "O-09"])
      (hevent : event.eventType = .caseBBuyFailed ∨ event.eventType = .caseCBuyFailed)
      (howner : context.runtime.positionOwner = none) (retry : TradingEventType)
      (reason : String) :
      OwnershipRow (createTransitionOutcome id state [createEntryRetryAction retry context reason])
  | caseBRetry (hevent : event.eventType = .caseBBuyRetry)
      (hretry : canRetryCaseBEntry context = true) :
      OwnershipRow (createTransitionOutcome "O-04" state
        (createEntryOrderActions .caseB .retry event context))
  | caseCRetry (hevent : event.eventType = .caseCBuyRetry)
      (hretry : canRetryCaseCEntry context = true) :
      OwnershipRow (createTransitionOutcome "O-08" state
        (createEntryOrderActions .caseC .retry event context))

/-! ## Case B -/

/-- PB-02 to PB-14, PB-19 and PB-20. -/
inductive CaseBHoldingRow : TransitionOutcome → Prop
  | check (isStart : Bool)
      (hevent : event.eventType =
        if isStart then .startCaseBConditionCheck else .retryCaseBConditionCheck) :
      CaseBHoldingRow (checkCaseBHolding state isStart context)
  | upperTrend (hevent : event.eventType = .caseBUpperTrend)
      (hguard : isUpperTrendGuardSatisfied context = true)
      (hstart : canStartExit context = true) :
      CaseBHoldingRow (createTransitionOutcome "PB-14"
        (state.withOwnership (.caseB .caseBTrendHold))
        [createQueueEventAction .caseBTrendHoldConditionCheck context])
  | sellFailed {reason : ExitReason} {initialFailureId : String}
      (hevent : event.eventType = .caseBSellFailed)
      (hreason : context.runtime.pendingExitReason = some reason)
      (hid : caseBInitialFailureTransitionIdByReason reason = some initialFailureId)
      (hreturn : context.runtime.pendingReturnState = some (caseBReturnState state)) :
      CaseBHoldingRow (scheduleCaseBSellRetry
        (if getSellAttemptKind event context = .initial then initialFailureId else "PB-20")
        state context "Retry the same Case B holding exit intent")
  | sellRetry {reason : ExitReason} (hevent : event.eventType = .caseBSellRetry)
      (hreason : context.runtime.pendingExitReason = some reason)
      (hreturn : context.runtime.pendingReturnState = some (caseBReturnState state))
      (hpending : context.runtime.pendingOrderId = none) :
      CaseBHoldingRow
        (caseBExitOrder "PB-19" state reason (caseBReturnState state) event context .retry)
  | exit {id : String} {reason : ExitReason}
      (hexit : caseBHoldingExitByEvent event.eventType = some (id, reason))
      (hguard : isHoldingExitGuardSatisfied event.eventType context = true)
      (hstart : canStartExit context = true) :
      CaseBHoldingRow
        (caseBExitOrder id state reason (caseBReturnState state) event context .initial)

/-- PB-15 to PB-18, PB-21 and PB-22. -/
inductive TrendHoldRow : TransitionOutcome → Prop
  | sell (hevent : event.eventType = .caseBTrendHoldConditionCheck)
      (hguard : isTrendHoldExitGuardSatisfied context = true) :
      TrendHoldRow (createTransitionOutcome "PB-16" state
        [createQueueEventAction .caseBTrendHoldSell context])
  | remains (hevent : event.eventType = .caseBTrendHoldConditionCheck)
      (hguard : isTrendHoldExitGuardSatisfied context = false) :
      TrendHoldRow (createTransitionOutcome "PB-15" state
        [scheduleMarketReevaluation .caseBTrendHoldConditionCheck context
          "Case B Trend Hold remains valid"])
  | exit (hevent : event.eventType = .caseBTrendHoldSell)
      (hguard : isTrendHoldExitGuardSatisfied context = true)
      (hstart : canStartExit context = true) :
      TrendHoldRow
        (caseBExitOrder "PB-17" state .trendHold .caseBTrendHold event context .initial)
  | sellFailed (hevent : event.eventType = .caseBSellFailed)
      (hreason : context.runtime.pendingExitReason = some .trendHold)
      (hreturn : context.runtime.pendingReturnState = some .caseBTrendHold) :
      TrendHoldRow (scheduleCaseBSellRetry
        (if getSellAttemptKind event context = .initial then "PB-18" else "PB-22")
        state context "Retry the same Case B Trend Hold exit intent")
  | sellRetry (hevent : event.eventType = .caseBSellRetry)
      (hreason : context.runtime.pendingExitReason = some .trendHold)
      (hreturn : context.runtime.pendingReturnState = some .caseBTrendHold)
      (hpending : context.runtime.pendingOrderId = none) :
      TrendHoldRow (caseBExitOrder "PB-21" state .trendHold .caseBTrendHold event context .retry)

/-- The substates of Case B, and PB-23F to PB-24. -/
inductive CaseBPositionRow : TransitionOutcome → Prop
  | sellFilled {substate : CaseBPositionState}
      (hstate : state.caseBPositionState = some substate)
      (hevent : event.eventType = .caseBSellFilled)
      (hsubstate : substate = .caseBHolding ∨ substate = .caseBTrendHold)
      (howner : context.runtime.positionOwner = none)
      (hreason : context.runtime.pendingExitReason.isSome)
      (hsame : context.runtime.caseBExitReason = context.runtime.pendingExitReason) :
      CaseBPositionRow (createTransitionOutcome "PB-23F"
        (state.withOwnership (.caseB .caseBClosed))
        [clearExitPatch, createQueueEventAction .caseBSellFinished context])
  | reentered {initialization : TradingActionRequest}
      (hstate : state.caseBPositionState = some .caseBClosed)
      (hevent : event.eventType = .caseBSellFinished)
      (hinitialization : createLowerEventInitializationPatch context = .ok initialization) :
      CaseBPositionRow (createTransitionOutcome "PB-23" .createTradeManagementInitialState [
        .closeLowerEvent "CASE_B_STOP_REENTRY",
        .resetCaseBContext false,
        .resetCaseCContext false true,
        .openLowerEvent (createOpenLowerEventAction event context),
        initialization,
        patch [⟨.positionOwner, none⟩],
        .queueEvent
          { eventType := .activateTradeManagement
            lowerEventId := some (createOpenLowerEventAction event context).lowerEventId }]
        ["O-01", "C-01", "B-01"] true)
  | closed (hstate : state.caseBPositionState = some .caseBClosed)
      (hevent : event.eventType = .caseBSellFinished) :
      CaseBPositionRow (createTransitionOutcome "PB-24" .lowerTouchWatch [
        .resetCaseBContext false,
        .closeLowerEvent "CASE_B_CLOSED",
        .cancelScheduledEvaluation "lower-event"] [] true)
  | holding {outcome : TransitionOutcome} (hstate : state.caseBPositionState = some .caseBHolding)
      (h : CaseBHoldingRow state event context outcome) : CaseBPositionRow outcome
  | trendHold {outcome : TransitionOutcome}
      (hstate : state.caseBPositionState = some .caseBTrendHold)
      (h : TrendHoldRow state event context outcome) : CaseBPositionRow outcome

/-! ## Case C -/

/-- PC-02 to PC-10, PC-20 and PC-21. -/
inductive CaseCHoldingRow : TransitionOutcome → Prop
  | check (isStart : Bool)
      (hevent : event.eventType =
        if isStart then .startCaseCConditionCheck else .retryCaseCConditionCheck) :
      CaseCHoldingRow (checkCaseCHolding state isStart context)
  | stop (hevent : event.eventType = .caseCStop) (hguard : conditionMet .cStop context)
      (hstart : canStartExit context = true) :
      CaseCHoldingRow (caseCExitOrder "PC-06" state .stop .caseCHolding event context .initial)
  | profitZone {outcome : TransitionOutcome} (hevent : event.eventType = .caseCEnterProfitZone)
      (hguard : conditionMet .cProfitZone context) (hstart : canStartExit context = true)
      (h : enterProfitZone state context = .ok outcome) : CaseCHoldingRow outcome
  | shared {outcome : TransitionOutcome}
      (h : handleTimeExitOrFailure state event context .caseCHolding "PC-21" = some outcome) :
      CaseCHoldingRow outcome
  | sellFailed (hevent : event.eventType = .caseCSellFailed)
      (hreason : context.runtime.pendingExitReason = some .stop)
      (hreturn : context.runtime.pendingReturnState = some .caseCHolding) :
      CaseCHoldingRow (scheduleCaseCSellRetry
        (if getSellAttemptKind event context = .initial then "PC-07" else "PC-21") state context)
  | sellRetry {outcome : TransitionOutcome}
      (h : retryCaseCExit "PC-20" state .caseCHolding event context = some outcome) :
      CaseCHoldingRow outcome

/-- PC-11 to PC-19, PC-22 and PC-23. -/
inductive TpTrailingRow : TransitionOutcome → Prop
  | check (isStart : Bool)
      (hevent : event.eventType =
        if isStart then .startTpTrailingConditionCheck else .retryTpTrailingConditionCheck) :
      TpTrailingRow (checkTpTrailing state isStart context)
  | increased (hevent : event.eventType = .caseCEmaIncreasement)
      (hguard : conditionMet .cTrailIncrease context) :
      TpTrailingRow (createTransitionOutcome "PC-15" state [
        patch [⟨.previousTrailEmaSlope, some context.market.currentCloseEmaSlope⟩],
        scheduleMarketReevaluation .retryTpTrailingConditionCheck context
          "Continue TP trailing after EMA slope increased"])
  | fallback (hevent : event.eventType = .caseCSellAtTpPrice)
      (hguard : conditionMet .cTrailFallback context) (hstart : canStartExit context = true) :
      TpTrailingRow
        (caseCExitOrder "PC-16" state .tpFallback .caseCTpTrailing event context .initial)
  | decreased (hevent : event.eventType = .caseCEmaDecreasement)
      (hguard : conditionUnmet .cTrailIncrease context) (hstart : canStartExit context = true) :
      TpTrailingRow (caseCExitOrder "PC-18" state .tpTrail .caseCTpTrailing event context .initial)
  | shared {outcome : TransitionOutcome}
      (h : handleTimeExitOrFailure state event context .caseCTpTrailing "PC-23" = some outcome) :
      TpTrailingRow outcome
  | sellFailed (hevent : event.eventType = .caseCSellFailed)
      (hreason : context.runtime.pendingExitReason = some .tpFallback ∨
        context.runtime.pendingExitReason = some .tpTrail)
      (hreturn : context.runtime.pendingReturnState = some .caseCTpTrailing) :
      TpTrailingRow (scheduleCaseCSellRetry (trailingFailureId event context) state context)
  | sellRetry {outcome : TransitionOutcome}
      (h : retryCaseCExit "PC-22" state .caseCTpTrailing event context = some outcome) :
      TpTrailingRow outcome

/-- The substates of Case C, and PC-23F to PC-28. -/
inductive CaseCPositionRow : TransitionOutcome → Prop
  | sellFilled {substate : CaseCPositionState}
      (hstate : state.caseCPositionState = some substate)
      (hevent : event.eventType = .caseCSellFilled)
      (hsubstate : substate = .caseCHolding ∨ substate = .caseCTpTrailing)
      (howner : context.runtime.positionOwner = none)
      (hreason : context.runtime.pendingExitReason.isSome)
      (hsame : context.runtime.caseCExitReason = context.runtime.pendingExitReason) :
      CaseCPositionRow (createTransitionOutcome "PC-23F"
        (state.withOwnership (.caseC .caseCClosed))
        [clearExitPatch, createQueueEventAction .caseCSellFinished context])
  | finished (hstate : state.caseCPositionState = some .caseCClosed)
      (hevent : event.eventType = .caseCSellFinished) :
      CaseCPositionRow (createTransitionOutcome "PC-24" state [
        patch [
          ⟨.caseCConsumedForEvent, true⟩,
          ⟨.allowNewCaseCSetup, false⟩,
          ⟨.caseBEntryPaused, true⟩],
        createQueueEventAction .checkCaseCRecovery context])
  | unrecovered (hstate : state.caseCPositionState = some .caseCClosed)
      (hevent : event.eventType = .checkCaseCRecovery)
      (hguard : conditionUnmet .cRecovery context) :
      CaseCPositionRow (createTransitionOutcome "PC-25" state
        [scheduleMarketReevaluation .checkCaseCRecovery context
          "Wait for Case C post-exit %B recovery"])
  | recovered (hstate : state.caseCPositionState = some .caseCClosed)
      (hevent : event.eventType = .checkCaseCRecovery)
      (hguard : conditionMet .cRecovery context) :
      CaseCPositionRow (createTransitionOutcome "PC-26"
        (state.withOwnership (.caseC .caseCRecoverySucceeded)) [
        patch [⟨.caseCRecoveryConfirmed, true⟩],
        createQueueEventAction .checkCaseBHandoff context])
  | handedOff (hstate : state.caseCPositionState = some .caseCRecoverySucceeded)
      (hevent : event.eventType = .checkCaseBHandoff) {active : Bool}
      (hactive : isHandoffActive context = active) :
      CaseCPositionRow (createTransitionOutcome (if active then "PC-27" else "PC-28")
        (state.withOwnership .noPosition) [
        patch [
          ⟨.caseBEntryPaused, !active⟩,
          ⟨.caseBOnlyUntilNextLowerTouch, true⟩,
          ⟨.allowNewCaseCSetup, false⟩],
        createQueueEventAction (if active then .caseBActiveResume else .caseBWaitOnly) context])
  | holding {outcome : TransitionOutcome} (hstate : state.caseCPositionState = some .caseCHolding)
      (h : CaseCHoldingRow state event context outcome) : CaseCPositionRow outcome
  | tpTrailing {outcome : TransitionOutcome}
      (hstate : state.caseCPositionState = some .caseCTpTrailing)
      (h : TpTrailingRow state event context outcome) : CaseCPositionRow outcome

end

/-! ## The handlers take one of their rows -/

variable {state : TradingStateConfiguration} {event : TradingEvent} {context : TradingContextView}
  {outcome : TransitionOutcome}

theorem handleOwnershipTransition_row
    (h : handleOwnershipTransition state event context = some outcome) :
    state.ownershipState = some .noPosition ∧ OwnershipRow state event context outcome := by
  unfold handleOwnershipTransition at h
  split at h
  · cases h
  rename_i hstate
  refine ⟨not_not.mp hstate, ?_⟩
  split at h
  case h_1 hevent => exact .feedback (.inl hevent) h
  case h_2 hevent => exact .feedback (.inr hevent) h
  case h_3 hevent =>
    split at h
    · rename_i howns
      cases h
      exact .caseBOpened hevent howns
    · cases h
  case h_6 hevent =>
    split at h
    · rename_i howns
      cases h
      exact .caseCOpened hevent howns
    · cases h
  case h_4 hevent =>
    split at h
    · cases h
    · rename_i howner
      rw [Option.not_isSome_iff_eq_none] at howner
      split at h
      · cases h
        exact .buyFailed (by simp) (.inl hevent) howner _ _
      · cases h
        exact .buyFailed (by simp) (.inl hevent) howner _ _
      · cases h
  case h_5 hevent =>
    split at h
    · rename_i hretry
      cases h
      exact .caseBRetry hevent hretry
    · cases h
  case h_7 hevent =>
    split at h
    · cases h
    · rename_i howner
      rw [Option.not_isSome_iff_eq_none] at howner
      split at h
      · cases h
        exact .buyFailed (by simp) (.inr hevent) howner _ _
      · cases h
        exact .buyFailed (by simp) (.inr hevent) howner _ _
      · cases h
  case h_8 hevent =>
    split at h
    · rename_i hretry
      cases h
      exact .caseCRetry hevent hretry
    · cases h
  case h_9 => cases h

theorem handleCaseBHolding_row (h : handleCaseBHolding state event context = some outcome) :
    CaseBHoldingRow state event context outcome := by
  unfold handleCaseBHolding at h
  split at h
  case h_1 hevent =>
    cases h
    exact .check true hevent
  case h_2 hevent =>
    cases h
    exact .check false hevent
  case h_3 hevent =>
    split at h
    · rename_i hguard
      rw [Bool.and_eq_true] at hguard
      cases h
      exact .upperTrend hevent hguard.1 hguard.2
    · cases h
  case h_4 hevent =>
    split at h
    · rename_i id hid
      obtain ⟨reason, hreason, hid⟩ := Option.bind_eq_some_iff.mp hid
      split at h
      · rename_i hreturn
        cases h
        exact .sellFailed hevent hreason hid hreturn
      · cases h
    · cases h
  case h_5 hevent =>
    split at h
    · rename_i hreason
      split at h
      · rename_i hretry
        cases h
        exact .sellRetry hevent hreason hretry.2.1 hretry.2.2
      · cases h
    · cases h
  case h_6 =>
    split at h
    · rename_i hexit
      split at h
      · rename_i hguard
        rw [Bool.and_eq_true] at hguard
        cases h
        exact .exit hexit hguard.1 hguard.2
      · cases h
    · cases h

theorem handleTrendHold_row (h : handleTrendHold state event context = some outcome) :
    TrendHoldRow state event context outcome := by
  unfold handleTrendHold at h
  split at h
  case h_1 hevent =>
    split at h
    · rename_i hguard
      cases h
      exact .sell hevent hguard
    · rename_i hguard
      cases h
      exact .remains hevent (Bool.eq_false_of_not_eq_true hguard)
  case h_2 hevent =>
    split at h
    · rename_i hguard
      rw [Bool.and_eq_true] at hguard
      cases h
      exact .exit hevent hguard.1 hguard.2
    · cases h
  case h_3 hevent =>
    split at h
    · rename_i hfailed
      cases h
      exact .sellFailed hevent hfailed.1 hfailed.2
    · cases h
  case h_4 hevent =>
    split at h
    · rename_i hretry
      cases h
      exact .sellRetry hevent hretry.1 hretry.2.1 hretry.2.2
    · cases h
  case h_5 => cases h

theorem handleCaseBSellFilled_row {substate : CaseBPositionState}
    (hstate : state.caseBPositionState = some substate)
    (hevent : event.eventType = .caseBSellFilled)
    (h : handleCaseBSellFilled state substate context = some outcome) :
    CaseBPositionRow state event context outcome := by
  unfold handleCaseBSellFilled at h
  split at h
  · rename_i hfilled
    cases h
    exact .sellFilled hstate hevent hfilled.1 hfilled.2.1 hfilled.2.2.1 hfilled.2.2.2
  · cases h

theorem handleCaseBClosed_row (hstate : state.caseBPositionState = some .caseBClosed)
    (hevent : event.eventType = .caseBSellFinished)
    (h : handleCaseBClosed event context = .ok outcome) :
    CaseBPositionRow state event context outcome := by
  unfold handleCaseBClosed at h
  dsimp only at h
  split at h
  · obtain ⟨initialization, hinitialization, h⟩ := Except.bind_eq_ok_iff.mp h
    cases h
    exact .reentered hstate hevent hinitialization
  · cases h
    exact .closed hstate hevent

theorem handleCaseBPositionTransition_row
    (h : handleCaseBPositionTransition state event context = .ok (some outcome)) :
    CaseBPositionRow state event context outcome := by
  unfold handleCaseBPositionTransition at h
  split at h
  · cases h
  rename_i substate hstate
  split at h
  · rename_i hevent
    exact handleCaseBSellFilled_row hstate hevent (Except.ok.inj h)
  split at h
  · rename_i hclosed
    subst hclosed
    split at h
    · rename_i hevent
      obtain ⟨closed, hclosed, heq⟩ := Except.map_eq_ok_iff.mp h
      cases heq
      exact handleCaseBClosed_row hstate hevent hclosed
    · cases h
  split at h
  · cases h
  split at h
  · exact .holding hstate (handleCaseBHolding_row (Except.ok.inj h))
  · exact .trendHold hstate (handleTrendHold_row (Except.ok.inj h))
  · cases h

theorem handleCaseCHolding_row (h : handleCaseCHolding state event context = .ok (some outcome)) :
    CaseCHoldingRow state event context outcome := by
  unfold handleCaseCHolding at h
  split at h
  · rename_i hevent
    cases h
    exact .check true hevent
  split at h
  · rename_i hevent
    cases h
    exact .check false hevent
  split at h
  · rename_i hstop
    cases h
    exact .stop hstop.1 hstop.2.1 hstop.2.2
  split at h
  · rename_i hzone
    obtain ⟨entered, hentered, heq⟩ := Except.map_eq_ok_iff.mp h
    cases heq
    exact .profitZone hzone.1 hzone.2.1 hzone.2.2 hentered
  split at h
  · rename_i hshared
    cases h
    exact .shared hshared
  split at h
  · rename_i hfailed
    cases h
    exact .sellFailed hfailed.1 hfailed.2.1 hfailed.2.2
  · exact .sellRetry (Except.ok.inj h)

theorem handleTpTrailing_row (h : handleTpTrailing state event context = some outcome) :
    TpTrailingRow state event context outcome := by
  unfold handleTpTrailing at h
  dsimp only at h
  split at h
  · rename_i hevent
    cases h
    exact .check true hevent
  split at h
  · rename_i hevent
    cases h
    exact .check false hevent
  split at h
  · rename_i hincreased
    cases h
    exact .increased hincreased.1 hincreased.2.2
  split at h
  · rename_i hexit
    cases h
    exact .fallback hexit.1 hexit.2.1 hexit.2.2
  split at h
  · rename_i hexit
    cases h
    exact .decreased hexit.1 hexit.2.2.1 hexit.2.2.2
  split at h
  · rename_i hshared
    cases h
    exact .shared hshared
  split at h
  · rename_i hfailed
    cases h
    exact .sellFailed hfailed.1 hfailed.2.2 hfailed.2.1
  · exact .sellRetry h

theorem handleCaseCSellFilled_row {substate : CaseCPositionState}
    (hstate : state.caseCPositionState = some substate)
    (hevent : event.eventType = .caseCSellFilled)
    (h : handleCaseCSellFilled state substate context = some outcome) :
    CaseCPositionRow state event context outcome := by
  unfold handleCaseCSellFilled at h
  split at h
  · rename_i hfilled
    cases h
    exact .sellFilled hstate hevent hfilled.1 hfilled.2.1 hfilled.2.2.1 hfilled.2.2.2
  · cases h

theorem handleCaseCClosed_row (hstate : state.caseCPositionState = some .caseCClosed)
    (h : handleCaseCClosed state event context = some outcome) :
    CaseCPositionRow state event context outcome := by
  unfold handleCaseCClosed at h
  split at h
  case h_1 hevent =>
    cases h
    exact .finished hstate hevent
  case h_2 hevent =>
    split at h
    · rename_i hguard
      cases h
      exact .unrecovered hstate hevent hguard
    split at h
    · rename_i hguard
      cases h
      exact .recovered hstate hevent hguard
    · cases h
  case h_3 => cases h

theorem handleCaseCRecovered_row
    (hstate : state.caseCPositionState = some .caseCRecoverySucceeded)
    (h : handleCaseCRecovered state event context = some outcome) :
    CaseCPositionRow state event context outcome := by
  unfold handleCaseCRecovered at h
  split at h
  · cases h
  · rename_i hevent
    cases h
    exact .handedOff hstate (not_not.mp hevent) rfl

theorem handleCaseCPositionTransition_row
    (h : handleCaseCPositionTransition state event context = .ok (some outcome)) :
    CaseCPositionRow state event context outcome := by
  unfold handleCaseCPositionTransition at h
  split at h
  · cases h
  rename_i substate hstate
  split at h
  · rename_i hevent
    exact handleCaseCSellFilled_row hstate hevent (Except.ok.inj h)
  split at h
  · exact handleCaseCClosed_row hstate (Except.ok.inj h)
  · exact handleCaseCRecovered_row hstate (Except.ok.inj h)
  · split at h
    · cases h
    · exact .holding hstate (handleCaseCHolding_row h)
  · split at h
    · cases h
    · exact .tpTrailing hstate (handleTpTrailing_row (Except.ok.inj h))

end Trading
