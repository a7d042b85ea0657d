import AutoTrader.Trading.Stm

/-!
# The rows of the signal regions

What the handlers of the two signal regions do with an event, as the rows of their transition
tables.

* `CaseBSignalRow` — B-02 to B-19.
* `CaseCSignalRow` — C-02 to C-17.
-/

namespace Trading

section

variable (state : TradingStateConfiguration) (event : TradingEvent) (context : TradingContextView)

/-- B-02 to B-19. -/
inductive CaseBSignalRow : TransitionOutcome → Prop
  | takesPart (hstate : state.caseBSignalState = some .bWaitTouch)
      (hevent : event.eventType = .activateTradeManagement)
      (hguard : (context.runtime.touchCandleBbw.isSome && conditionMet .bTouchBbw context) =
        true) :
      CaseBSignalRow (createTransitionOutcome "B-03" (state.withCaseBSignal .bWaitSignal) [
        patch [⟨.caseBEnabled, true⟩, ⟨.signalCreated, false⟩],
        scheduleMarketReevaluation .thirtyMinuteCandleClosed context
          "Wait for the first valid Case B signal candle" .next30mClose])
  | staysOut (hstate : state.caseBSignalState = some .bWaitTouch)
      (hevent : event.eventType = .activateTradeManagement)
      (hguard : (context.runtime.touchCandleBbw.isSome && conditionMet .bTouchBbw context) =
        false) :
      CaseBSignalRow (createTransitionOutcome "B-02" (state.withCaseBSignal .caseBFinalState) [
        patch [⟨.caseBEnabled, false⟩],
        .resetCaseBContext false])
  | noSignal (hstate : state.caseBSignalState = some .bWaitSignal)
      (hevent : event.eventType = .thirtyMinuteCandleClosed)
      (hguard : isSignalCandleGuardSatisfied context = false) :
      CaseBSignalRow (createTransitionOutcome "B-04" state
        [scheduleMarketReevaluation .thirtyMinuteCandleClosed context
          "Case B signal candle guard not yet met" .next30mClose])
  | signal (hstate : state.caseBSignalState = some .bWaitSignal)
      (hevent : event.eventType = .thirtyMinuteCandleClosed)
      (hguard : isSignalCandleGuardSatisfied context = true)
      (hfirst : context.runtime.signalCreated = false) :
      CaseBSignalRow (createCaseBSignal state event context)
  | permissionOfSignal {outcome : TransitionOutcome}
      (hstate : state.caseBSignalState = some .bWaitSignal)
      (h : handleCaseBPermission state event context "B-12" "B-14" "B-16" = some outcome) :
      CaseBSignalRow outcome
  | pullback {outcome : TransitionOutcome} (isStart : Bool)
      (hstate : state.caseBSignalState = some .bWaitPullback)
      (hevent : event.eventType =
        if isStart then .startCaseBWaitPullbackConditionCheck
        else .retryCaseBWaitPullbackConditionCheck)
      (h : checkWaitPullback state isStart event context = some outcome) : CaseBSignalRow outcome
  | permissionOfPullback {outcome : TransitionOutcome}
      (hstate : state.caseBSignalState = some .bWaitPullback)
      (h : handleCaseBPermission state event context "B-13" "B-15" "B-17" = some outcome) :
      CaseBSignalRow outcome
  | opened (hstate : state.caseBSignalState = some .bPositionOpenSignalled)
      (hevent : event.eventType = .caseBPositionOpened)
      (howner : context.runtime.positionOwner = some .caseB) :
      CaseBSignalRow (createTransitionOutcome "B-18" (state.withCaseBSignal .caseBFinalState) [])
  | lost (hstate : state.caseBSignalState = some .bPositionOpenSignalled)
      (hevent : event.eventType = .caseCPositionOpened)
      (howner : context.runtime.positionOwner = some .caseC) :
      CaseBSignalRow (createTransitionOutcome "B-19" (state.withCaseBSignal .bWaitPullback) [
        .cancelPendingOrder context.runtime.pendingOrderId "CASE_C_WON_ENTRY_ARBITRATION",
        patch [⟨.caseBEntryPaused, true⟩]])

/-- C-02 to C-17. -/
inductive CaseCSignalRow : TransitionOutcome → Prop
  | check (isActivation : Bool) (hstate : state.caseCSignalState = some .cWaitSetup)
      (hevent : event.eventType =
        if isActivation then .activateTradeManagement else .retryCWaitSetup) :
      CaseCSignalRow (checkSetup state isActivation context)
  | giveUpWaiting {outcome : TransitionOutcome}
      (hstate : state.caseCSignalState = some .cWaitSetup)
      (h : giveUpSetup "C-06" state event context = some outcome) : CaseCSignalRow outcome
  | start (hstate : state.caseCSignalState = some .cSetup)
      (hevent : event.eventType = .startCaseCSetupConditionCheck) :
      CaseCSignalRow (startSetup state context)
  | consume (hstate : state.caseCSignalState = some .cSetup)
      (hevent : event.eventType = .retryCaseCSetupConditionCheck) :
      CaseCSignalRow (consumeSetup state)
  | flush {id : String} {outcome : TransitionOutcome} (hid : id ∈ ["C-09", "C-10"])
      (hstate : state.caseCSignalState = some .cSetup)
      (hevent : event.eventType = .retryCaseCSetupConditionCheck)
      (h : recordFlush id state context = .ok outcome) : CaseCSignalRow outcome
  | restart {outcome : TransitionOutcome} (hstate : state.caseCSignalState = some .cSetup)
      (hevent : event.eventType = .retryCaseCSetupConditionCheck)
      (h : restartRecoveryWindow state context = .ok outcome) : CaseCSignalRow outcome
  | rebound {outcome : TransitionOutcome} (hstate : state.caseCSignalState = some .cSetup)
      (hevent : event.eventType = .retryCaseCSetupConditionCheck)
      (h : checkRebound state event context = some outcome) : CaseCSignalRow outcome
  | giveUp {outcome : TransitionOutcome} (hstate : state.caseCSignalState = some .cSetup)
      (h : giveUpSetup "C-15" state event context = some outcome) : CaseCSignalRow outcome
  | opened (hstate : state.caseCSignalState = some .cPositionOpenSignalled)
      (hevent : event.eventType = .caseCPositionOpened)
      (howner : context.runtime.positionOwner = some .caseC) :
      CaseCSignalRow (createTransitionOutcome "C-16" (state.withCaseCSignal .caseCFinalState) [])
  | lost (hstate : state.caseCSignalState = some .cPositionOpenSignalled)
      (hevent : event.eventType = .caseBPositionOpened)
      (howner : context.runtime.positionOwner = some .caseB) :
      CaseCSignalRow (createTransitionOutcome "C-17" (state.withCaseCSignal .caseCFinalState) [
        .cancelPendingOrder context.runtime.pendingOrderId "CASE_B_WON_ENTRY_ARBITRATION",
        patch [⟨.allowNewCaseCSetup, false⟩]])

end

variable {state : TradingStateConfiguration} {event : TradingEvent} {context : TradingContextView}
  {outcome : TransitionOutcome}

theorem handleCaseBSignalTransition_row
    (h : handleCaseBSignalTransition state event context = some outcome) :
    CaseBSignalRow state event context outcome := by
  unfold handleCaseBSignalTransition at h
  split at h
  case h_1 hstate =>
    unfold handleBWaitTouch at h
    split at h
    · cases h
    rename_i hevent
    split at h
    · rename_i hguard
      cases h
      exact .takesPart hstate (not_not.mp hevent) hguard
    · rename_i hguard
      cases h
      exact .staysOut hstate (not_not.mp hevent) (Bool.eq_false_of_not_eq_true hguard)
  case h_2 hstate =>
    unfold handleBWaitSignal at h
    split at h
    · rename_i hevent
      split at h
      · rename_i hguard
        cases h
        exact .noSignal hstate hevent (by simpa using hguard)
      split at h
      · rename_i hguard hfirst
        cases h
        exact .signal hstate hevent (by simpa using hguard) (by simpa using hfirst)
      · cases h
    · exact .permissionOfSignal hstate h
  case h_3 hstate =>
    unfold handleBWaitPullback at h
    split at h
    · rename_i hevent
      exact .pullback true hstate hevent h
    split at h
    · rename_i hevent
      exact .pullback false hstate hevent h
    · exact .permissionOfPullback hstate h
  case h_4 hstate =>
    unfold handleBPositionOpenSignalled at h
    split at h
    · rename_i hopened
      cases h
      exact .opened hstate hopened.1 hopened.2
    split at h
    · rename_i hopened
      cases h
      exact .lost hstate hopened.1 hopened.2
    · cases h
  case h_5 => cases h
  case h_6 => cases h

/-- A check of the setup in C_SETUP. -/
theorem checkCaseCSetup_row (hstate : state.caseCSignalState = some .cSetup)
    (hevent : event.eventType = .retryCaseCSetupConditionCheck)
    (h : checkCaseCSetup state event context = .ok (some outcome)) :
    CaseCSignalRow state event context outcome := by
  unfold checkCaseCSetup at h
  split at h
  · cases h
    exact .consume hstate hevent
  split at h
  · obtain ⟨flush, hflush, heq⟩ := Except.map_eq_ok_iff.mp h
    cases heq
    exact .flush (by simp) hstate hevent hflush
  split at h
  · obtain ⟨flush, hflush, heq⟩ := Except.map_eq_ok_iff.mp h
    cases heq
    exact .flush (by simp) hstate hevent hflush
  split at h
  · obtain ⟨restarted, hrestart, heq⟩ := Except.map_eq_ok_iff.mp h
    cases heq
    exact .restart hstate hevent hrestart
  · exact .rebound hstate hevent (Except.ok.inj h)

theorem handleCaseCSignalTransition_row
    (h : handleCaseCSignalTransition state event context = .ok (some outcome)) :
    CaseCSignalRow state event context outcome := by
  unfold handleCaseCSignalTransition at h
  split at h
  case h_1 hstate =>
    have h := Except.ok.inj h
    unfold handleCWaitSetup at h
    split at h
    · rename_i hevent
      cases h
      exact .check true hstate hevent
    split at h
    · rename_i hevent
      cases h
      exact .check false hstate hevent
    · exact .giveUpWaiting hstate h
  case h_2 hstate =>
    unfold handleCSetup at h
    split at h
    · rename_i hevent
      cases h
      exact .start hstate hevent
    split at h
    · rename_i hevent
      exact checkCaseCSetup_row hstate hevent h
    · exact .giveUp hstate (Except.ok.inj h)
  case h_3 hstate =>
    have h := Except.ok.inj h
    unfold handleCPositionOpenSignalled at h
    split at h
    · rename_i hopened
      cases h
      exact .opened hstate hopened.1 hopened.2
    split at h
    · rename_i hopened
      cases h
      exact .lost hstate hopened.1 hopened.2
    · cases h
  case h_4 => cases h
  case h_5 => cases h

end Trading
