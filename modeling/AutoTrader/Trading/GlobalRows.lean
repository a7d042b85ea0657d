import AutoTrader.Trading.Stm

/-!
# The rows of the global layer

What `handle_global_transition` does with an event, as the rows G-01 to G-07 of its transition
table.
-/

namespace Trading

section

variable (state : TradingStateConfiguration) (event : TradingEvent) (context : TradingContextView)

/-- G-01 to G-07, and the release of an exit order that was never submitted. -/
inductive GlobalRow : TransitionOutcome → Prop
  | deferred {strategy : StrategyType} {intentId : String}
      (hevent : event.eventType = .sellPreparationDeferred)
      (hpayload : event.payload = some (.sellPreparationDeferred strategy intentId))
      (hroot : state.rootState = .tradeManagement)
      (howner : context.runtime.positionOwner = some strategy)
      (hintent : context.runtime.pendingIntentId = some intentId)
      (hpending : context.runtime.pendingOrderId = none) :
      GlobalRow { transitionIds := [], stateAfter := state, actionRequests := [clearExitPatch],
                  exclusive := true }
  | stopPending {pendingOrderId : String} (hevent : event.eventType = .stopConfirmed)
      (hpending : context.runtime.pendingOrderId = some pendingOrderId) :
      GlobalRow (createTransitionOutcome "G-06P" .stopping (
        [patch [⟨.tradingPhase, .stopping⟩]] ++
        (if context.runtime.pendingOrderSide = some .buy then
          [.cancelPendingOrder (some pendingOrderId) "STOP_CONFIRMED"] else []) ++
        [.reconcileOrder pendingOrderId true]) [] true)
  | stopHolding (hevent : event.eventType = .stopConfirmed)
      (hpending : context.runtime.pendingOrderId = none)
      (hopen : context.position.isOpen = true) :
      GlobalRow (createTransitionOutcome "G-06" .stopping [
        patch [⟨.tradingPhase, .stopping⟩],
        .cancelScheduledEvaluation "trading-strategy",
        .forceSellAll false false] [] true)
  | stopFree (hevent : event.eventType = .stopConfirmed)
      (hpending : context.runtime.pendingOrderId = none)
      (hclosed : context.position.isOpen = false) :
      GlobalRow (createTransitionOutcome "G-05" .logicTerminated [
        .closeLowerEvent "STOP_WITHOUT_POSITION",
        .resetCaseBContext false,
        .resetCaseCContext false false,
        patch [
          ⟨.positionOwner, none⟩,
          ⟨.pendingStrategy, none⟩,
          ⟨.pendingOrderSide, none⟩,
          ⟨.pendingOrderId, none⟩,
          ⟨.pendingOrderAttemptKind, none⟩,
          ⟨.pendingIntentId, none⟩,
          ⟨.tradingPhase, .terminated⟩],
        .cancelScheduledEvaluation "trading-session",
        .stopTradingRuntime "STOP_WITHOUT_POSITION"] [] true)
  | forceSellFinished (hroot : state.rootState = .stopping)
      (hevent : event.eventType = .forceSellFinished)
      (hpending : context.runtime.pendingOrderId = none) : GlobalRow handleForceSellFinished
  | forceSellFailed (hroot : state.rootState = .stopping)
      (hevent : event.eventType = .forceSellFailed)
      (hpending : context.runtime.pendingOrderId = none) : GlobalRow (retryForceSell state)
  | upperBusy (hroot : state.rootState = .tradeManagement) :
      GlobalRow (createTransitionOutcome "G-07" state [] [] true)
  | upperReturn (hroot : state.rootState = .tradeManagement)
      (hpending : context.runtime.pendingOrderId = none)
      (hclosed : context.position.isOpen = false) :
      GlobalRow (createTransitionOutcome "G-07" .lowerTouchWatch [
        .closeLowerEvent "UPPER_BAND_RETURN_TO_LOWER_WATCH",
        .resetCaseBContext false,
        .resetCaseCContext false false,
        clearAllPatch .idle,
        .cancelScheduledEvaluation "lower-event"] [] true)
  | openFirst {outcome : TransitionOutcome}
      (hguard : canOpenFirstLowerEvent state event context = true)
      (h : openFirstLowerEvent event context = .ok outcome) : GlobalRow outcome
  | reopen {outcome : TransitionOutcome}
      (hguard : canReopenLowerEvent state event context = true)
      (h : reopenLowerEvent event context = .ok outcome) : GlobalRow outcome
  | started (hroot : state.rootState = .notStarted) (hevent : event.eventType = .logicStarted) :
      GlobalRow (createTransitionOutcome "G-01" .lowerTouchWatch [
        .resetCaseBContext false,
        .resetCaseCContext false false,
        clearAllPatch .idle] [] true)
  | completed (hroot : state.rootState = .tradeManagement)
      (hevent : event.eventType = .tradeManagementCompleted)
      (howner : context.runtime.positionOwner = none) :
      GlobalRow (createTransitionOutcome "G-04" .lowerTouchWatch [
        .closeLowerEvent "TRADE_MANAGEMENT_COMPLETED",
        .cancelScheduledEvaluation "lower-event"] [] true)

end

variable {state : TradingStateConfiguration} {event : TradingEvent} {context : TradingContextView}
  {outcome : TransitionOutcome}

theorem handleSellPreparationDeferred_row (hevent : event.eventType = .sellPreparationDeferred)
    (h : handleSellPreparationDeferred state event context = some outcome) :
    GlobalRow state event context outcome := by
  unfold handleSellPreparationDeferred at h
  split at h
  · rename_i hpayload
    split at h
    · rename_i hguard
      obtain ⟨hroot, -, howner, -, hintent, hpending, -⟩ := hguard
      cases h
      exact .deferred hevent hpayload hroot howner hintent hpending
    · cases h
  · cases h

theorem handleStopConfirmed_row (hevent : event.eventType = .stopConfirmed)
    (h : handleStopConfirmed state context = some outcome) :
    GlobalRow state event context outcome := by
  unfold handleStopConfirmed at h
  split at h
  · cases h
  split at h
  · rename_i hpending
    cases h
    exact .stopPending hevent hpending
  · rename_i hpending
    split at h
    · rename_i hopen
      cases h
      exact .stopHolding hevent hpending hopen
    · rename_i hclosed
      cases h
      exact .stopFree hevent hpending (Bool.eq_false_of_not_eq_true hclosed)

theorem handleUpperBandTouch_row {observation : Bool} (hroot : state.rootState = .tradeManagement)
    (h : handleUpperBandTouch state context observation = some outcome) :
    GlobalRow state event context outcome := by
  unfold handleUpperBandTouch at h
  split at h
  · split at h
    · cases h
    · cases h
      exact .upperBusy hroot
  · rename_i hfree
    cases h
    simp only [Bool.or_eq_true, not_or, Bool.not_eq_true, Option.isSome_eq_false_iff,
      Option.isNone_iff_eq_none] at hfree
    exact .upperReturn hroot hfree.1.1 hfree.2

theorem handleBandTouch_row (h : handleBandTouch state event context = .ok (some outcome)) :
    GlobalRow state event context outcome := by
  obtain ⟨upper, -, h⟩ := Except.bind_eq_ok_iff.mp h
  split at h
  · split at h
    · rename_i hroot
      exact handleUpperBandTouch_row hroot (Except.ok.inj h)
    · cases h
  obtain ⟨lower, -, h⟩ := Except.bind_eq_ok_iff.mp h
  split at h
  · split at h
    · rename_i hfirst
      obtain ⟨opened, hopened, heq⟩ := Except.map_eq_ok_iff.mp h
      cases heq
      exact .openFirst hfirst hopened
    split at h
    · rename_i hagain
      obtain ⟨opened, hopened, heq⟩ := Except.map_eq_ok_iff.mp h
      cases heq
      exact .reopen hagain hopened
    · cases h
  · cases h

theorem handleSessionTransition_row
    (h : handleSessionTransition state event context = some outcome) :
    GlobalRow state event context outcome := by
  unfold handleSessionTransition at h
  split at h
  · rename_i hstart
    cases h
    exact .started hstart.1 hstart.2
  split at h
  · rename_i hcompleted
    cases h
    exact .completed hcompleted.1 hcompleted.2.1 hcompleted.2.2.1
  · cases h

theorem handleGlobalTransition_row
    (h : handleGlobalTransition state event context = .ok (some outcome)) :
    GlobalRow state event context outcome := by
  unfold handleGlobalTransition at h
  split at h
  · rename_i hevent
    exact handleSellPreparationDeferred_row hevent (Except.ok.inj h)
  split at h
  · rename_i hevent
    exact handleStopConfirmed_row hevent (Except.ok.inj h)
  split at h
  · rename_i hfinished
    cases h
    exact .forceSellFinished hfinished.1 hfinished.2.1 hfinished.2.2.2.1
  split at h
  · rename_i hfailed
    cases h
    exact .forceSellFailed hfailed.1 hfailed.2.1 hfailed.2.2.2.1
  obtain ⟨band, hband, h⟩ := Except.bind_eq_ok_iff.mp h
  cases band with
  | some touched =>
      cases h
      exact handleBandTouch_row hband
  | none => exact handleSessionTransition_row (Except.ok.inj h)

end Trading
