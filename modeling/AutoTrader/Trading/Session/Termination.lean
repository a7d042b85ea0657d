import AutoTrader.Trading.Session.Alignment

/-!
# The end of a session

G-05 and G-06F end a session.  Their batches close the lower event, empty the scheduler
and release the pending order; only G-06F releases the exit intent as well.

* `Clean` — nothing of the session is left in the context and in the scheduler.
* `termination_clean_iff` — in every run the end of a session is clean, unless a STOP
  without a position finds an exit intent; `termination_not_clean` is such a run.
-/

namespace Trading

/-- A session ends with no order pending. -/
theorem EndsSession.pendingOrderId {event : TradingEvent} {context : TradingContextView}
    {actions : List TradingActionRequest} (h : EndsSession event context actions) :
    context.runtime.pendingOrderId = none := by
  cases h with
  | stop _ hpending => exact hpending
  | forceSell _ hpending => exact hpending

namespace TradingSession

variable {session next : TradingSession} {environment : BatchEnvironment}

/-- Nothing of the session is left. -/
structure Clean (session : TradingSession) : Prop where
  pendingStrategy : session.context.runtime.pendingStrategy = none
  pendingOrderSide : session.context.runtime.pendingOrderSide = none
  pendingOrderId : session.context.runtime.pendingOrderId = none
  pendingOrderAttemptKind : session.context.runtime.pendingOrderAttemptKind = none
  pendingIntentId : session.context.runtime.pendingIntentId = none
  pendingExitReason : session.context.runtime.pendingExitReason = none
  pendingExitPctB : session.context.runtime.pendingExitPctB = none
  pendingReturnState : session.context.runtime.pendingReturnState = none
  lowerEventId : session.context.runtime.lowerEventId = none
  scheduler : session.scheduler = []

/-! ## The two batches -/

/-- The context after the first requests of both batches. -/
def withoutLowerEvent (context : TradingContext) : TradingContext :=
  ((context.closeLowerEvent).resetCaseBContext false).resetCaseCContext false false

/-- They close the lower event and keep the exit intent. -/
theorem withoutLowerEvent_runtime (context : TradingContext) :
    (withoutLowerEvent context).runtime.lowerEventId = none ∧
    (withoutLowerEvent context).runtime.pendingExitReason = context.runtime.pendingExitReason ∧
    (withoutLowerEvent context).runtime.pendingExitPctB = context.runtime.pendingExitPctB ∧
    (withoutLowerEvent context).runtime.pendingReturnState =
      context.runtime.pendingReturnState := by
  have hclose : context.closeLowerEvent.runtime = _ := TradingContext.replaceRuntime_runtime _
  have hresetB : ((context.closeLowerEvent).resetCaseBContext false).runtime = _ :=
    TradingContext.replaceRuntime_runtime _
  have hresetC : (withoutLowerEvent context).runtime = _ :=
    TradingContext.replaceRuntime_runtime _
  rw [hresetC]
  dsimp only
  rw [hresetB]
  dsimp only
  rw [hclose]
  exact ⟨rfl, rfl, rfl, rfl⟩

/-- What a batch that closes the lower event, patches the runtime and empties the
scheduler leaves behind. -/
theorem executeBatch_ending {text scope reason : String} {changes : List RuntimeFieldChange}
    (h : executeBatch environment [.closeLowerEvent text, .resetCaseBContext false,
      .resetCaseCContext false false, patch changes, .cancelScheduledEvaluation scope,
      .stopTradingRuntime reason] session = .ok next) :
    next.scheduler = [] ∧ next.context.runtime.toRuntimeFields =
      applyChanges changes (withoutLowerEvent session.context).runtime.toRuntimeFields := by
  simp only [executeBatch, execute, patch, Except.ok_bind] at h
  obtain ⟨patched, hpatched, h⟩ := Except.bind_eq_ok_iff.mp h
  obtain ⟨context, hcontext, rfl⟩ := Except.map_eq_ok_iff.mp hpatched
  cases h
  exact ⟨rfl, (TradingContext.applyRuntimePatch_eq_ok hcontext).1⟩

/-- G-05 leaves the exit intent. -/
theorem clean_of_stop (h : executeBatch environment stopWithoutPosition session = .ok next) :
    Clean next ↔ session.context.runtime.pendingExitReason = none := by
  obtain ⟨hscheduler, hfields⟩ := executeBatch_ending h
  obtain ⟨hlower, hreason, -, -⟩ := withoutLowerEvent_runtime session.context
  generalize (withoutLowerEvent session.context).runtime = ended at hfields hlower hreason
  have hnext : next.context.runtime.pendingExitReason =
      session.context.runtime.pendingExitReason := by
    rw [hfields]
    exact hreason
  constructor
  · intro hclean
    rw [← hnext]
    exact hclean.pendingExitReason
  · intro hnone
    rw [hnone] at hnext
    refine ⟨?_, ?_, ?_, ?_, ?_, hnext, ?_, ?_, ?_, hscheduler⟩
    case refine_6 =>
      -- without a reason there is no %B of the exit
      have hhas := next.context.runtime.exit_pct_b_has_reason
      rw [hnext] at hhas
      simpa using hhas
    case refine_7 =>
      have hhas := next.context.runtime.return_state_has_reason
      rw [hnext] at hhas
      simpa using hhas
    all_goals
      rw [hfields]
    case refine_8 => exact hlower
    all_goals rfl

/-- G-06F releases everything. -/
theorem clean_of_forceSell
    (h : executeBatch environment handleForceSellFinished.actionRequests session = .ok next) :
    Clean next := by
  obtain ⟨hscheduler, hfields⟩ := executeBatch_ending h
  obtain ⟨hlower, -, -, -⟩ := withoutLowerEvent_runtime session.context
  generalize (withoutLowerEvent session.context).runtime = ended at hfields hlower
  refine ⟨?_, ?_, ?_, ?_, ?_, ?_, ?_, ?_, ?_, hscheduler⟩
  all_goals
    rw [hfields]
  case refine_9 => exact hlower
  all_goals rfl

/-! ## Runs -/

/-- In every run, the step by which the machine enters LOGIC_TERMINATED is taken by the
context, and it leaves nothing of the session behind if and only if no STOP finds an exit
intent. -/
theorem termination_clean_iff (hrun : Reachable session) {event : TradingEvent}
    {evaluatedAt : Timestamp} {result : TradingSTMResult}
    (hresult : handle session.state event (session.context.view evaluatedAt) = .ok result)
    (hbefore : session.state.rootState ≠ .logicTerminated)
    (hafter : result.stateAfter.rootState = .logicTerminated) (environment : BatchEnvironment) :
    ∃ next, executeBatch environment result.actionRequests
        { session with state := result.stateAfter } = .ok next ∧
      (Clean next ↔ (event.eventType = .stopConfirmed →
        session.context.runtime.pendingExitReason = none)) := by
  have hends := ((handle_batch hresult).ends hafter).resolve_left hbefore
  have hid : session.context.runtime.pendingOrderId = none := hends.pendingOrderId
  have hpending : session.context.pendingOrder = none := by
    cases horder : session.context.pendingOrder with
    | none => rfl
    | some order =>
        have haligned := (session.context.pending_aligned order horder).1
        exact absurd (hid.symm.trans haligned) (by simp)
  obtain ⟨next, hnext⟩ := @executeBatch_of_requests _ environment hrun.tracked _ _ _
    (handle_batch hresult).requests (.inl hpending) result.stateAfter result.actionRequests.length
  rw [List.take_length] at hnext
  refine ⟨next, hnext, ?_⟩
  generalize result.actionRequests = actions at hends hnext
  cases hends with
  | stop hevent _ =>
      rw [clean_of_stop hnext]
      simp [hevent]
  | forceSell hevent _ =>
      simp [clean_of_forceSell hnext, hevent]

/-- A STOP before any order ends a session cleanly. -/
theorem termination_clean_flushed : ∃ session result, Reachable session ∧
    handle session.state stopConfirmed (session.context.view 0) = .ok result ∧
    session.context.runtime.lowerEventId ≠ none ∧
    ∃ next, executeBatch {} result.actionRequests
        { session with state := result.stateAfter } = .ok next ∧ Clean next := by
  obtain ⟨session, result, hrun, hresult, hcheck⟩ :=
    @reachable_of_check flushedInputs stopConfirmed
      (fun session result => decide (session.state.rootState ≠ .logicTerminated) &&
        decide (result.stateAfter.rootState = .logicTerminated) &&
        decide (session.context.runtime.pendingExitReason = none) &&
        decide (session.context.runtime.lowerEventId ≠ none)) (by decide +kernel)
  simp only [Bool.and_eq_true, decide_eq_true_eq] at hcheck
  obtain ⟨next, hnext, hclean⟩ := termination_clean_iff hrun hresult hcheck.1.1.1 hcheck.1.1.2 {}
  exact ⟨session, result, hrun, hresult, hcheck.2, next, hnext, hclean.mpr fun _ => hcheck.1.2⟩

/-- The position of Case C. -/
def boughtPosition : PositionSnapshot where
  quantity := 1
  entryPrice := some 91
  entryPrice_nonneg := by decide

/-- The order of Case C is filled. -/
def filledInputs : List Input :=
  flushedInputs ++ [
    microstep .retryCaseCSetupConditionCheck none [
      .publishPendingOrder (publishedOrder "order-1" .caseC .buy),
      .updatePosition boughtPosition (some .caseC),
      .clearPendingOrder false,
      .applyRuntimePatch (.tradingPhase .idle)],
    microstep .caseCPositionOpened none []]

/-- An hour later the position is sold; the outcome is not yet processed. -/
def soldInputs : List Input :=
  filledInputs ++ [
    .call (.updateMarket
      { reboundMarket with
        holdingElapsed := 3600000000
        holding_nonneg := by decide }),
    microstep .caseCTimeExit none [
      .publishPendingOrder (publishedOrder "order-2" .caseC .sell),
      .updatePosition {} none,
      .applyRuntimePatch (.caseCExitResult .time (some (.finite (-2 / 5)))),
      .clearPendingOrder false]]

/-- A run in which STOP is confirmed between the fill of an exit and its outcome: the
session ends with the exit intent left. -/
theorem termination_not_clean : ∃ session result next, Reachable session ∧
    handle session.state stopConfirmed (session.context.view 0) = .ok result ∧
    session.state.rootState ≠ .logicTerminated ∧
    result.stateAfter.rootState = .logicTerminated ∧
    executeBatch {} result.actionRequests
      { session with state := result.stateAfter } = .ok next ∧ ¬ Clean next := by
  obtain ⟨session, result, hrun, hresult, hcheck⟩ :=
    @reachable_of_check soldInputs stopConfirmed
      (fun session result => decide (session.state.rootState ≠ .logicTerminated) &&
        decide (result.stateAfter.rootState = .logicTerminated) &&
        (executeBatch {} result.actionRequests
          { session with state := result.stateAfter }).toOption.any
            (·.context.runtime.pendingExitReason.isSome)) (by decide +kernel)
  simp only [Bool.and_eq_true, decide_eq_true_eq] at hcheck
  obtain ⟨⟨hbefore, hafter⟩, hleft⟩ := hcheck
  cases hnext : executeBatch {} result.actionRequests
      { session with state := result.stateAfter } with
  | error error => rw [hnext] at hleft; cases hleft
  | ok next =>
      rw [hnext] at hleft
      refine ⟨session, result, next, hrun, hresult, hbefore, hafter, hnext, fun hclean => ?_⟩
      have hnone := hclean.pendingExitReason
      simp only [Except.toOption, Option.any_some, hnone] at hleft
      cases hleft

end TradingSession

end Trading
