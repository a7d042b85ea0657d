import AutoTrader.Trading.Session.Termination

/-!
# Cancelling the order that lost the entry

When a position is opened, the signal region of the rival strategy cancels its own entry
order.  It reads the order from the runtime, where the fill of the winner has already
cleared it.

* `CancelsLoser` — a cancellation names the pending order, and that is the loser's.
* `handle_lost` — a strategy that loses the entry always asks for its cancellation.
* `TradingSession.RunMeets` — the inputs of a run meet a condition on the session before them.
* `cancelPendingOrder_names_loser` — the cancellations of a run name their orders exactly when
  no strategy loses the entry; `cancelPendingOrder_none` is a run in which one does.
-/

namespace Trading

/-- Every cancellation names the pending order of the runtime, and when a position was
opened this is an order of the rival. -/
def CancelsLoser (event : TradingEvent) (context : TradingContextView)
    (actions : List TradingActionRequest) : Prop :=
  ∀ id reason, .cancelPendingOrder id reason ∈ actions →
    ∃ orderId, id = some orderId ∧ context.runtime.pendingOrderId = some orderId ∧
      ∀ winner : StrategyType, event.eventType = winner.positionOpened →
        context.runtime.pendingStrategy = some winner.rival

/-! ## The cancellation of a lost entry -/

section Lost

variable {strategy winner : StrategyType} {state : TradingStateConfiguration}
  {event : TradingEvent} {context : TradingContextView}

/-- An opened position is nothing for the global layer. -/
theorem handleGlobalTransition_opened (hevent : event.eventType = winner.positionOpened) :
    handleGlobalTransition state event context = .ok none := by
  cases winner <;>
    simp [handleGlobalTransition, handleBandTouch, isUpperTouch, isLowerTouch,
      handleSessionTransition, isMarketObservation, hevent, StrategyType.positionOpened]

/-- Region one lets the signal regions see an opened position. -/
theorem handleRegionOne_opened (hevent : event.eventType = winner.positionOpened) :
    ∃ outcome : Option TransitionOutcome, handleRegionOne state event context = .ok outcome ∧
      outcome.any (·.exclusive) = false := by
  unfold handleRegionOne
  rw [handleCaseBPositionTransition_opened hevent, handleCaseCPositionTransition_opened hevent]
  split
  · exact ⟨none, rfl, rfl⟩
  split
  · exact ⟨none, rfl, rfl⟩
  · refine ⟨_, rfl, ?_⟩
    unfold handleOwnershipTransition
    split
    · rfl
    cases winner <;> simp only [StrategyType.positionOpened] at hevent <;>
      simp only [hevent] <;> split <;> rfl

/-- C-17. -/
theorem handleCaseCSignalTransition_lost
    (hloses : losesArbitration .caseC state event context = true) :
    handleCaseCSignalTransition state event context =
      .ok (some (createTransitionOutcome "C-17" (state.withCaseCSignal .caseCFinalState) [
        .cancelPendingOrder context.runtime.pendingOrderId "CASE_B_WON_ENTRY_ARBITRATION",
        patch [⟨.allowNewCaseCSetup, false⟩]])) := by
  simp only [losesArbitration, entrySignalled, Bool.and_eq_true, beq_iff_eq, StrategyType.rival,
    StrategyType.positionOpened] at hloses
  obtain ⟨⟨hstate, hevent⟩, howner⟩ := hloses
  simp [handleCaseCSignalTransition, hstate, handleCPositionOpenSignalled, hevent, howner]

/-- B-19. -/
theorem handleCaseBSignalTransition_lost
    (hloses : losesArbitration .caseB state event context = true) :
    handleCaseBSignalTransition state event context =
      some (createTransitionOutcome "B-19" (state.withCaseBSignal .bWaitPullback) [
        .cancelPendingOrder context.runtime.pendingOrderId "CASE_C_WON_ENTRY_ARBITRATION",
        patch [⟨.caseBEntryPaused, true⟩]]) := by
  simp only [losesArbitration, entrySignalled, Bool.and_eq_true, beq_iff_eq, StrategyType.rival,
    StrategyType.positionOpened] at hloses
  obtain ⟨⟨hstate, hevent⟩, howner⟩ := hloses
  simp [handleCaseBSignalTransition, hstate, handleBPositionOpenSignalled, hevent, howner]

theorem losesArbitration_congr {before : TradingStateConfiguration}
    (h : entrySignalled strategy before = entrySignalled strategy state) :
    losesArbitration strategy before event context =
      losesArbitration strategy state event context := by
  simp only [losesArbitration, h]

/-- The signal region of the loser asks for the cancellation. -/
theorem handleSignalRegions_lost {selection final : Selection}
    (hsignals : entrySignalled strategy selection.state = entrySignalled strategy state)
    (hloses : losesArbitration strategy state event context = true)
    (h : handleSignalRegions selection event context = .ok final) :
    final.transitionIds ≠ [] ∧
      ∃ reason, .cancelPendingOrder context.runtime.pendingOrderId reason ∈ final.actions := by
  have hopened := losesArbitration_eventType hloses
  have hobserved : event.eventType ≠ .marketDataUpdated :=
    hopened ▸ positionOpened_ne_marketDataUpdated _
  rw [← losesArbitration_congr hsignals] at hloses
  obtain ⟨caseC, hcaseC, h⟩ := Except.bind_eq_ok_iff.mp h
  cases Except.pure_eq_ok_iff.mp h
  rw [resolveCaseCRegionEvent, if_pos hobserved] at hcaseC
  rw [resolveCaseBRegionEvent, if_pos hobserved]
  cases strategy with
  | caseC =>
      rw [handleCaseCSignalTransition_lost hloses] at hcaseC
      cases hcaseC
      refine ⟨?_, "CASE_B_WON_ENTRY_ARBITRATION", ?_⟩ <;>
        cases handleCaseBSignalTransition _ event context <;>
          simp [Selection.accept, createTransitionOutcome, Option.filter] <;>
            split <;> simp
  | caseB =>
      have hkept : entrySignalled .caseB (selection.accept caseC).state =
          entrySignalled .caseB selection.state := by
        cases caseC with
        | none => rfl
        | some outcome => exact handleCaseCSignalTransition_entrySignalled hopened hcaseC
      rw [← losesArbitration_congr hkept] at hloses
      rw [handleCaseBSignalTransition_lost hloses, Option.filter_some, if_pos]
      · refine ⟨?_, "CASE_C_WON_ENTRY_ARBITRATION", ?_⟩
        · exact List.append_ne_nil_of_right_ne_nil _ (List.cons_ne_nil _ _)
        · exact List.mem_append_right _ List.mem_cons_self
      · rw [doesCaseCBuyWin, Bool.not_eq_true', Bool.and_eq_false_iff]
        exact .inr rfl

/-- A strategy that loses the entry asks for the cancellation of the pending order. -/
theorem handle_lost {result : TradingSTMResult} (h : handle state event context = .ok result)
    (hloses : losesArbitration strategy state event context = true) :
    ∃ reason, .cancelPendingOrder context.runtime.pendingOrderId reason ∈
      result.actionRequests := by
  have hopened := losesArbitration_eventType hloses
  have hroot : state.rootState = .tradeManagement := by
    simp only [losesArbitration, entrySignalled, Bool.and_eq_true] at hloses
    cases state <;> cases strategy <;>
      simp_all [TradingStateConfiguration.rootState, TradingStateConfiguration.caseBSignalState,
        TradingStateConfiguration.caseCSignalState]
  unfold handle at h
  rw [handleGlobalTransition_opened hopened, Except.ok_bind] at h
  have hother : event.eventType ≠ .new30mLowerBandTouched := by
    rw [hopened]
    cases strategy <;> decide
  simp only [if_neg hother, hroot, ne_eq, not_true_eq_false, if_false] at h
  unfold handleRegions at h
  rw [resolveRegionOneEvent_of_ne (hopened ▸ positionOpened_ne_marketDataUpdated _)] at h
  obtain ⟨regionOne, hone, hexclusive⟩ := @handleRegionOne_opened _ state event context hopened
  have hsignals : entrySignalled strategy
      ((⟨state, [], []⟩ : Selection).accept regionOne).state = entrySignalled strategy state := by
    cases regionOne with
    | none => rfl
    | some outcome => exact handleRegionOne_entrySignalled hopened hone strategy
  rw [hone, Except.ok_bind] at h
  simp only [hexclusive, Bool.false_eq_true, if_false] at h
  obtain ⟨final, hfinal, h⟩ := Except.bind_eq_ok_iff.mp h
  obtain ⟨hids, reason, hmem⟩ := handleSignalRegions_lost hsignals hloses hfinal
  rw [if_neg (by simpa using hids)] at h
  rw [commit_actionRequests h]
  exact ⟨reason, List.mem_append_left _ hmem⟩

/-- Without a lost entry only a STOP cancels, and it names the pending order. -/
theorem CancelsPending.cancelsLoser {actions : List TradingActionRequest}
    (h : CancelsPending state event context actions)
    (hkeeps : ∀ strategy, losesArbitration strategy state event context = false) :
    CancelsLoser event context actions := by
  intro id reason hmem
  obtain ⟨rfl, hwhy⟩ := h id reason hmem
  rcases hwhy with ⟨hevent, hnone⟩ | ⟨strategy, hloses⟩
  · obtain ⟨orderId, horder⟩ := Option.ne_none_iff_exists'.mp hnone
    refine ⟨orderId, horder, horder, fun winner hwinner => ?_⟩
    rw [hevent] at hwinner
    cases winner <;> cases hwinner
  · rw [hkeeps strategy] at hloses
    cases hloses

end Lost

namespace TradingSession

/-! ## Runs -/

/-- What the machine decides on an input. -/
def decision (session : TradingSession) : Input → Option (TradingEvent × TradingContextView ×
    Except TradingError TradingSTMResult)
  | .event event evaluatedAt _ _ =>
      some (event, session.context.view evaluatedAt,
        handle session.state event (session.context.view evaluatedAt))
  | _ => none

/-- The controller issues the outcome of an entry after it has cleared its order. -/
def IssuesOpened (session : TradingSession) (input : Input) : Prop :=
  ∀ event context result, session.decision input = some (event, context, result) →
    ∀ winner : StrategyType, event.eventType = winner.positionOpened →
      session.context.pendingOrder = none

/-- The microstep of an input cancels only the loser's order. -/
def CancelsOnlyLoser (session : TradingSession) (input : Input) : Prop :=
  ∀ event context result, session.decision input = some (event, context, .ok result) →
    CancelsLoser event context result.actionRequests

/-- In the microstep of an input no strategy loses the entry. -/
def LosesNone (session : TradingSession) (input : Input) : Prop :=
  ∀ event context result, session.decision input = some (event, context, .ok result) →
    ∀ strategy, losesArbitration strategy session.state event context = false

/-- The inputs of a run meet a condition on the session before them. -/
def RunMeets (condition : TradingSession → Input → Prop) : TradingSession → List Input → Prop
  | _, [] => True
  | session, input :: rest =>
      condition session input ∧
        ∀ next, session.receive input = .ok next → RunMeets condition next rest

/-- With its order cleared, the loser of an entry cancels no order at all. -/
theorem cancelsOnlyLoser_iff {session : TradingSession} {input : Input} (hrun : Reachable session)
    (hissues : session.IssuesOpened input) :
    session.CancelsOnlyLoser input ↔ session.LosesNone input := by
  constructor
  · intro hcancels event context result hdecision strategy
    refine Bool.eq_false_iff.mpr fun hloses => ?_
    have hnone := hrun.tracked.orderId
      (hissues event context _ hdecision _ (losesArbitration_eventType hloses))
    have hnames := hcancels event context result hdecision
    cases input with
    | call call | release trigger now => cases hdecision
    | event event evaluatedAt environment executed =>
        simp only [decision, Option.some.injEq, Prod.mk.injEq] at hdecision
        obtain ⟨rfl, rfl, hresult⟩ := hdecision
        obtain ⟨reason, hmem⟩ := handle_lost hresult hloses
        obtain ⟨orderId, horder, -⟩ := hnames _ _ hmem
        cases hnone.symm.trans horder
  · intro hloses event context result hdecision
    have hnever := hloses event context result hdecision
    cases input with
    | call call | release trigger now => cases hdecision
    | event event evaluatedAt environment executed =>
        simp only [decision, Option.some.injEq, Prod.mk.injEq] at hdecision
        obtain ⟨rfl, rfl, hresult⟩ := hdecision
        exact (handle_batch hresult).cancels.cancelsLoser hnever

/-- Of the cancellations of a run, exactly those of a lost entry fail to name the loser's order:
they name none, because the order is cleared before the position is reported as opened. -/
theorem cancelPendingOrder_names_loser {session : TradingSession} {inputs : List Input}
    (hrun : Reachable session) (hissues : RunMeets IssuesOpened session inputs) :
    RunMeets CancelsOnlyLoser session inputs ↔ RunMeets LosesNone session inputs := by
  induction inputs generalizing session with
  | nil => exact Iff.rfl
  | cons input rest ih =>
      obtain ⟨hinput, hrest⟩ := hissues
      refine and_congr (cancelsOnlyLoser_iff hrun hinput) ?_
      exact forall_congr' fun next => forall_congr' fun hnext =>
        ih (hrun.step hnext) (hrest next hnext)

/-- Case B buys on a pullback and its order is rejected; then Case C buys. -/
def arbitratedInputs : List Input :=
  flushedInputs ++ [
    microstep .thirtyMinuteCandleClosed none [],
    microstep .startCaseBWaitPullbackConditionCheck none [
      .publishPendingOrder (publishedOrder "order-1" .caseB .buy),
      .clearPendingOrder true],
    microstep .caseBBuyFailed (some (.buyAttempt .initial)) [],
    microstep .retryCaseCSetupConditionCheck none [
      .publishPendingOrder (publishedOrder "order-2" .caseC .buy),
      .updatePosition boughtPosition (some .caseC),
      .clearPendingOrder false,
      .applyRuntimePatch (.tradingPhase .idle)]]

/-- The position of Case C was opened. -/
def caseCPositionOpened : TradingEvent where
  eventType := .caseCPositionOpened
  occurredAt := 0

/-- After this run the position is reported as opened, and Case B cancels no order. -/
theorem cancelPendingOrder_names_loser_arbitrated : ∃ session, Reachable session ∧
    session.context.pendingOrder = none ∧
    ¬ RunMeets CancelsOnlyLoser session [.event caseCPositionOpened 0 {} 0] := by
  obtain ⟨session, result, hrun, hresult, hcheck⟩ :=
    @reachable_of_check arbitratedInputs caseCPositionOpened
      (fun session _ => session.context.pendingOrder.isNone &&
        losesArbitration .caseB session.state caseCPositionOpened (session.context.view 0))
      (by decide +kernel)
  rw [Bool.and_eq_true, Option.isNone_iff_eq_none] at hcheck
  refine ⟨session, hrun, hcheck.1, fun hcancels => ?_⟩
  have hissues : RunMeets IssuesOpened session [.event caseCPositionOpened 0 {} 0] :=
    ⟨fun _ _ _ _ _ _ => hcheck.1, fun _ _ => trivial⟩
  have hnever := ((cancelPendingOrder_names_loser hrun hissues).mp hcancels).1
  have hkept := hnever caseCPositionOpened (session.context.view 0) result
    (by rw [← hresult]; rfl) .caseB
  rw [hcheck.2] at hkept
  cases hkept

/-- The request cancels no order at all. -/
def cancelsNothing : TradingActionRequest → Bool
  | .cancelPendingOrder none _ => true
  | _ => false

/-- A run in which the loser's order had failed: B-19 asks to cancel an order without
naming one. -/
theorem cancelPendingOrder_none : ∃ session result, Reachable session ∧
    session.context.pendingOrder = none ∧
    handle session.state caseCPositionOpened (session.context.view 0) = .ok result ∧
    ¬ CancelsLoser caseCPositionOpened (session.context.view 0) result.actionRequests := by
  obtain ⟨session, result, hrun, hresult, hcheck⟩ :=
    @reachable_of_check arbitratedInputs caseCPositionOpened
      (fun session result => session.context.pendingOrder.isNone &&
        result.actionRequests.any cancelsNothing) (by decide +kernel)
  rw [Bool.and_eq_true, Option.isNone_iff_eq_none] at hcheck
  refine ⟨session, result, hrun, hcheck.1, hresult, fun hcancels => ?_⟩
  obtain ⟨action, haction, hnothing⟩ := List.any_eq_true.mp hcheck.2
  cases action with
  | cancelPendingOrder id reason =>
      obtain ⟨orderId, rfl, -⟩ := hcancels id reason haction
      cases hnothing
  | _ => cases hnothing

end TradingSession

end Trading
