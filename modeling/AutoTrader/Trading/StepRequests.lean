import AutoTrader.Trading.RegionRequests

/-!
# The batch of a microstep

The parts of a microstep put together.

* `SignalsRequests` — both signal regions: nothing that touches order fields, or one
  entry order.
* `handle_batch` — the batch of every microstep, its cancellations, and how it starts and
  ends a session.
* `handle_releases` — a step that releases the order fields asks for that first.
-/

namespace Trading

variable {context : TradingContextView} {event : TradingEvent} {state : TradingStateConfiguration}
  {outcome : TransitionOutcome}

/-! ## Entries that are signalled -/

@[simp] theorem entrySignalled_withOwnership (strategy : StrategyType) (region : OwnershipRegion) :
    entrySignalled strategy (state.withOwnership region) = entrySignalled strategy state := by
  cases state <;> cases strategy <;> rfl

@[simp] theorem entrySignalled_withCaseCSignal (signal : CaseCSignalState) :
    entrySignalled .caseB (state.withCaseCSignal signal) = entrySignalled .caseB state := by
  cases state <;> rfl

/-- An open position of Case B does not react to an opened position. -/
theorem handleCaseBPositionTransition_opened {winner : StrategyType}
    (hevent : event.eventType = winner.positionOpened) :
    handleCaseBPositionTransition state event context = .ok none := by
  have hholding : handleCaseBHolding state event context = none := by
    cases winner <;>
      simp [handleCaseBHolding, hevent, StrategyType.positionOpened, caseBHoldingExitByEvent]
  have htrend : handleTrendHold state event context = none := by
    cases winner <;> simp [handleTrendHold, hevent, StrategyType.positionOpened]
  have hother : event.eventType ≠ .caseBSellFilled ∧ event.eventType ≠ .caseBSellFinished := by
    rw [hevent]
    cases winner <;> decide
  unfold handleCaseBPositionTransition
  split
  · rfl
  rw [if_neg hother.1, hholding, htrend, if_neg hother.2]
  split
  · rfl
  split
  · rfl
  split <;> rfl

/-- An open position of Case C does not react to an opened position. -/
theorem handleCaseCPositionTransition_opened {winner : StrategyType}
    (hevent : event.eventType = winner.positionOpened) :
    handleCaseCPositionTransition state event context = .ok none := by
  have hholding : handleCaseCHolding state event context = .ok none := by
    cases winner <;>
      simp [handleCaseCHolding, handleTimeExitOrFailure, retryCaseCExit, hevent,
        StrategyType.positionOpened] <;>
      split <;> rfl
  have htrailing : handleTpTrailing state event context = none := by
    cases winner <;>
      simp [handleTpTrailing, handleTimeExitOrFailure, retryCaseCExit, hevent,
        StrategyType.positionOpened] <;>
      split <;> rfl
  have hclosed : handleCaseCClosed state event context = none := by
    cases winner <;> simp [handleCaseCClosed, hevent, StrategyType.positionOpened]
  have hother : event.eventType ≠ .caseCSellFilled ∧ event.eventType ≠ .checkCaseBHandoff := by
    rw [hevent]
    cases winner <;> decide
  unfold handleCaseCPositionTransition
  split
  · rfl
  rw [if_neg hother.1, hholding, htrailing, hclosed, handleCaseCRecovered, if_pos hother.2]
  split
  · rfl
  · rfl
  · split <;> rfl
  · split <;> rfl

/-- Region one keeps the signals when a position was opened. -/
theorem handleRegionOne_entrySignalled {winner : StrategyType}
    (hevent : event.eventType = winner.positionOpened)
    (h : handleRegionOne state event context = .ok (some outcome)) (strategy : StrategyType) :
    entrySignalled strategy outcome.stateAfter = entrySignalled strategy state := by
  unfold handleRegionOne at h
  rw [handleCaseBPositionTransition_opened hevent, handleCaseCPositionTransition_opened hevent] at h
  split at h
  · cases h
  split at h
  · cases h
  · have h := Except.ok.inj h
    unfold handleOwnershipTransition at h
    split at h
    · cases h
    cases winner <;> simp only [StrategyType.positionOpened] at hevent <;>
      simp only [hevent] at h <;> split at h <;> cases h <;>
      simp [createTransitionOutcome]

/-- Case C keeps the signal of Case B when a position was opened. -/
theorem handleCaseCSignalTransition_entrySignalled {winner : StrategyType}
    (hevent : event.eventType = winner.positionOpened)
    (h : handleCaseCSignalTransition state event context = .ok (some outcome)) :
    entrySignalled .caseB outcome.stateAfter = entrySignalled .caseB state := by
  have hopened : event.eventType ≠ .retryCaseCSetupConditionCheck := by
    rw [hevent]
    cases winner <;> decide
  cases handleCaseCSignalTransition_row h with
  | check isActivation =>
      unfold checkSetup
      split <;> simp [createTransitionOutcome]
  | giveUpWaiting _ h | giveUp _ h =>
      rw [giveUpSetup] at h
      split at h <;> cases h
      simp [createTransitionOutcome]
  | start => simp [startSetup, createTransitionOutcome]
  | consume _ hretry | flush _ _ hretry | restart _ hretry | rebound _ hretry =>
      exact absurd hretry hopened
  | opened | lost => simp [createTransitionOutcome]

/-! ## Both signal regions -/

/-- A batch asks for at most one order. -/
def OneOrder (actions : List TradingActionRequest) : Prop :=
  (actions.filter isOrderCreating).length ≤ 1

/-- Two submissions are one too many. -/
theorem OneOrder.not_both {xs ys : List TradingActionRequest} {first second : SubmitOrder}
    (h : OneOrder (xs ++ ys)) (hfirst : .submitOrder first ∈ xs)
    (hsecond : .submitOrder second ∈ ys) : False := by
  have hxs : 0 < (xs.filter isOrderCreating).length :=
    List.length_pos_of_mem (List.mem_filter.mpr ⟨hfirst, rfl⟩)
  have hys : 0 < (ys.filter isOrderCreating).length :=
    List.length_pos_of_mem (List.mem_filter.mpr ⟨hsecond, rfl⟩)
  simp only [OneOrder, List.filter_append, List.length_append] at h
  omega

theorem OneOrder.of_append_right {xs ys : List TradingActionRequest} (h : OneOrder (xs ++ ys)) :
    OneOrder ys := by
  simp only [OneOrder, List.filter_append, List.length_append] at h ⊢
  omega

theorem OneOrder.of_append_left {xs ys : List TradingActionRequest} (h : OneOrder (xs ++ ys)) :
    OneOrder xs := by
  simp only [OneOrder, List.filter_append, List.length_append] at h ⊢
  omega

/-- What both signal regions ask for together. -/
inductive SignalsRequests (context : TradingContextView) : List TradingActionRequest → Prop
  | quiet {actions : List TradingActionRequest} (h : AllQuiet actions) :
      SignalsRequests context actions
  | entry {before after : List TradingActionRequest} {changes : List RuntimeFieldChange}
      {order : SubmitOrder} (hpending : context.runtime.pendingOrderId = none)
      (hbefore : AllSilent before) (hchanges : Loose changes) (hafter : AllQuiet after) :
      SignalsRequests context
        (before ++ .patchRuntimeContext changes :: .submitOrder order :: after)

/-- An opened position is no event on which a signal region orders. -/
theorem isSignalOrderEvent_positionOpened (winner : StrategyType) :
    isSignalOrderEvent winner.positionOpened = false := by
  cases winner <;> rfl

/-- Rewriting for Case C makes no opened position. -/
theorem positionOpened_of_resolveCaseC {winner : StrategyType}
    (h : (resolveCaseCRegionEvent state event).eventType = winner.positionOpened) :
    event.eventType = winner.positionOpened ∧ resolveCaseCRegionEvent state event = event := by
  unfold resolveCaseCRegionEvent at h ⊢
  split at h
  · rename_i hevent
    rw [if_pos hevent]
    exact ⟨h, rfl⟩
  · rename_i hevent
    rw [not_not] at hevent
    split at h
    · cases winner <;> cases h
    · cases winner <;> cases h
    · rw [hevent] at h
      cases winner <;> cases h

/-- Rewriting for Case B makes no opened position. -/
theorem positionOpened_of_resolveCaseB {winner : StrategyType}
    (h : (resolveCaseBRegionEvent state event context).eventType = winner.positionOpened) :
    event.eventType = winner.positionOpened ∧
      resolveCaseBRegionEvent state event context = event := by
  unfold resolveCaseBRegionEvent at h ⊢
  split at h
  · rename_i hevent
    rw [if_pos hevent]
    exact ⟨h, rfl⟩
  · rename_i hevent
    rw [not_not] at hevent
    split at h
    · cases winner <;> cases h
    split at h
    · cases winner <;> cases h
    · rw [hevent] at h
      cases winner <;> cases h

theorem losesArbitration_eventType {strategy : StrategyType}
    (h : losesArbitration strategy state event context = true) :
    event.eventType = strategy.rival.positionOpened := by
  simp only [losesArbitration, Bool.and_eq_true, beq_iff_eq] at h
  exact h.1.2

/-- The requests of the two regions one after the other. -/
theorem SignalsRequests.of_regions {stateC stateB : TradingStateConfiguration}
    {caseC caseB : List TradingActionRequest}
    (hC : SignalRequests .caseC stateC (resolveCaseCRegionEvent stateC event) context caseC)
    (hB : SignalRequests .caseB stateB (resolveCaseBRegionEvent stateB event context) context caseB)
    (hone : OneOrder (caseC ++ caseB)) : SignalsRequests context (caseC ++ caseB) := by
  cases hC with
  | silent hsilent =>
      cases hB with
      | silent h => exact .quiet (allQuiet_append.mpr ⟨hsilent.allQuiet, h.allQuiet⟩)
      | cancel hloses hchanges =>
          exact .quiet (allQuiet_append.mpr ⟨hsilent.allQuiet, by simpa using hchanges⟩)
      | entry hevent hpending hbefore hchanges =>
          rw [← List.append_assoc]
          exact .entry hpending (allSilent_append.mpr ⟨hsilent, hbefore⟩) hchanges allQuiet_nil
  | entry hevent hpending hbefore hchanges =>
      cases hB with
      | silent h =>
          rw [List.append_assoc]
          exact .entry hpending hbefore hchanges h.allQuiet
      | cancel hloses hquiet =>
          rw [List.append_assoc]
          exact .entry hpending hbefore hchanges (by simpa using hquiet)
      | entry =>
          exact (hone.not_both
            (List.mem_append_right _ (List.mem_cons_of_mem _ (List.mem_singleton.mpr rfl)))
            (List.mem_append_right _ (List.mem_cons_of_mem _ (List.mem_singleton.mpr rfl)))).elim
  | cancel hloses hquiet =>
      cases hB with
      | silent h => exact .quiet (allQuiet_append.mpr ⟨by simpa using hquiet, h.allQuiet⟩)
      | cancel _ hquietB =>
          exact .quiet (allQuiet_append.mpr ⟨by simpa using hquiet, by simpa using hquietB⟩)
      | entry hevent =>
          -- Case B orders on no event that opens a position
          obtain ⟨hopened, -⟩ := positionOpened_of_resolveCaseC (losesArbitration_eventType hloses)
          have hsame : resolveCaseBRegionEvent stateB event context = event := by
            rw [resolveCaseBRegionEvent, if_pos (by rw [hopened]; decide)]
          rw [hsame, hopened, isSignalOrderEvent_positionOpened] at hevent
          cases hevent

/-! ## The whole microstep -/

/-- The signals are those before the microstep when a position was opened. -/
def KeepsSignals (state : TradingStateConfiguration) (event : TradingEvent)
    (strategy : StrategyType) (after : TradingStateConfiguration) : Prop :=
  ∀ winner : StrategyType, event.eventType = winner.positionOpened →
    entrySignalled strategy after = entrySignalled strategy state

/-- A signal region cancels only for its own strategy. -/
theorem SignalRequests.cancelsPending {strategy : StrategyType} {before : TradingStateConfiguration}
    {seen : TradingEvent} {actions : List TradingActionRequest}
    (h : SignalRequests strategy before seen context actions)
    (hevent : ∀ winner : StrategyType, seen.eventType = winner.positionOpened →
      event.eventType = winner.positionOpened ∧ seen = event)
    (hsignals : KeepsSignals state event strategy before) :
    CancelsPending state event context actions := by
  cases h with
  | silent h => exact cancelsPending_of_not_mem fun _ _ => h.allInner.not_mem
  | entry _ _ hbefore _ =>
      refine cancelsPending_of_not_mem fun id reason hmem => ?_
      rcases List.mem_append.mp hmem with hmem | hmem
      · exact hbefore.allInner.not_mem hmem
      · simp at hmem
  | cancel hloses _ =>
      intro id reason hmem
      simp only [List.mem_cons, TradingActionRequest.cancelPendingOrder.injEq, reduceCtorEq,
        List.not_mem_nil, or_false] at hmem
      refine ⟨hmem.1, .inr ⟨strategy, ?_⟩⟩
      obtain ⟨hopened, rfl⟩ := hevent _ (losesArbitration_eventType hloses)
      simp only [losesArbitration] at hloses ⊢
      rw [hsignals _ hopened] at hloses
      exact hloses

theorem CancelsPending.append {xs ys : List TradingActionRequest}
    (hxs : CancelsPending state event context xs) (hys : CancelsPending state event context ys) :
    CancelsPending state event context (xs ++ ys) :=
  fun id reason hmem => (List.mem_append.mp hmem).elim (hxs id reason) (hys id reason)

theorem RegionOneRequests.cancelsPending {released : Bool} {actions : List TradingActionRequest}
    (h : RegionOneRequests released context actions) :
    CancelsPending state event context actions := by
  refine cancelsPending_of_not_mem fun id reason hmem => ?_
  cases h with
  | silent h => exact h.allInner.not_mem hmem
  | release _ _ hrest =>
      rcases List.mem_cons.mp hmem with hmem | hmem
      · cases hmem
      · exact hrest.allInner.not_mem hmem
  | order => simp at hmem

theorem completionActions_silent (before after : TradingStateConfiguration) :
    AllSilent (completionActions before after context) := by
  unfold completionActions
  split <;> simp

/-- Region one and the signal regions put together. -/
theorem RegionOneRequests.batch {one signals : List TradingActionRequest}
    (hone : RegionOneRequests (releasesOrder state event context) context one)
    (hsignals : SignalsRequests context signals) (horder : OneOrder (one ++ signals)) :
    BatchRequests state event context (one ++ signals) := by
  cases hsignals with
  | quiet h =>
      cases hone with
      | silent hsilent => exact .quiet (allQuiet_append.mpr ⟨hsilent.allQuiet, h⟩)
      | release hrelease hchanges hrest =>
          exact .release hrelease hchanges (allQuiet_append.mpr ⟨hrest.allQuiet, h⟩)
      | order hpending hchanges =>
          exact @BatchRequests.inner _ _ _ [_] (_ :: signals) (.inl hpending)
            (allInner_cons.mpr ⟨hchanges, allInner_nil⟩) (by simpa using h)
  | entry hpending hbefore hchanges hafter =>
      rename_i before after changes order
      have hentry : Inner (.patchRuntimeContext changes) := hchanges
      cases hone with
      | silent hsilent =>
          have h := @BatchRequests.inner state event context
            (one ++ (before ++ [.patchRuntimeContext changes])) (.submitOrder order :: after)
            (.inl hpending) (by simp [hsilent.allInner, hbefore.allInner, hentry])
            (by simpa using hafter)
          simpa using h
      | release hrelease hreleases hrest =>
          rename_i released rest
          have hfirst : Inner (.patchRuntimeContext released) := hreleases.toLoose
          have h := @BatchRequests.inner state event context
            (.patchRuntimeContext released :: rest ++ (before ++ [.patchRuntimeContext changes]))
            (.submitOrder order :: after) (.inl hpending)
            (by simp [hfirst, hrest.allInner, hbefore.allInner, hentry]) (by simpa using hafter)
          simpa using h
      | order =>
          exact (horder.not_both (List.mem_cons_of_mem _ (List.mem_singleton.mpr rfl))
            (List.mem_append_right _ (List.mem_cons_of_mem _ List.mem_cons_self))).elim

theorem KeepsRunning.trans {first second third : TradingStateConfiguration}
    (h : KeepsRunning first second) (hnext : KeepsRunning second third) :
    KeepsRunning first third := by
  rcases hnext with hnext | hnext
  · unfold KeepsRunning
    rw [hnext]
    exact h
  · exact .inr hnext

theorem SignalsRequests.append_silent {signals rest : List TradingActionRequest}
    (h : SignalsRequests context signals) (hrest : AllSilent rest) :
    SignalsRequests context (signals ++ rest) := by
  cases h with
  | quiet h => exact .quiet (allQuiet_append.mpr ⟨h, hrest.allQuiet⟩)
  | entry hpending hbefore hchanges hafter =>
      rw [List.append_assoc]
      exact .entry hpending hbefore hchanges (allQuiet_append.mpr ⟨hafter, hrest.allQuiet⟩)

/-- What the signal regions add to a selection. -/
theorem handleSignalRegions_requests {selection final : Selection}
    (hsignals : ∀ strategy, KeepsSignals state event strategy selection.state)
    (h : handleSignalRegions selection event context = .ok final)
    (horder : OneOrder final.actions) :
    ∃ signals, final.actions = selection.actions ++ signals ∧ SignalsRequests context signals ∧
      CancelsPending state event context signals ∧ KeepsRunning selection.state final.state := by
  obtain ⟨caseC, hcaseC, h⟩ := Except.bind_eq_ok_iff.mp h
  have hfinal := Except.pure_eq_ok_iff.mp h
  -- what Case C adds, and that it keeps the signal of Case B
  obtain ⟨actionsC, hactionsC, hC, hkeepB, hrunC⟩ : ∃ actionsC,
      (selection.accept caseC).actions = selection.actions ++ actionsC ∧
      SignalRequests .caseC selection.state (resolveCaseCRegionEvent selection.state event)
        context actionsC ∧
      KeepsSignals state event .caseB (selection.accept caseC).state ∧
      KeepsRunning selection.state (selection.accept caseC).state := by
    cases caseC with
    | none =>
        exact ⟨[], (List.append_nil _).symm, .silent allSilent_nil, hsignals _, keepsRunning_self⟩
    | some outcome =>
        have hbatch := handleCaseCSignalTransition_batch hcaseC
        refine ⟨_, rfl, hbatch.requests, fun winner hwinner => ?_, hbatch.running⟩
        have hresolved : resolveCaseCRegionEvent selection.state event = event := by
          rw [resolveCaseCRegionEvent, if_pos]
          rw [hwinner]
          cases winner <;> decide
        rw [hresolved] at hcaseC
        exact (handleCaseCSignalTransition_entrySignalled hwinner hcaseC).trans
          (hsignals _ winner hwinner)
  -- what Case B adds
  obtain ⟨actionsB, hactionsB, hB, hrunB⟩ : ∃ actionsB,
      final.actions = (selection.accept caseC).actions ++ actionsB ∧
      SignalRequests .caseB (selection.accept caseC).state
        (resolveCaseBRegionEvent (selection.accept caseC).state event context) context actionsB ∧
      KeepsRunning (selection.accept caseC).state final.state := by
    rw [← hfinal]
    generalize hcaseB : (Option.filter _ (handleCaseBSignalTransition _ _ _)) = caseB
    cases caseB with
    | none => exact ⟨[], (List.append_nil _).symm, .silent allSilent_nil, keepsRunning_self⟩
    | some outcome =>
        have hbatch := handleCaseBSignalTransition_batch (Option.filter_eq_some_iff.mp hcaseB).1
        exact ⟨_, rfl, hbatch.requests, hbatch.running⟩
  have hactions : final.actions = selection.actions ++ (actionsC ++ actionsB) := by
    rw [hactionsB, hactionsC, List.append_assoc]
  refine ⟨actionsC ++ actionsB, hactions, .of_regions hC hB ?_, ?_, hrunC.trans hrunB⟩
  · rw [hactions] at horder
    exact horder.of_append_right
  · exact (hC.cancelsPending (fun _ => positionOpened_of_resolveCaseC) (hsignals _)).append
      (hB.cancelsPending (fun _ => positionOpened_of_resolveCaseB) hkeepB)

theorem commit_stateAfter {selected : TransitionOutcome} {result : TradingSTMResult}
    (h : commit event context state selected = .ok result) :
    result.stateAfter = selected.stateAfter := by
  unfold commit at h
  split at h
  · cases h; rfl
  · cases h

/-- A step of the regions neither starts nor ends a session. -/
theorem StepBatch.of_running {after : TradingStateConfiguration}
    {actions : List TradingActionRequest} (hroot : state.rootState = .tradeManagement)
    (hrunning : KeepsRunning state after) (hrequests : BatchRequests state event context actions)
    (hcancels : CancelsPending state event context actions) :
    StepBatch state event context after actions := by
  refine ⟨hrequests, hcancels, fun h => ?_, fun h => ?_⟩
  all_goals
    unfold KeepsRunning at hrunning
    rw [h, hroot] at hrunning
    simp at hrunning

theorem resolveRegionOneEvent_of_ne (h : event.eventType ≠ .marketDataUpdated) :
    resolveRegionOneEvent state event = event := by
  unfold resolveRegionOneEvent
  rw [if_pos h]

theorem positionOpened_ne_marketDataUpdated (winner : StrategyType) :
    winner.positionOpened ≠ .marketDataUpdated := by
  cases winner <;> decide

theorem handleRegions_batch {result : TradingSTMResult} (hroot : state.rootState = .tradeManagement)
    (h : handleRegions state event context = .ok result) :
    StepBatch state event context result.stateAfter result.actionRequests := by
  have horder : OneOrder result.actionRequests :=
    (handleRegions_shape h).batchShape.filter_length_le_one
  obtain ⟨regionOne, hone, h⟩ := Except.bind_eq_ok_iff.mp h
  -- what region one selected
  obtain ⟨hrequests, hrunning, hsignals⟩ :
      RegionOneRequests (releasesOrder state event context) context
        ((⟨state, [], []⟩ : Selection).accept regionOne).actions ∧
      KeepsRunning state ((⟨state, [], []⟩ : Selection).accept regionOne).state ∧
      ∀ strategy, KeepsSignals state event strategy
        ((⟨state, [], []⟩ : Selection).accept regionOne).state := by
    cases regionOne with
    | none => exact ⟨.silent allSilent_nil, keepsRunning_self, fun _ _ _ => rfl⟩
    | some outcome =>
        have hbatch := handleRegionOne_batch hone
        refine ⟨hbatch.requests.mono releasesOrder_resolveRegionOneEvent, hbatch.running,
          fun strategy winner hwinner => ?_⟩
        rw [resolveRegionOneEvent_of_ne
          (hwinner ▸ positionOpened_ne_marketDataUpdated winner)] at hone
        exact handleRegionOne_entrySignalled hwinner hone strategy
  dsimp only at h
  split at h
  · rw [commit_actionRequests h] at horder ⊢
    rw [commit_stateAfter h]
    refine .of_running hroot hrunning ?_ hrequests.cancelsPending
    have hbatch := hrequests.batch (.quiet allQuiet_nil) (by simpa using horder)
    simpa using hbatch
  · obtain ⟨final, hfinal, h⟩ := Except.bind_eq_ok_iff.mp h
    split at h
    · cases h
      exact .of_running hroot keepsRunning_self (.quiet allQuiet_nil)
        (cancelsPending_of_not_mem (by simp [noOp]))
    · rw [commit_actionRequests h] at horder ⊢
      rw [commit_stateAfter h]
      obtain ⟨signals, hactions, hrest, hcancels, hrun⟩ :=
        handleSignalRegions_requests hsignals hfinal horder.of_append_left
      rw [hactions, List.append_assoc] at horder ⊢
      refine .of_running hroot (hrunning.trans hrun)
        (hrequests.batch (hrest.append_silent (completionActions_silent _ _)) horder) ?_
      refine hrequests.cancelsPending.append (hcancels.append ?_)
      exact cancelsPending_of_not_mem fun _ _ => (completionActions_silent _ _).allInner.not_mem

/-- A market observation neither releases, cancels nor ends anything. -/
theorem StepBatch.of_observation {after : TradingStateConfiguration}
    {actions : List TradingActionRequest}
    (h : StepBatch state { event with eventType := .marketDataUpdated } context after actions) :
    StepBatch state event context after actions := by
  refine ⟨?_, ?_, ?_, h.starts⟩
  · cases h.requests with
    | quiet h => exact .quiet h
    | inner hfree hbefore hafter => exact .inner hfree hbefore hafter
    | release hrelease =>
        simp [releasesOrder, returnsToWatch, reflectsExit] at hrelease
  · intro id reason hmem
    obtain ⟨hid, hwhy⟩ := h.cancels id reason hmem
    rcases hwhy with ⟨hevent, -⟩ | ⟨strategy, hloses⟩
    · cases hevent
    · have hopened := losesArbitration_eventType hloses
      exact absurd hopened.symm (positionOpened_ne_marketDataUpdated _)
  · intro hroot
    rcases h.ends hroot with hend | hend
    · exact .inl hend
    · cases hend with
      | stop hevent => cases hevent
      | forceSell hevent => cases hevent

/-- What every microstep asks for, and where it goes. -/
theorem handle_batch {result : TradingSTMResult} (h : handle state event context = .ok result) :
    StepBatch state event context result.stateAfter result.actionRequests := by
  obtain ⟨global, hglobal, h⟩ := Except.bind_eq_ok_iff.mp h
  cases global with
  | some outcome =>
      dsimp only at h
      rw [commit_actionRequests h, commit_stateAfter h]
      exact handleGlobalTransition_batch hglobal
  | none =>
      dsimp only at h
      split at h
      · rename_i hroot
        cases h
        refine ⟨.quiet allQuiet_nil, cancelsPending_of_not_mem (by simp [noOp]), .inl, fun h => ?_⟩
        exact ⟨h, rfl⟩
      · rename_i hroot
        rw [not_not] at hroot
        have hbatch := handleRegions_batch hroot h
        split at hbatch
        · exact hbatch.of_observation
        · exact hbatch

/-! ## The releases -/

/-- The rows that release the order fields: O-03 and O-07 on a feedback, PB-23F and PC-23F. -/
inductive ReleaseRow (state : TradingStateConfiguration) (event : TradingEvent)
    (context : TradingContextView) : Prop
  | feedback (hstate : state.ownershipState = some .noPosition)
      (hevent : event.eventType = .buyRiskBlocked ∨ event.eventType = .orderPreparationExpired)
      (hoffered : (handlePreparationFeedback state event context).isSome = true)
  | caseB {substate : CaseBPositionState} (hevent : event.eventType = .caseBSellFilled)
      (hstate : state.caseBPositionState = some substate)
      (hoffered : (handleCaseBSellFilled state substate context).isSome = true)
  | caseC {substate : CaseCPositionState} (hevent : event.eventType = .caseCSellFilled)
      (hstate : state.caseCPositionState = some substate)
      (hoffered : (handleCaseCSellFilled state substate context).isSome = true)

theorem releaseRow_of_returnsToWatch (h : returnsToWatch state event = true) :
    ReleaseRow state event context := by
  simp only [returnsToWatch, Bool.and_eq_true, Bool.or_eq_true, beq_iff_eq] at h
  obtain ⟨⟨hstate, hevent⟩, hwatch⟩ := h
  refine .feedback hstate hevent ?_
  unfold handlePreparationFeedback
  dsimp only
  split at hwatch <;> rename_i hstrategy
  · simp only [Bool.or_eq_true, beq_iff_eq] at hwatch
    simp only [hstrategy, if_pos hwatch, Option.isSome_some]
  · simp only [Bool.or_eq_true, beq_iff_eq] at hwatch
    simp only [hstrategy, if_pos hwatch, Option.isSome_some]
  · cases hwatch

theorem releaseRow_of_reflectsExit (h : reflectsExit state event context = true) :
    ReleaseRow state event context := by
  simp only [reflectsExit, Bool.and_eq_true, Option.isNone_iff_eq_none] at h
  obtain ⟨⟨howner, hreason⟩, hfill⟩ := h
  split at hfill
  · rename_i hevent
    simp only [Bool.and_eq_true, Bool.or_eq_true, beq_iff_eq] at hfill
    obtain ⟨hstate | hstate, hsame⟩ := hfill
    all_goals
      refine .caseB hevent hstate ?_
      simp [handleCaseBSellFilled, howner, hreason, hsame]
  · rename_i hevent
    simp only [Bool.and_eq_true, Bool.or_eq_true, beq_iff_eq] at hfill
    obtain ⟨hstate | hstate, hsame⟩ := hfill
    all_goals
      refine .caseC hevent hstate ?_
      simp [handleCaseCSellFilled, howner, hreason, hsame]
  · cases hfill

theorem releaseRow_of_releasesOrder (h : releasesOrder state event context = true) :
    ReleaseRow state event context :=
  (Bool.or_eq_true_iff.mp h).elim releaseRow_of_returnsToWatch releaseRow_of_reflectsExit

namespace ReleaseRow

theorem rootState (h : ReleaseRow state event context) : state.rootState = .tradeManagement := by
  cases h with
  | feedback hstate => cases state <;> first | rfl | cases hstate
  | caseB _ hstate => cases state <;> first | rfl | cases hstate
  | caseC _ hstate => cases state <;> first | rfl | cases hstate

theorem eventType (h : ReleaseRow state event context) :
    event.eventType = .buyRiskBlocked ∨ event.eventType = .orderPreparationExpired ∨
      event.eventType = .caseBSellFilled ∨ event.eventType = .caseCSellFilled := by
  cases h with
  | feedback _ hevent => exact hevent.imp_right .inl
  | caseB hevent => exact .inr (.inr (.inl hevent))
  | caseC hevent => exact .inr (.inr (.inr hevent))

/-- No global row takes the event. -/
theorem handleGlobalTransition_eq (h : ReleaseRow state event context) :
    handleGlobalTransition state event context = .ok none := by
  have hroot := h.rootState
  unfold handleGlobalTransition handleBandTouch isUpperTouch isLowerTouch isMarketObservation
    handleSessionTransition
  rcases h.eventType with hevent | hevent | hevent | hevent
  all_goals
    simp [hevent, hroot]

/-- A row of region one whose first request releases the order fields. -/
def ReleasesFirst (outcome : TransitionOutcome) : Prop :=
  outcome.transitionIds ≠ [] ∧
    ∃ changes rest, outcome.actionRequests = .patchRuntimeContext changes :: rest ∧
      Releases changes

theorem releasesFirst_of_feedback
    (h : handlePreparationFeedback state event context = some outcome) :
    ReleasesFirst outcome := by
  unfold handlePreparationFeedback at h
  dsimp only at h
  split at h
  · split at h
    · cases h
      exact ⟨List.cons_ne_nil _ _, _, _, rfl, releases_feedback⟩
    · cases h
  · split at h
    · cases h
      exact ⟨List.cons_ne_nil _ _, _, _, rfl, releases_feedback⟩
    · cases h
  · cases h

theorem releasesFirst_of_caseBFill {substate : CaseBPositionState}
    (h : handleCaseBSellFilled state substate context = some outcome) : ReleasesFirst outcome := by
  unfold handleCaseBSellFilled at h
  split at h
  · cases h
    exact ⟨List.cons_ne_nil _ _, _, _, rfl, releases_clearExit⟩
  · cases h

theorem releasesFirst_of_caseCFill {substate : CaseCPositionState}
    (h : handleCaseCSellFilled state substate context = some outcome) : ReleasesFirst outcome := by
  unfold handleCaseCSellFilled at h
  split at h
  · cases h
    exact ⟨List.cons_ne_nil _ _, _, _, rfl, releases_clearExit⟩
  · cases h

/-- Region one takes the event, and releases the order fields first. -/
theorem handleRegionOne_eq (h : ReleaseRow state event context) :
    ∃ outcome, handleRegionOne state event context = .ok (some outcome) ∧
      ReleasesFirst outcome := by
  cases h with
  | feedback hstate hevent hoffered =>
      obtain ⟨outcome, houtcome⟩ := Option.isSome_iff_exists.mp hoffered
      refine ⟨outcome, ?_, releasesFirst_of_feedback houtcome⟩
      have hown : handleOwnershipTransition state event context = some outcome := by
        unfold handleOwnershipTransition
        rw [if_neg (not_not.mpr hstate)]
        rcases hevent with hevent | hevent
        all_goals
          rw [hevent]
          exact houtcome
      cases state with
      | tradeManagement ownership _ _ =>
          cases ownership with
          | noPosition => exact congrArg Except.ok hown
          | _ => cases hstate
      | _ => cases hstate
  | caseB hevent hstate hoffered =>
      obtain ⟨outcome, houtcome⟩ := Option.isSome_iff_exists.mp hoffered
      refine ⟨outcome, ?_, releasesFirst_of_caseBFill houtcome⟩
      unfold handleRegionOne handleCaseBPositionTransition
      simp only [hstate, Option.isSome_some, if_true, if_pos hevent, houtcome]
  | caseC hevent hstate hoffered =>
      obtain ⟨outcome, houtcome⟩ := Option.isSome_iff_exists.mp hoffered
      refine ⟨outcome, ?_, releasesFirst_of_caseCFill houtcome⟩
      have hother : state.caseBPositionState = none := by
        cases state with
        | tradeManagement ownership _ _ =>
            cases ownership with
            | caseC _ => rfl
            | _ => cases hstate
        | _ => cases hstate
      unfold handleRegionOne handleCaseCPositionTransition
      simp only [hother, hstate, Option.isSome_none, Option.isSome_some, Bool.false_eq_true,
        if_false, if_true, if_pos hevent, houtcome]

end ReleaseRow

/-- A region only adds to a selection. -/
theorem accept_extends (selection : Selection) (outcome : Option TransitionOutcome) :
    (∃ ids, (selection.accept outcome).transitionIds = selection.transitionIds ++ ids) ∧
      ∃ actions, (selection.accept outcome).actions = selection.actions ++ actions := by
  cases outcome with
  | none => exact ⟨⟨[], (List.append_nil _).symm⟩, [], (List.append_nil _).symm⟩
  | some outcome => exact ⟨⟨_, rfl⟩, _, rfl⟩

theorem handleSignalRegions_extends {selection final : Selection}
    (h : handleSignalRegions selection event context = .ok final) :
    (∃ ids, final.transitionIds = selection.transitionIds ++ ids) ∧
      ∃ actions, final.actions = selection.actions ++ actions := by
  obtain ⟨caseC, -, h⟩ := Except.bind_eq_ok_iff.mp h
  rw [← Except.pure_eq_ok_iff.mp h]
  obtain ⟨⟨idsC, hidsC⟩, actionsC, hactionsC⟩ := accept_extends selection caseC
  generalize (Option.filter _ _ : Option TransitionOutcome) = caseB
  obtain ⟨⟨idsB, hidsB⟩, actionsB, hactionsB⟩ := accept_extends (selection.accept caseC) caseB
  exact ⟨⟨idsC ++ idsB, by rw [hidsB, hidsC, List.append_assoc]⟩,
    actionsC ++ actionsB, by rw [hactionsB, hactionsC, List.append_assoc]⟩

/-- A step that releases the order fields asks for that first. -/
theorem handle_releases {result : TradingSTMResult} (h : handle state event context = .ok result)
    (hrelease : releasesOrder state event context = true) :
    ∃ changes rest, result.actionRequests = .patchRuntimeContext changes :: rest ∧
      Releases changes := by
  have hrow := releaseRow_of_releasesOrder hrelease
  obtain ⟨outcome, hone, hids, changes, rest, hactions, hchanges⟩ := hrow.handleRegionOne_eq
  have hobserved : event.eventType ≠ .new30mLowerBandTouched := by
    rcases hrow.eventType with hevent | hevent | hevent | hevent <;> simp [hevent]
  have hmarket : event.eventType ≠ .marketDataUpdated := by
    rcases hrow.eventType with hevent | hevent | hevent | hevent <;> simp [hevent]
  unfold handle at h
  rw [hrow.handleGlobalTransition_eq, Except.ok_bind] at h
  dsimp only at h
  rw [if_neg hobserved, if_neg (not_not.mpr hrow.rootState)] at h
  unfold handleRegions at h
  rw [resolveRegionOneEvent_of_ne hmarket, hone, Except.ok_bind] at h
  dsimp only at h
  split at h
  · rw [commit_actionRequests h]
    exact ⟨changes, rest, hactions, hchanges⟩
  · obtain ⟨final, hfinal, h⟩ := Except.bind_eq_ok_iff.mp h
    obtain ⟨⟨ids, hfinalIds⟩, signals, hfinalActions⟩ := handleSignalRegions_extends hfinal
    have hsome : final.transitionIds ≠ [] := by
      rw [hfinalIds]
      exact List.append_ne_nil_of_left_ne_nil hids _
    rw [if_neg (by simpa using hsome)] at h
    rw [commit_actionRequests h]
    refine ⟨changes, rest ++ signals ++ completionActions state final.state context, ?_, hchanges⟩
    rw [hfinalActions]
    show [] ++ outcome.actionRequests ++ signals ++ _ = _
    rw [hactions, List.nil_append, List.cons_append, List.cons_append]

end Trading
