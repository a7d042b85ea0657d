import AutoTrader.Trading.Session.CommandReceipts

/-!
# A failed start is no start

`start_trading` writes the context and every session-owned field before its first microstep,
and restores them from copies when an exception comes out of any step in between.

* `Kept` — what the guarded part never writes: the readiness and the selection.
* `openSession_kept` — the first microstep only makes requests that the context serves.
* `startSession_error` — a start that raised left the session as it was, or rolled it back.
* `openSession_succeeds` — with a new state machine and no exception the guarded part returns.
* `session_commands_law` — commands take effect at most once, and a failed start not at all.
-/

namespace Trading.Commands

open Receipts Stateful

variable {types : SessionTypes} {env : CallEnvironment types}
  {session next : CommandSession types}

/-! ## The first microstep -/

/-- The requests of G-01. -/
def startRequests : List TradingActionRequest :=
  [.resetCaseBContext false, .resetCaseCContext false false, clearAllPatch .idle]

/-- The result of G-01. -/
def startResult (event : TradingEvent) (context : TradingContextView) : TradingSTMResult where
  decisionId := createDecisionId event context ["G-01"]
  consumed := true
  transitionIds := ["G-01"]
  stateBefore := .notStarted
  stateAfter := .lowerTouchWatch
  actionRequests := startRequests
  contextVersion := context.version

/-- The event of `run`. -/
def logicStarted (context : TradingContextView) : TradingEvent where
  eventType := .logicStarted
  occurredAt := context.evaluatedAt
  sequenceNumber := 0
  priority := .internal
  eventId := some "logic-started"

theorem handle_logicStarted (context : TradingContextView) :
    handle .notStarted (logicStarted context) context =
      .ok (startResult (logicStarted context) context) := by
  have hglobal : handleGlobalTransition .notStarted (logicStarted context) context =
      .ok (some (createTransitionOutcome "G-01" .lowerTouchWatch startRequests [] true)) := by
    simp [handleGlobalTransition, handleBandTouch, isUpperTouch, isLowerTouch, logicStarted,
      isMarketObservation, handleSessionTransition, TradingStateConfiguration.rootState,
      startRequests]
  unfold handle
  rw [hglobal]
  rfl

/-- A machine that runs for the first time makes G-01. -/
theorem run_eq_ok {stm after : TradingSTM} {context : TradingContextView}
    {result : TradingSTMResult} (h : stm.run context = .ok (after, result)) :
    result = startResult (logicStarted context) context := by
  unfold TradingSTM.run at h
  obtain ⟨hstate, h⟩ := Except.require_bind_eq_ok_iff.mp h
  obtain ⟨regimeType, state⟩ := stm
  cases state with
  | notStarted =>
      obtain ⟨handled, hhandle, h⟩ := Except.bind_eq_ok_iff.mp h
      obtain rfl := Except.ok.inj (hhandle.symm.trans (handle_logicStarted context))
      cases h
      rfl
  | _ => exact absurd hstate (by simp [TradingStateConfiguration.rootState])

/-! ## What the guarded part keeps -/

/-- What a start never writes. -/
def Kept (session next : CommandSession types) : Prop :=
  next.readiness = session.readiness ∧ next.selectedRegime = session.selectedRegime

theorem Kept.refl (session : CommandSession types) : Kept session session := ⟨rfl, rfl⟩

theorem Kept.trans {a b c : CommandSession types} (hab : Kept a b) (hbc : Kept b c) : Kept a c :=
  ⟨hbc.1.trans hab.1, hbc.2.trans hab.2⟩

/-- Every run of the computation keeps what a start never writes. -/
abbrev Keeps {α : Type} (x : SessionM types α) : Prop := Relates Kept x

theorem Keeps.bind {α β : Type} {x : SessionM types α} {f : α → SessionM types β} (hx : Keeps x)
    (hf : ∀ a, Keeps (f a)) : Keeps (x >>= f) :=
  Relates.bind (fun hab hbc => hab.trans hbc) hx hf

theorem keeps_modify {f : CommandSession types → CommandSession types}
    (hf : ∀ session, Kept session (f session)) :
    Keeps (modify f : SessionM types PUnit) := hf

theorem keeps_modify_bind {β : Type} {f : CommandSession types → CommandSession types}
    {rest : PUnit → SessionM types β} (hf : ∀ session, Kept session (f session))
    (hrest : ∀ u, Keeps (rest u)) : Keeps (modify f >>= rest) :=
  Keeps.bind (keeps_modify hf) hrest

theorem keeps_get : Keeps (get : SessionM types (CommandSession types)) := Kept.refl

theorem keeps_pure {α : Type} (a : α) : Keeps (pure a : SessionM types α) := Kept.refl

theorem keeps_domain {α : Type} (x : Except TradingError α) :
    Keeps (domain x : SessionM types α) := by
  intro session
  cases x <;> exact Kept.refl session

theorem keeps_domain_bind {α β : Type} {x : Except TradingError α} {f : α → SessionM types β}
    (hf : ∀ a, x = .ok a → Keeps (f a)) : Keeps (domain x >>= f) := by
  intro session
  rw [bind_run]
  rcases domain_cases x session with ⟨a, hx, hrun⟩ | ⟨e, -, hrun⟩
  · rw [hrun]
    exact hf a hx session
  · rw [hrun]
    exact Kept.refl session

theorem keeps_check (condition : Prop) [Decidable condition] (error : CommandError) :
    Keeps (check condition error : SessionM types Unit) := by
  intro session
  rw [check_run]
  split <;> exact Kept.refl session

/-- The requests that the context serves. -/
def ServedByContext (action : TradingActionRequest) : Prop :=
  match action with
  | .patchRuntimeContext _ | .openLowerEvent _ | .closeLowerEvent _ | .resetCaseBContext _
  | .resetCaseCContext _ _ => True
  | _ => False

theorem keeps_performAction (env : CallEnvironment types) {action : TradingActionRequest}
    (h : ServedByContext action) : Keeps (performAction env action) := by
  cases action with
  | patchRuntimeContext changes =>
      refine keeps_get.bind fun _ => (keeps_domain _).bind fun _ => ?_
      exact keeps_modify_bind (fun _ => ⟨rfl, rfl⟩) fun _ => keeps_pure _
  | openLowerEvent | closeLowerEvent | resetCaseBContext | resetCaseCContext =>
      refine keeps_modify_bind (fun _ => ⟨rfl, rfl⟩) fun _ => ?_
      exact keeps_modify_bind (fun _ => ⟨rfl, rfl⟩) fun _ => keeps_pure _
  | _ => cases h

/-- A step before an empty answer leaves the answer empty. -/
theorem eq_nil_of_ok {x : SessionM types PUnit} {events : List TradingEvent}
    (hrun : (x >>= fun _ => pure []) session = .ok events next) : events = [] := by
  obtain ⟨_, _, -, hrest⟩ := bind_eq_ok_iff.mp hrun
  cases hrest
  rfl

/-- They return no event. -/
theorem performAction_events {action : TradingActionRequest} (h : ServedByContext action)
    {events : List TradingEvent} (hrun : performAction env action session = .ok events next) :
    events = [] := by
  cases action with
  | patchRuntimeContext changes =>
      obtain ⟨_, _, -, hrun⟩ := bind_eq_ok_iff.mp hrun
      obtain ⟨_, _, -, hrun⟩ := bind_eq_ok_iff.mp hrun
      exact eq_nil_of_ok hrun
  | openLowerEvent | closeLowerEvent | resetCaseBContext | resetCaseCContext =>
      obtain ⟨_, _, -, hrun⟩ := bind_eq_ok_iff.mp hrun
      exact eq_nil_of_ok hrun
  | _ => cases h

theorem keeps_performActions (env : CallEnvironment types) {actions : List TradingActionRequest}
    (h : ∀ action ∈ actions, ServedByContext action) : Keeps (performActions env actions) := by
  induction actions with
  | nil => exact keeps_pure _
  | cons action actions ih =>
      refine (keeps_performAction env (h action (by simp))).bind fun _ => ?_
      exact (ih fun a ha => h a (List.mem_cons_of_mem _ ha)).bind fun _ => keeps_pure _

theorem performActions_events {actions : List TradingActionRequest}
    (h : ∀ action ∈ actions, ServedByContext action) {session next : CommandSession types}
    {events : List TradingEvent} (hrun : performActions env actions session = .ok events next) :
    events = [] := by
  induction actions generalizing session events with
  | nil => cases hrun; rfl
  | cons action actions ih =>
      obtain ⟨first, middle, hfirst, hrun⟩ := bind_eq_ok_iff.mp hrun
      obtain ⟨rest, last, hrest, hrun⟩ := bind_eq_ok_iff.mp hrun
      cases hrun
      rw [performAction_events (h action (by simp)) hfirst,
        ih (fun a ha => h a (List.mem_cons_of_mem _ ha)) hrest]
      rfl

theorem startRequests_served : ∀ action ∈ startRequests, ServedByContext action := by
  simp [startRequests, ServedByContext, clearAllPatch, patch]

/-- Applying G-01 keeps what a start never writes: nothing else is executed or queued. -/
theorem keeps_applyStmResult (env : CallEnvironment types) (event : TradingEvent)
    (context : TradingContextView) :
    Keeps (applyStmResult env (startResult event context)) := by
  unfold applyStmResult
  refine keeps_get.bind fun _ => (keeps_check _ _).bind fun _ => ?_
  intro session
  have hkept := keeps_performActions env startRequests_served session
  rw [bind_run]
  cases hrun : performActions env (startResult event context).actionRequests session with
  | error e after =>
      rw [show performActions env startRequests session = _ from hrun] at hkept
      exact hkept
  | ok events after =>
      rw [show performActions env startRequests session = _ from hrun] at hkept
      obtain rfl := performActions_events startRequests_served hrun
      exact hkept.trans ((keeps_pure PUnit.unit).bind (fun _ => keeps_domain _) after)

/-- The guarded part keeps what a start never writes. -/
theorem openSession_kept (env : CallEnvironment types) (selectedRegime : RegimeType)
    (selectedStm : TradingSTM) : Keeps (openSession env selectedRegime selectedStm) := by
  unfold openSession
  refine keeps_get.bind fun _ => (keeps_domain _).bind fun _ => ?_
  refine keeps_modify_bind (fun _ => ⟨rfl, rfl⟩) fun _ => (keeps_domain _).bind fun _ => ?_
  refine keeps_modify_bind (fun _ => ⟨rfl, rfl⟩) fun _ => (keeps_domain _).bind fun _ => ?_
  refine keeps_modify_bind (fun _ => ⟨rfl, rfl⟩) fun _ => (keeps_domain _).bind fun _ => ?_
  refine keeps_modify_bind (fun _ => ⟨rfl, rfl⟩) fun _ => (keeps_domain _).bind fun _ => ?_
  refine keeps_modify_bind (fun _ => ⟨rfl, rfl⟩) fun _ => (keeps_domain _).bind fun _ => ?_
  refine keeps_modify_bind (fun _ => ⟨rfl, rfl⟩) fun _ => (keeps_domain _).bind fun _ => ?_
  refine keeps_modify_bind (fun _ => ⟨rfl, rfl⟩) fun _ => (keeps_domain _).bind fun _ => ?_
  refine keeps_get.bind fun _ => keeps_domain_bind fun ⟨stm, result⟩ hrun => ?_
  obtain rfl := run_eq_ok hrun
  refine keeps_modify_bind (fun _ => ⟨rfl, rfl⟩) fun _ => ?_
  exact (keeps_applyStmResult env _ _).bind fun _ => keeps_pure _

/-! ## The handler -/

/-- The session that the handler leaves of one in which an exception came. -/
def CommandSession.rolledBack (previous session : CommandSession types) (stm : TradingSTM) :
    CommandSession types :=
  { session with
    context := previous.context
    sessionId := previous.sessionId
    activeStm := previous.activeStm
    selectedStm := some stm
    eventQueue := previous.eventQueue
    eventProcessor := previous.eventProcessor
    scheduler := []
    actionTrace := previous.actionTrace
    externalActions := previous.externalActions
    cleanupFailures := previous.cleanupFailures
    cleanupInProgress := previous.cleanupInProgress
    orderStatesByClientId := previous.orderStatesByClientId
    orderStatesByOrderId := previous.orderStatesByOrderId
    scheduledOrderQueries := previous.scheduledOrderQueries
    submissionAttemptsByIntent := previous.submissionAttemptsByIntent
    quantityOverridesByIntent := previous.quantityOverridesByIntent
    forceSellIntentId := previous.forceSellIntentId
    forceSellRetryDueAt := previous.forceSellRetryDueAt
    orderTrace := previous.orderTrace
    publicMarketBoundaryTrace := previous.publicMarketBoundaryTrace
    recoveredPositionLiquidationSession := previous.recoveredPositionLiquidationSession
    sessionRiskPolicyVersion := previous.sessionRiskPolicyVersion
    lastRiskDecision := previous.lastRiskDecision
    latestMarketEvaluationVersion := previous.latestMarketEvaluationVersion
    status := previous.status }

theorem getStmInstance_of_supported {regimeType : RegimeType}
    (h : supportStatus regimeType = .supported) :
    TradingSTM.getStmInstance regimeType = .ok ⟨regimeType, .notStarted⟩ := by
  unfold TradingSTM.getStmInstance Except.require
  rw [if_pos h]
  rfl

/-- Of a supported REGIME the handler restores everything. -/
theorem restoreSession_run {selectedRegime : RegimeType}
    (h : supportStatus selectedRegime = .supported) (previous session : CommandSession types) :
    restoreSession previous selectedRegime session =
      .ok ⟨⟩ (previous.rolledBack session ⟨selectedRegime, .notStarted⟩) := by
  unfold restoreSession
  rw [bind_run, modify_run]
  dsimp only
  rw [bind_run, getStmInstance_of_supported h]
  rfl

/-- The published parts of the session are those before. -/
structure SameSession (before after : CommandSession types) : Prop where
  context : after.context = before.context
  sessionId : after.sessionId = before.sessionId
  status : after.status = before.status
  activeStm : after.activeStm = before.activeStm
  eventQueue : after.eventQueue = before.eventQueue
  eventProcessor : after.eventProcessor = before.eventProcessor
  orderStatesByClientId : after.orderStatesByClientId = before.orderStatesByClientId
  orderStatesByOrderId : after.orderStatesByOrderId = before.orderStatesByOrderId
  scheduledOrderQueries : after.scheduledOrderQueries = before.scheduledOrderQueries
  submissionAttempts : after.submissionAttemptsByIntent = before.submissionAttemptsByIntent
  quantityOverrides : after.quantityOverridesByIntent = before.quantityOverridesByIntent
  forceSellIntentId : after.forceSellIntentId = before.forceSellIntentId
  forceSellRetryDueAt : after.forceSellRetryDueAt = before.forceSellRetryDueAt
  sessionRiskPolicyVersion : after.sessionRiskPolicyVersion = before.sessionRiskPolicyVersion
  lastRiskDecision : after.lastRiskDecision = before.lastRiskDecision

theorem SameSession.refl (session : CommandSession types) : SameSession session session := by
  constructor <;> rfl

theorem sameSession_rolledBack (previous session : CommandSession types) (stm : TradingSTM) :
    SameSession previous (previous.rolledBack session stm) := by
  constructor <;> rfl

/-! ## A start that raised -/

/-- The checks of a start before it writes anything. -/
structure ReadyToStart (env : CallEnvironment types) (expectedVersion : ℤ)
    (session : CommandSession types) : Prop where
  nonneg : 0 ≤ expectedVersion
  version : expectedVersion = session.context.version
  shutdown : session.readiness.shutdownOwnedElsewhere = false
  prerequisites : validateStartPrerequisites env session = .ok ()

/-- The prerequisites provide a supported REGIME. -/
theorem validateStartPrerequisites_regime
    (h : validateStartPrerequisites env session = .ok ()) :
    ∃ regime, session.selectedRegime = some regime ∧ supportStatus regime = .supported := by
  unfold validateStartPrerequisites at h
  iterate 8 obtain ⟨-, h⟩ := Except.require_bind_eq_ok_iff.mp h
  obtain ⟨hsome, h⟩ := Except.require_bind_eq_ok_iff.mp h
  obtain ⟨hsupported, -⟩ := Except.require_bind_eq_ok_iff.mp h
  obtain ⟨regime, hregime⟩ := Option.isSome_iff_exists.mp hsome
  exact ⟨regime, hregime, hsupported regime hregime⟩

/-- The guarded part raised: the session was rolled back. -/
theorem beginSession_error {regime : RegimeType} {e : CommandError}
    (hregime : session.selectedRegime = some regime)
    (hsupported : supportStatus regime = .supported)
    (h : beginSession env session = .error e next) :
    SameSession session next ∧ Kept session next ∧
      next.selectedStm = some ⟨regime, .notStarted⟩ := by
  unfold beginSession at h
  rw [bind_run, get_run] at h
  dsimp only at h
  rw [hregime] at h
  dsimp only at h
  obtain ⟨stm, hstm⟩ : ∃ stm, selectedOrFresh session regime = .ok stm := by
    unfold selectedOrFresh
    cases session.selectedStm with
    | some stm => exact ⟨stm, rfl⟩
    | none => exact ⟨_, getStmInstance_of_supported hsupported⟩
  rw [bind_run, hstm, domain_ok] at h
  dsimp only at h
  rw [tryCatch_run] at h
  have hkept := openSession_kept env regime stm session
  cases hopen : openSession env regime stm session with
  | ok result after =>
      rw [hopen] at h
      cases h
  | error raised after =>
      rw [hopen] at h hkept
      dsimp only at h
      rw [bind_run, restoreSession_run hsupported] at h
      cases h
      exact ⟨sameSession_rolledBack session after _, hkept, rfl⟩

theorem requireExpectedVersion_run (expectedVersion : ℤ) (session : CommandSession types) :
    (requireExpectedVersion expectedVersion session = .ok ⟨⟩ session ∧ 0 ≤ expectedVersion ∧
      expectedVersion = session.context.version ∧
      session.readiness.shutdownOwnedElsewhere = false) ∨
    (∃ e, requireExpectedVersion expectedVersion session = .error e session) ∧
      ¬(0 ≤ expectedVersion ∧ expectedVersion = session.context.version ∧
        session.readiness.shutdownOwnedElsewhere = false) := by
  unfold requireExpectedVersion
  rw [bind_run, validateExpectedVersionValue, Except.require]
  by_cases hnonneg : 0 ≤ expectedVersion
  · rw [if_pos hnonneg, domain_ok]
    simp only [bind_run, get_run, check_run]
    by_cases hshutdown : session.readiness.shutdownOwnedElsewhere = false
    · rw [if_pos hshutdown]
      dsimp only
      by_cases hversion : expectedVersion = session.context.version
      · rw [if_pos hversion]
        exact .inl ⟨rfl, hnonneg, hversion, hshutdown⟩
      · rw [if_neg hversion]
        exact .inr ⟨⟨_, rfl⟩, fun h => hversion h.2.1⟩
    · rw [if_neg hshutdown]
      exact .inr ⟨⟨_, rfl⟩, fun h => hshutdown h.2.2⟩
  · rw [if_neg hnonneg, domain_error]
    exact .inr ⟨⟨_, rfl⟩, fun h => hnonneg h.1⟩

/-- A start that raised left the session as it was when a check failed, and rolled it back
otherwise. -/
theorem startSession_error {expectedVersion : ℤ} {e : CommandError}
    (h : startSession env expectedVersion session = .error e next) :
    SameSession session next ∧ Kept session next ∧
      ((¬ReadyToStart env expectedVersion session ∧ next = session) ∨
        ∃ regime, session.selectedRegime = some regime ∧
          next.selectedStm = some ⟨regime, .notStarted⟩) := by
  unfold startSession at h
  rw [bind_run] at h
  rcases requireExpectedVersion_run expectedVersion session with
    ⟨hversion, hnonneg, heq, hshutdown⟩ | ⟨⟨raised, hversion⟩, hfail⟩
  case inr =>
    rw [hversion] at h
    cases h
    exact ⟨.refl session, .refl session,
      .inl ⟨fun hready => hfail ⟨hready.nonneg, hready.version, hready.shutdown⟩, rfl⟩⟩
  rw [hversion] at h
  dsimp only at h
  rw [bind_run, get_run] at h
  dsimp only at h
  rw [bind_run] at h
  cases hprerequisites : validateStartPrerequisites env session with
  | error raised =>
      rw [hprerequisites] at h
      cases h
      refine ⟨.refl session, .refl session, .inl ⟨fun hready => ?_, rfl⟩⟩
      rw [hready.prerequisites] at hprerequisites
      cases hprerequisites
  | ok u =>
      obtain ⟨regime, hregime, hsupported⟩ := validateStartPrerequisites_regime hprerequisites
      rw [hprerequisites, raising_ok] at h
      dsimp only at h
      rw [bind_run] at h
      cases hbegin : beginSession env session with
      | error raised after =>
          rw [hbegin] at h
          cases h
          obtain ⟨hsame, hkept, hstm⟩ := beginSession_error hregime hsupported hbegin
          exact ⟨hsame, hkept, .inr ⟨regime, hregime, hstm⟩⟩
      | ok result after =>
          rw [hbegin] at h
          cases h

/-! ## A start that returns -/

/-- The patch of G-01 is accepted when no order is pending. -/
theorem applyRuntimePatch_start (context : TradingContext) (h : context.pendingOrder = none) :
    ∃ after, context.applyRuntimePatch [⟨.positionOwner, none⟩, ⟨.pendingStrategy, none⟩,
      ⟨.pendingOrderSide, none⟩, ⟨.pendingOrderId, none⟩, ⟨.pendingOrderAttemptKind, none⟩,
      ⟨.pendingIntentId, none⟩, ⟨.pendingExitReason, none⟩, ⟨.pendingExitPctB, none⟩,
      ⟨.pendingReturnState, none⟩, ⟨.tradingPhase, TradingPhase.idle⟩] = .ok after := by
  obtain ⟨runtime, hruntime⟩ : ∃ runtime, context.patchedRuntime [⟨.positionOwner, none⟩,
      ⟨.pendingStrategy, none⟩, ⟨.pendingOrderSide, none⟩, ⟨.pendingOrderId, none⟩,
      ⟨.pendingOrderAttemptKind, none⟩, ⟨.pendingIntentId, none⟩, ⟨.pendingExitReason, none⟩,
      ⟨.pendingExitPctB, none⟩, ⟨.pendingReturnState, none⟩,
      ⟨.tradingPhase, TradingPhase.idle⟩] = .ok runtime := by
    unfold TradingContext.patchedRuntime Except.require
    rw [if_pos (by decide), Except.ok_bind]
    unfold RuntimeFields.validate
    rw [dif_pos (by simp [applyChanges, RuntimeField.set]),
      dif_pos (by simp [applyChanges, RuntimeField.set]),
      dif_pos (by simp [applyChanges, RuntimeField.set])]
    exact ⟨_, rfl⟩
  unfold TradingContext.applyRuntimePatch
  rw [hruntime, Except.ok_bind]
  split
  · exact ⟨_, rfl⟩
  · rename_i e he
    have hok : validatePendingAlignment runtime.toRuntimeFields context.pendingOrder = .ok () :=
      validatePendingAlignment_eq_ok_iff.mpr (by rw [h]; simp [PendingAligned])
    rw [hok] at he
    cases he

theorem performActions_start (env : CallEnvironment types) (session : CommandSession types)
    (h : session.context.pendingOrder = none) :
    ∃ after, performActions env startRequests session = .ok [] after := by
  obtain ⟨patched, hpatched⟩ := applyRuntimePatch_start
    ((session.context.toTradingContext.resetCaseBContext false).resetCaseCContext false false)
    ((TradingContext.replaceRuntime_pendingOrder _).trans
      ((TradingContext.replaceRuntime_pendingOrder _).trans h))
  unfold startRequests clearAllPatch patch
  simp only [performActions, performAction, executeAction, bind_run, modify_run, pure_run, get_run,
    hpatched,
    domain_ok, List.append_nil]
  exact ⟨_, rfl⟩

/-- Applying G-01 returns when no order is pending and nothing raises. -/
theorem applyStmResult_succeeds (env : CallEnvironment types) (session : CommandSession types)
    (event : TradingEvent) (context : TradingContextView)
    (hversion : context.version = session.context.version)
    (hpending : session.context.pendingOrder = none) (hfails : env.fails .observed = .ok ()) :
    ∃ after, applyStmResult env (startResult event context) session = .ok ⟨⟩ after := by
  obtain ⟨after, hafter⟩ := performActions_start env session hpending
  unfold applyStmResult
  simp only [bind_run, get_run, check_run]
  rw [if_pos (show (startResult event context).contextVersion = _ from hversion)]
  dsimp only
  rw [show performActions env (startResult event context).actionRequests session = _ from hafter,
    hfails]
  exact ⟨after, rfl⟩

/-- A step that returns, and then the rest. -/
theorem succeeds_bind {α β : Type} {x : SessionM types α} {f : α → SessionM types β} {a : α}
    (hx : x session = .ok a next) (hf : ∃ b after, f a next = .ok b after) :
    ∃ b after, (x >>= f) session = .ok b after := by
  obtain ⟨b, after, hf⟩ := hf
  exact ⟨b, after, bind_eq_ok_iff.mpr ⟨a, next, hx, hf⟩⟩

/-- With a new state machine and no exception the guarded part returns. -/
theorem openSession_succeeds {regime : RegimeType} {stm : TradingSTM}
    (hstm : stm.state = .notStarted) (hfails : ∀ step, env.fails step = .ok ())
    (hscaleIn : validateSplitRatio session.context.scaleInRatio "scale_in_ratio" = .ok ())
    (hscaleOut : validateSplitRatio session.context.scaleOutRatio "scale_out_ratio" = .ok ()) :
    ∃ result after, openSession env regime stm session = .ok result after := by
  have hrun (context : TradingContextView) : stm.run context =
      .ok ({ stm with state := .lowerTouchWatch }, startResult (logicStarted context) context) := by
    obtain ⟨regimeType, state⟩ := stm
    obtain rfl : state = .notStarted := hstm
    refine Except.bind_eq_ok_iff.mpr ⟨(), Except.require_eq_ok_iff.mpr rfl, ?_⟩
    exact Except.bind_eq_ok_iff.mpr ⟨_, handle_logicStarted context, rfl⟩
  have hpasses (step : StartStep) (s : CommandSession types) :
      domain (env.fails step) s = .ok () s := by rw [hfails]; rfl
  have hcontext : ∃ context, session.context.initializeContext session.account regime
      session.readiness.positionSnapshot session.context.scaleInRatio
      session.context.scaleOutRatio = .ok context ∧ context.pendingOrder = none := by
    unfold SessionContext.initializeContext
    rw [hscaleIn, Except.ok_bind, hscaleOut, Except.ok_bind]
    exact ⟨_, rfl, rfl⟩
  obtain ⟨context, hcontext, hpending⟩ := hcontext
  have htail (s : CommandSession types) (hs : s.context.pendingOrder = none) :
      ∃ b after, (do
        let started ← domain (stm.run (s.context.view env.now))
        modify fun session => { session with activeStm := some started.1 }
        applyStmResult env started.2
        return started.2 : SessionM types TradingSTMResult) s = .ok b after := by
    have hdomain : (domain (stm.run (s.context.view env.now)) :
        SessionM types (TradingSTM × TradingSTMResult)) s = .ok
          ({ stm with state := .lowerTouchWatch },
            startResult (logicStarted (s.context.view env.now)) (s.context.view env.now)) s := by
      rw [hrun]
      rfl
    refine succeeds_bind hdomain ?_
    refine succeeds_bind (modify_run _ _) ?_
    obtain ⟨after, hafter⟩ := applyStmResult_succeeds env
      { s with activeStm := some { stm with state := .lowerTouchWatch } }
      (logicStarted (s.context.view env.now)) (s.context.view env.now) rfl hs (hfails .observed)
    exact succeeds_bind hafter ⟨_, _, rfl⟩
  unfold openSession
  refine succeeds_bind (get_run session) ?_
  refine succeeds_bind (by rw [hcontext]; exact domain_ok context session) ?_
  refine succeeds_bind (modify_run _ _) (succeeds_bind (hpasses .contextInitialized _) ?_)
  refine succeeds_bind (modify_run _ _) (succeeds_bind (hpasses .identified _) ?_)
  refine succeeds_bind (modify_run _ _) (succeeds_bind (hpasses .queueCreated _) ?_)
  refine succeeds_bind (modify_run _ _) (succeeds_bind (hpasses .processorCreated _) ?_)
  refine succeeds_bind (modify_run _ _) (succeeds_bind (hpasses .tracesCleared _) ?_)
  refine succeeds_bind (modify_run _ _) (succeeds_bind (hpasses .ordersCleared _) ?_)
  refine succeeds_bind (modify_run _ _) (succeeds_bind (hpasses .riskReset _) ?_)
  exact succeeds_bind (get_run _) (htail _ hpending)

theorem validateStartPrerequisites_congr (hsame : SameSession session next)
    (hkept : Kept session next) :
    validateStartPrerequisites env next = validateStartPrerequisites env session := by
  unfold validateStartPrerequisites CommandSession.isActive
  rw [hsame.status, hsame.context, hkept.1, hkept.2]

/-- A rolled back session is as ready as the one before. -/
theorem ReadyToStart.transfer {expectedVersion : ℤ} (h : ReadyToStart env expectedVersion session)
    (hsame : SameSession session next) (hkept : Kept session next) :
    ReadyToStart env expectedVersion next where
  nonneg := h.nonneg
  version := by rw [hsame.context]; exact h.version
  shutdown := by rw [hkept.1]; exact h.shutdown
  prerequisites := by rw [validateStartPrerequisites_congr hsame hkept]; exact h.prerequisites

/-- A ready session with a new state machine starts when nothing raises. -/
theorem startSession_succeeds {expectedVersion : ℤ} (h : ReadyToStart env expectedVersion session)
    (hfresh : ∀ stm ∈ session.selectedStm, stm.state = .notStarted)
    (hfails : ∀ step, env.fails step = .ok ())
    (hscaleIn : validateSplitRatio session.context.scaleInRatio "scale_in_ratio" = .ok ())
    (hscaleOut : validateSplitRatio session.context.scaleOutRatio "scale_out_ratio" = .ok ()) :
    ∃ result after, startSession env expectedVersion session = .ok result after := by
  obtain ⟨regime, hregime, hsupported⟩ := validateStartPrerequisites_regime h.prerequisites
  obtain ⟨stm, hstm, hstate⟩ : ∃ stm, selectedOrFresh session regime = .ok stm ∧
      stm.state = .notStarted := by
    unfold selectedOrFresh
    cases hselected : session.selectedStm with
    | some stm => exact ⟨stm, rfl, hfresh stm hselected⟩
    | none => exact ⟨_, getStmInstance_of_supported hsupported, rfl⟩
  obtain ⟨result, after, hopen⟩ : ∃ result after, openSession env regime stm session =
      .ok result after := openSession_succeeds hstate hfails hscaleIn hscaleOut
  have hbegin : beginSession env session = .ok result after := by
    unfold beginSession
    rw [bind_run, get_run]
    dsimp only
    rw [hregime]
    dsimp only
    rw [bind_run, hstm, domain_ok]
    dsimp only
    rw [tryCatch_run, hopen]
  have hversion : requireExpectedVersion expectedVersion session = .ok ⟨⟩ session := by
    rcases requireExpectedVersion_run expectedVersion session with ⟨hrun, -⟩ | ⟨-, hfail⟩
    · exact hrun
    · exact absurd ⟨h.nonneg, h.version, h.shutdown⟩ hfail
  unfold startSession
  refine succeeds_bind hversion (succeeds_bind (get_run session) ?_)
  refine succeeds_bind (by rw [h.prerequisites]; exact raising_ok () session) ?_
  exact succeeds_bind hbegin (succeeds_bind (modify_run _ _) ⟨_, _, rfl⟩)

/-! ## The command -/

variable {controller failed : Controller types} {commandId : String} {expectedVersion : ℤ}

/-- A start that can go through: its command ID has no receipt, and its checks pass. -/
structure Startable (env : CallEnvironment types) (commandId : String) (expectedVersion : ℤ)
    (controller : Controller types) : Prop where
  trimmed : isTrimmed commandId = true
  unrecorded : controller.receipts.find (.start, commandId) = none
  ready : ReadyToStart env expectedVersion controller.session
  scaleIn : validateSplitRatio controller.session.context.scaleInRatio "scale_in_ratio" = .ok ()
  scaleOut : validateSplitRatio controller.session.context.scaleOutRatio "scale_out_ratio" = .ok ()

theorem startTrading_of_unrecorded (hversion : 0 ≤ expectedVersion)
    (hid : isTrimmed commandId = true)
    (hfind : controller.receipts.find (.start, commandId) = none) :
    startTrading env commandId expectedVersion controller =
      match startSession env expectedVersion controller.session with
      | .ok result session => .ok result
          { session
            receipts := controller.receipts.record maxCommandRecords (.start, commandId)
              ⟨.version expectedVersion, result⟩ }
      | .error e session => .error e { controller with session } := by
  have haccepted : (SessionCommand.startTrading commandId expectedVersion).Accepted := hversion
  refine Eq.trans (SessionCommand.run_of_accepted haccepted) ?_
  dsimp only [SessionCommand.lookThenPerform, SessionCommand.perform, SessionCommand.key,
    SessionCommand.fingerprint]
  rw [bind_run, readCommandRecord_run (.start, commandId) hid, hfind]
  dsimp only
  rw [bind_run, onSession_run]
  cases startSession env expectedVersion controller.session with
  | error e session => rfl
  | ok result session =>
      dsimp only
      rw [bind_run, storeCommandRecord_run (.start, commandId) hid]
      rfl

/-- A start that raised recorded nothing and left the session as it was, up to a new state
machine in place of the selected one. -/
theorem startTrading_error {e : CommandError}
    (h : startTrading env commandId expectedVersion controller = .error e failed) :
    failed.receipts = controller.receipts ∧ SameSession controller.session failed.session ∧
      Kept controller.session failed.session ∧
      ((¬Startable env commandId expectedVersion controller ∧
          failed.session = controller.session) ∨
        ∃ regime, failed.session.selectedStm = some ⟨regime, .notStarted⟩) := by
  by_cases hlooks : (SessionCommand.startTrading commandId expectedVersion).Accepted ∧
      isTrimmed commandId = true ∧ controller.receipts.find (.start, commandId) = none
  case neg =>
    have hfinal : finalState (startTrading env commandId expectedVersion controller) = controller :=
      SessionCommand.run_unperformed hlooks
    rw [h, finalState_error] at hfinal
    subst hfinal
    refine ⟨rfl, .refl _, .refl _, .inl ⟨fun hstart => hlooks ?_, rfl⟩⟩
    exact ⟨hstart.ready.nonneg, hstart.trimmed, hstart.unrecorded⟩
  case pos =>
    rw [startTrading_of_unrecorded hlooks.1 hlooks.2.1 hlooks.2.2] at h
    cases hsession : startSession env expectedVersion controller.session with
    | ok result session =>
        rw [hsession] at h
        cases h
    | error raised session =>
        rw [hsession] at h
        cases h
        obtain ⟨hsame, hkept, ⟨hready, rfl⟩ | ⟨regime, -, hstm⟩⟩ := startSession_error hsession
        · exact ⟨rfl, hsame, hkept, .inl ⟨fun hstart => hready hstart.ready, rfl⟩⟩
        · exact ⟨rfl, hsame, hkept, .inr ⟨regime, hstm⟩⟩

/-- After a start that raised the same command ID can start: its checks pass as before, and
nothing raises. -/
theorem startTrading_retry {e : CommandError} {retryEnv : CallEnvironment types}
    {retryVersion : ℤ} (h : startTrading env commandId expectedVersion controller = .error e failed)
    (hstart : Startable retryEnv commandId retryVersion controller)
    (hfresh : Startable env commandId expectedVersion controller ∨
      ∀ stm ∈ controller.session.selectedStm, stm.state = .notStarted)
    (hfails : ∀ step, retryEnv.fails step = .ok ()) :
    ∃ result next, startTrading retryEnv commandId retryVersion failed = .ok result next := by
  obtain ⟨hreceipts, hsame, hkept, hselected⟩ := startTrading_error h
  have hready := hstart.ready.transfer hsame hkept
  have hmachine : ∀ stm ∈ failed.session.selectedStm, stm.state = .notStarted := by
    rcases hselected with ⟨hnot, heq⟩ | ⟨regime, hstm⟩
    · rw [heq]
      exact hfresh.resolve_left hnot
    · rw [hstm]
      rintro stm ⟨⟩
      rfl
  obtain ⟨result, session, hsession⟩ := startSession_succeeds hready hmachine hfails
    (by rw [hsame.context]; exact hstart.scaleIn) (by rw [hsame.context]; exact hstart.scaleOut)
  rw [startTrading_of_unrecorded hready.nonneg hstart.trimmed
    (by rw [hreceipts]; exact hstart.unrecorded), hsession]
  exact ⟨result, _, rfl⟩

/-- In every sequence of commands with fewer keys than the limit, a repetition of a command that
returned returns the first result, and its ID with another payload raises, and neither changes
anything.  A start that raises, wherever it does, records nothing and leaves the published
session as it was, and the same command ID can then start. -/
theorem session_commands_law (types : SessionTypes) :
    (∀ (session : CommandSession types) (before after : List (Call types)) (call : Call types)
        (result : CommandResult) (next : Controller types),
      (commandKeys (before ++ call :: after)).toFinset.card < maxCommandRecords →
      call.run (runCommands before ⟨session, {}⟩) = .ok result next →
        (∀ env, call.command.run env (runCommands after next) =
          .ok result (runCommands after next)) ∧
        ∀ (command : SessionCommand) (env : CallEnvironment types),
          command.key = call.command.key → command.fingerprint ≠ call.command.fingerprint →
            ∃ e, command.run env (runCommands after next) = .error e (runCommands after next)) ∧
    ∀ (controller failed : Controller types) (env : CallEnvironment types) (commandId : String)
        (expectedVersion : ℤ) (e : CommandError),
      startTrading env commandId expectedVersion controller = .error e failed →
        SameSession controller.session failed.session ∧
        failed.receipts = controller.receipts ∧
        ∀ (retryEnv : CallEnvironment types) (retryVersion : ℤ),
          Startable retryEnv commandId retryVersion controller →
          (Startable env commandId expectedVersion controller ∨
            ∀ stm ∈ controller.session.selectedStm, stm.state = .notStarted) →
          (∀ step, retryEnv.fails step = .ok ()) →
            ∃ result next,
              startTrading retryEnv commandId retryVersion failed = .ok result next := by
  refine ⟨?_, ?_⟩
  · intro session before after call result next hcard hcall
    have hfind := runCommands_find hcard hcall
    have hanswered := SessionCommand.answered_of_ok hcall
    refine ⟨fun env => ?_, fun command env hkey hpayload => ?_⟩
    · exact SessionCommand.run_of_receipt hanswered.accepted hanswered.trimmed hanswered.kind
        hfind env
    · refine SessionCommand.run_of_other_payload (by rw [hkey]; exact hanswered.trimmed)
        (by rw [hkey]; exact hfind) (Ne.symm hpayload) env
  · intro controller failed env commandId expectedVersion e h
    obtain ⟨hreceipts, hsame, -, -⟩ := startTrading_error h
    refine ⟨hsame, hreceipts, fun retryEnv retryVersion hstart hfresh hfails => ?_⟩
    exact startTrading_retry h hstart hfresh hfails

/-- A new session. -/
def newSession : CommandSession bareTypes where
  account := ()

/-- A call in which nothing raises. -/
def quietEnvironment : CallEnvironment bareTypes where
  newProcessor := fun _ => ()

/-- A call in which the traces cannot be cleared. -/
def failingEnvironment : CallEnvironment bareTypes where
  newProcessor := fun _ => ()
  fails step := if step = .tracesCleared then .error (.runtimeError "trace") else .ok ()

/-- A REGIME was selected. -/
def selectedController : Controller bareTypes :=
  finalState ((SessionCommand.commitRegimeSelection .type0 none "select" 0).run quietEnvironment
    ⟨newSession, {}⟩)

/-- Then a start failed behind its new processor. -/
def abandonedController : Controller bareTypes :=
  runCommands [⟨failingEnvironment, .startTrading "start" 1⟩] selectedController

/-- The selection is answered as before, the session is the one that was selected, and the start
can be repeated. -/
theorem session_commands_law_retried :
    (SessionCommand.commitRegimeSelection .type0 none "select" 0).run quietEnvironment
        abandonedController = .ok (.selection .type0 .supported 1) abandonedController ∧
      SameSession selectedController.session abandonedController.session ∧
      ∃ result next,
        startTrading quietEnvironment "start" 1 abandonedController = .ok result next := by
  obtain ⟨e, hfailed⟩ : ∃ e, startTrading failingEnvironment "start" 1 selectedController =
      .error e abandonedController := by
    have hraises : (match startTrading failingEnvironment "start" 1 selectedController with
        | .ok _ _ => true
        | .error _ _ => false) = false := by decide +kernel
    have hstate : abandonedController =
        finalState (startTrading failingEnvironment "start" 1 selectedController) := rfl
    rw [hstate]
    cases hrun : startTrading failingEnvironment "start" 1 selectedController with
    | ok result next =>
        rw [hrun] at hraises
        cases hraises
    | error e next => exact ⟨e, rfl⟩
  have hready : ∀ env ∈ [quietEnvironment, failingEnvironment],
      Startable env "start" 1 selectedController := by
    intro env henv
    rcases List.mem_pair.mp henv with rfl | rfl <;>
      exact ⟨by decide, rfl, ⟨by decide, rfl, rfl, rfl⟩, by decide +kernel, by decide +kernel⟩
  obtain ⟨hreceipts, hstarts⟩ := session_commands_law bareTypes
  obtain ⟨hanswer, -⟩ := hreceipts newSession [] [⟨failingEnvironment, .startTrading "start" 1⟩]
    ⟨quietEnvironment, .commitRegimeSelection .type0 none "select" 0⟩ _ _ (by decide) rfl
  obtain ⟨hsame, -, hretry⟩ :=
    hstarts selectedController abandonedController failingEnvironment "start" 1 _ hfailed
  exact ⟨hanswer quietEnvironment, hsame, hretry quietEnvironment 1
    (hready _ (by simp)) (.inl (hready _ (by simp))) fun _ => rfl⟩

end Trading.Commands
