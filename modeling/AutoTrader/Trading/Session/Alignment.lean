import AutoTrader.Trading.Session.ActionBatch

/-!
# The machine and its context

The machine commits its state before the batch is executed, so the context has to take
every patch of the batch.

* `Reachable.tracked` — in every run the runtime names an order only while one is pending.
* `executeBatch_of_quiet`, `executeBatch_of_inner` — the batches the context takes.
* `batch_accepted_iff` — in every run the context takes the whole batch exactly when the
  step does not release the order fields of a pending order; `batch_refused` is such a batch.
-/

namespace Trading

open Arithmetic

namespace TradingSession

variable {session next : TradingSession} {environment : BatchEnvironment}

/-! ## The writes of the controller -/

/-- A patch of the controller names no order. -/
theorem controllerPatch_orderId (patch : ControllerPatch) (runtime : RuntimeFields) :
    (applyChanges patch.changes runtime).pendingOrderId = runtime.pendingOrderId := by
  cases patch <;> rfl

/-- The runtime names an order only while one is pending. -/
def TracksOrder (context : TradingContext) : Prop :=
  context.pendingOrder = none → context.runtime.pendingOrderId = none

/-- What a call does to the order: it publishes one, or leaves none, or leaves the pending
order as it is. -/
theorem run_cases (call : ContextCall) {context : TradingContext} (h : TracksOrder context) :
    (call.publishes = true ∧ (call.run context).pendingOrder ≠ none) ∨ Free (call.run context) ∨
      (call.run context).pendingOrder = context.pendingOrder ∧ TracksOrder (call.run context) := by
  cases call with
  | updateMarket market =>
      refine .inr (.inr ⟨by simp [ContextCall.run, ContextCall.call], ?_⟩)
      simpa [TracksOrder, ContextCall.run, ContextCall.call] using h
  | updatePosition position owner =>
      refine .inr (.inr ?_)
      unfold ContextCall.run ContextCall.call
      split
      · rename_i updated hupdated
        obtain ⟨-, hupdated⟩ := Except.require_bind_eq_ok_iff.mp hupdated
        split at hupdated
        · cases hupdated; exact ⟨rfl, h⟩
        · cases hupdated; exact ⟨rfl, h⟩
      · exact ⟨rfl, h⟩
  | publishPendingOrder order =>
      exact .inl ⟨rfl, by simp [ContextCall.run, ContextCall.call]⟩
  | clearPendingOrder preserve =>
      exact .inr (.inl ⟨by simp [ContextCall.run, ContextCall.call],
        by simp [ContextCall.run, ContextCall.call, TradingContext.withoutPendingOrder]⟩)
  | clearPendingIntent =>
      unfold ContextCall.run ContextCall.call TradingContext.clearPendingIntent
      dsimp only
      split
      · exact .inr (.inr ⟨rfl, h⟩)
      · exact .inr (.inl ⟨rfl, rfl⟩)
  | applyRuntimePatch patch =>
      refine .inr (.inr ?_)
      unfold ContextCall.run ContextCall.call
      split
      · rename_i updated hupdated
        exact applyRuntimePatch_orderId hupdated
          (fun runtime hnone => (controllerPatch_orderId patch _).trans hnone) h
      · exact ⟨rfl, h⟩

/-- A call that publishes nothing leaves a context free. -/
theorem free_run {call : ContextCall} (hcall : call.publishes = false) {context : TradingContext}
    (h : Free context) : Free (call.run context) := by
  rcases run_cases call fun _ => h.orderId with ⟨hpublishes, -⟩ | hfree | ⟨hpending, htracks⟩
  · rw [hcall] at hpublishes
    cases hpublishes
  · exact hfree
  · have hnone := hpending.trans h.pendingOrder
    exact ⟨hnone, htracks hnone⟩

theorem tracksOrder_run (call : ContextCall) {context : TradingContext}
    (h : TracksOrder context) : TracksOrder (call.run context) := by
  rcases run_cases call h with ⟨-, hsome⟩ | hfree | ⟨-, htracks⟩
  · exact fun hnone => absurd hnone hsome
  · exact fun _ => hfree.orderId
  · exact htracks

theorem tracksOrder_withCalls (calls : List ContextCall) (h : TracksOrder session.context) :
    TracksOrder (session.withCalls calls).context := by
  show TracksOrder (calls.foldl _ session.context)
  generalize session.context = context at h
  induction calls generalizing context with
  | nil => exact h
  | cons call rest ih => exact ih _ (tracksOrder_run call h)

/-- Calls that publish nothing leave a context free. -/
theorem free_withCalls {calls : List ContextCall}
    (hcalls : ∀ call ∈ calls, call.publishes = false) (h : Free session.context) :
    Free (session.withCalls calls).context := by
  show Free (calls.foldl _ session.context)
  generalize session.context = context at h
  induction calls generalizing context with
  | nil => exact h
  | cons call rest ih =>
      exact ih (fun c hc => hcalls c (List.mem_cons_of_mem _ hc)) _
        (free_run (hcalls call (by simp)) h)

/-! ## Requests -/

/-- A request that never names an order in the runtime. -/
def NamesNoOrder : TradingActionRequest → Prop
  | .patchRuntimeContext changes => ∀ runtime : TradingRuntimeSnapshot,
      runtime.pendingOrderId = none →
        (applyChanges changes runtime.toRuntimeFields).pendingOrderId = none
  | _ => True

theorem namesNoOrder_of_quiet {action : TradingActionRequest} (h : Quiet action) :
    NamesNoOrder action := by
  cases action with
  | patchRuntimeContext changes =>
      intro runtime hnone
      exact (applyChanges_orderFields h.2 _).2.2.1.trans hnone
  | _ => trivial

theorem namesNoOrder_of_loose {changes : List RuntimeFieldChange} (h : Loose changes) :
    NamesNoOrder (.patchRuntimeContext changes) := by
  intro runtime hnone
  obtain ⟨next, hnext, hid⟩ := h.patched runtime hnone
  rw [← hnext]
  exact hid

theorem namesNoOrder_of_inner {action : TradingActionRequest} (h : Inner action) :
    NamesNoOrder action := by
  cases action with
  | patchRuntimeContext changes => exact namesNoOrder_of_loose h
  | _ => trivial

theorem namesNoOrder_of_batch {state : TradingStateConfiguration} {event : TradingEvent}
    {context : TradingContextView} {actions : List TradingActionRequest}
    (h : BatchRequests state event context actions) : ∀ action ∈ actions, NamesNoOrder action := by
  intro action haction
  cases h with
  | quiet h => exact namesNoOrder_of_quiet (h action haction)
  | inner _ hbefore hafter =>
      rcases List.mem_append.mp haction with haction | haction
      · exact namesNoOrder_of_inner (hbefore action haction)
      · exact namesNoOrder_of_quiet (hafter action haction)
  | release _ hchanges hrest =>
      rcases List.mem_cons.mp haction with rfl | haction
      · exact namesNoOrder_of_loose hchanges.toLoose
      · exact namesNoOrder_of_quiet (hrest action haction)

/-- Two contexts with the same order. -/
structure SameOrder (context next : TradingContext) : Prop where
  pendingOrder : next.pendingOrder = context.pendingOrder
  orderId : next.runtime.pendingOrderId = context.runtime.pendingOrderId

theorem sameOrder_replaceRuntime {context : TradingContext} {runtime : TradingRuntimeSnapshot}
    (h : PendingAligned runtime.toRuntimeFields context.pendingOrder)
    (hid : runtime.pendingOrderId = context.runtime.pendingOrderId) :
    SameOrder context (context.replaceRuntime runtime h) := by
  refine ⟨TradingContext.replaceRuntime_pendingOrder h, ?_⟩
  rw [TradingContext.replaceRuntime_runtime]
  exact hid

theorem sameOrder_openLowerEvent (context : TradingContext) (action : OpenLowerEvent) :
    SameOrder context (context.openLowerEvent action) := by
  unfold TradingContext.openLowerEvent
  exact sameOrder_replaceRuntime _ rfl

theorem sameOrder_closeLowerEvent (context : TradingContext) :
    SameOrder context context.closeLowerEvent := by
  unfold TradingContext.closeLowerEvent
  exact sameOrder_replaceRuntime _ rfl

theorem sameOrder_resetCaseBContext (context : TradingContext) (preserve : Bool) :
    SameOrder context (context.resetCaseBContext preserve) := by
  unfold TradingContext.resetCaseBContext
  exact sameOrder_replaceRuntime _ rfl

theorem sameOrder_resetCaseCContext (context : TradingContext) (preserveExit preserveSetup : Bool) :
    SameOrder context (context.resetCaseCContext preserveExit preserveSetup) := by
  unfold TradingContext.resetCaseCContext
  exact sameOrder_replaceRuntime _ rfl

theorem SameOrder.free {context next : TradingContext} (h : SameOrder context next)
    (hfree : Free context) : Free next :=
  ⟨h.pendingOrder.trans hfree.pendingOrder, h.orderId.trans hfree.orderId⟩

theorem SameOrder.tracksOrder {context next : TradingContext} (h : SameOrder context next)
    (htracks : TracksOrder context) : TracksOrder next :=
  fun hnone => h.orderId.trans (htracks (h.pendingOrder.symm.trans hnone))

theorem execute_state {action : TradingActionRequest}
    (h : session.execute environment action = .ok next) : next.state = session.state := by
  cases action with
  | patchRuntimeContext changes =>
      obtain ⟨context, -, rfl⟩ := Except.map_eq_ok_iff.mp h
      rfl
  | scheduleReevaluation action =>
      cases h
      unfold scheduleReevaluation
      split
      · rfl
      · split <;> rfl
  | _ => cases h; rfl

theorem execute_tracksOrder {action : TradingActionRequest} (haction : NamesNoOrder action)
    (htracks : TracksOrder session.context)
    (h : session.execute environment action = .ok next) : TracksOrder next.context := by
  cases action with
  | patchRuntimeContext changes =>
      obtain ⟨context, hcontext, rfl⟩ := Except.map_eq_ok_iff.mp h
      exact (applyRuntimePatch_orderId hcontext haction htracks).2
  | openLowerEvent action =>
      cases h
      exact (sameOrder_openLowerEvent _ _).tracksOrder htracks
  | closeLowerEvent text =>
      cases h
      exact (sameOrder_closeLowerEvent _).tracksOrder htracks
  | resetCaseBContext preserve =>
      cases h
      exact (sameOrder_resetCaseBContext _ _).tracksOrder htracks
  | resetCaseCContext preserveExit preserveSetup =>
      cases h
      exact (sameOrder_resetCaseCContext _ _ _).tracksOrder htracks
  | scheduleReevaluation action =>
      cases h
      unfold scheduleReevaluation
      split
      · exact htracks
      · split
        · exact htracks
        · exact tracksOrder_withCalls _ htracks
        · exact tracksOrder_withCalls _ htracks
  | queueEvent action => cases h; exact htracks
  | cancelScheduledEvaluation scope => cases h; exact htracks
  | stopTradingRuntime reason => cases h; exact htracks
  | submitOrder order => cases h; exact tracksOrder_withCalls _ htracks
  | cancelPendingOrder id reason => cases h; exact tracksOrder_withCalls _ htracks
  | forceSellAll retry policy => cases h; exact tracksOrder_withCalls _ htracks
  | reconcileOrder id stop => cases h; exact tracksOrder_withCalls _ htracks

theorem executeBatch_tracked {actions : List TradingActionRequest}
    (hactions : ∀ action ∈ actions, NamesNoOrder action) (htracks : TracksOrder session.context)
    (h : executeBatch environment actions session = .ok next) :
    next.state = session.state ∧ TracksOrder next.context := by
  induction actions generalizing session with
  | nil => cases h; exact ⟨rfl, htracks⟩
  | cons action rest ih =>
      obtain ⟨middle, hmiddle, hrest⟩ := Except.bind_eq_ok_iff.mp h
      obtain ⟨hstate, hnext⟩ := ih (fun a ha => hactions a (List.mem_cons_of_mem _ ha))
        (execute_tracksOrder (hactions action (by simp)) htracks hmiddle) hrest
      exact ⟨hstate.trans (execute_state hmiddle), hnext⟩

/-! ## Runs -/

theorem Initialized.tracked (h : session.Initialized) : session.Tracked where
  orderId := fun _ => by rw [h.runtime]
  unstarted := fun _ => h.pendingOrder

theorem Tracked.receive (h : session.Tracked) {input : Input}
    (hnext : session.receive input = .ok next) : next.Tracked := by
  cases input with
  | call call =>
      obtain ⟨hallowed, hnext⟩ := Except.require_bind_eq_ok_iff.mp hnext
      cases hnext
      refine ⟨tracksOrder_run call h.orderId, fun hroot => ?_⟩
      have hcall := hallowed.resolve_right fun hstarted => hstarted hroot
      have hnone := h.unstarted hroot
      exact (free_run hcall ⟨hnone, h.orderId hnone⟩).pendingOrder
  | release trigger now =>
      cases hnext
      exact ⟨h.orderId, h.unstarted⟩
  | event event evaluatedAt environment executed =>
      obtain ⟨view, hview, hnext⟩ := Except.bind_eq_ok_iff.mp hnext
      rw [TradingContext.snapshot_eq_ok] at hview
      cases hview
      obtain ⟨result, hresult, hnext⟩ := Except.bind_eq_ok_iff.mp hnext
      have hbatch := handle_batch hresult
      have hnames := namesNoOrder_of_batch hbatch.requests
      obtain ⟨hstate, htracks⟩ := @executeBatch_tracked
        { session with state := result.stateAfter } next environment _
        (fun a ha => hnames a (List.mem_of_mem_take ha)) h.orderId hnext
      refine ⟨htracks, fun hroot => ?_⟩
      rw [hstate] at hroot
      obtain ⟨hbefore, hactions⟩ := hbatch.starts hroot
      rw [hactions, List.take_nil] at hnext
      cases hnext
      exact h.unstarted hbefore

/-- In every run the runtime names an order only while one is pending. -/
theorem Reachable.tracked (h : Reachable session) : session.Tracked := by
  induction h with
  | start h => exact h.tracked
  | step _ hnext ih => exact ih.receive hnext

/-! ## The batches the context takes -/

/-- A patch without order fields is taken by every context. -/
theorem applyRuntimePatch_of_quiet {changes : List RuntimeFieldChange}
    (h : Quiet (.patchRuntimeContext changes)) (context : TradingContext) :
    ∃ patched, context.applyRuntimePatch changes = .ok patched := by
  obtain ⟨next, hnext, hstrategy, hside, hid, hkind⟩ := patched_of_quiet h.2 context.runtime
  have hruntime : context.patchedRuntime changes = .ok next := by
    unfold TradingContext.patchedRuntime
    rw [Except.require_bind_eq_ok_iff]
    refine ⟨h.1, ?_⟩
    rw [← hnext]
    exact next.validate_toRuntimeFields
  have haligned : PendingAligned next.toRuntimeFields context.pendingOrder := by
    intro order horder
    rw [hid, hstrategy, hside, hkind]
    exact context.pending_aligned order horder
  unfold TradingContext.applyRuntimePatch
  rw [hruntime, Except.ok_bind]
  split
  · exact ⟨_, rfl⟩
  · rename_i error herror
    rw [validatePendingAlignment_eq_ok_iff.mpr haligned] at herror
    cases herror

/-- A loose patch is taken by a free context, and leaves it free. -/
theorem applyRuntimePatch_of_loose {changes : List RuntimeFieldChange} (h : Loose changes)
    {context : TradingContext} (hfree : Free context) :
    ∃ patched, context.applyRuntimePatch changes = .ok patched ∧ Free patched := by
  obtain ⟨next, hnext, hid⟩ := h.patched context.runtime hfree.orderId
  have hruntime : context.patchedRuntime changes = .ok next := by
    unfold TradingContext.patchedRuntime
    rw [Except.require_bind_eq_ok_iff]
    refine ⟨h.fields_nodup, ?_⟩
    rw [← hnext]
    exact next.validate_toRuntimeFields
  have haligned : PendingAligned next.toRuntimeFields context.pendingOrder := by
    intro order horder
    rw [hfree.pendingOrder] at horder
    cases horder
  unfold TradingContext.applyRuntimePatch
  rw [hruntime, Except.ok_bind]
  split
  · refine ⟨_, rfl, ?_, ?_⟩
    · rw [TradingContext.replaceRuntime_pendingOrder]
      exact hfree.pendingOrder
    · rw [TradingContext.replaceRuntime_runtime]
      exact hid
  · rename_i error herror
    rw [validatePendingAlignment_eq_ok_iff.mpr haligned] at herror
    cases herror

theorem executeBatch_of_quiet {actions : List TradingActionRequest} (h : AllQuiet actions)
    (session : TradingSession) : ∃ next, executeBatch environment actions session = .ok next := by
  induction actions generalizing session with
  | nil => exact ⟨_, rfl⟩
  | cons action rest ih =>
      obtain ⟨haction, hrest⟩ := allQuiet_cons.mp h
      obtain ⟨middle, hmiddle⟩ : ∃ middle, session.execute environment action = .ok middle := by
        cases action with
        | patchRuntimeContext changes =>
            obtain ⟨patched, hpatched⟩ := applyRuntimePatch_of_quiet haction session.context
            exact ⟨_, by rw [execute, hpatched]; rfl⟩
        | _ => exact ⟨_, rfl⟩
      rw [executeBatch, hmiddle]
      exact ih hrest middle

theorem executeBatch_of_inner {actions : List TradingActionRequest} (h : AllInner actions)
    {session : TradingSession} (hfree : Free session.context) :
    ∃ next, executeBatch environment actions session = .ok next ∧ Free next.context := by
  induction actions generalizing session with
  | nil => exact ⟨_, rfl, hfree⟩
  | cons action rest ih =>
      obtain ⟨haction, hrest⟩ := allInner_cons.mp h
      obtain ⟨middle, hmiddle, hmiddleFree⟩ : ∃ middle,
          session.execute environment action = .ok middle ∧ Free middle.context := by
        cases action with
        | patchRuntimeContext changes =>
            obtain ⟨patched, hpatched, hpatchedFree⟩ := applyRuntimePatch_of_loose haction hfree
            exact ⟨_, by rw [execute, hpatched]; rfl, hpatchedFree⟩
        | openLowerEvent action =>
            exact ⟨_, rfl, (sameOrder_openLowerEvent _ _).free hfree⟩
        | closeLowerEvent text =>
            exact ⟨_, rfl, (sameOrder_closeLowerEvent _).free hfree⟩
        | resetCaseBContext preserve =>
            exact ⟨_, rfl, (sameOrder_resetCaseBContext _ _).free hfree⟩
        | resetCaseCContext preserveExit preserveSetup =>
            exact ⟨_, rfl, (sameOrder_resetCaseCContext _ _ _).free hfree⟩
        | scheduleReevaluation action =>
            refine ⟨_, rfl, ?_⟩
            unfold scheduleReevaluation
            split
            · exact hfree
            · split
              · exact hfree
              · exact free_withCalls (by simp [ContextCall.publishes]) hfree
              · exact free_withCalls (by simp [ContextCall.publishes]) hfree
        | queueEvent action => exact ⟨_, rfl, hfree⟩
        | cancelScheduledEvaluation scope => exact ⟨_, rfl, hfree⟩
        | stopTradingRuntime reason => exact ⟨_, rfl, hfree⟩
        | _ => cases haction
      rw [executeBatch, hmiddle]
      exact ih hrest hmiddleFree

theorem AllQuiet.take {actions : List TradingActionRequest} (h : AllQuiet actions) (n : ℕ) :
    AllQuiet (actions.take n) := fun action haction => h action (List.mem_of_mem_take haction)

theorem AllInner.take {actions : List TradingActionRequest} (h : AllInner actions) (n : ℕ) :
    AllInner (actions.take n) := fun action haction => h action (List.mem_of_mem_take haction)

/-- What comes before the order pipeline is taken by a free context, and then the rest. -/
theorem executeBatch_of_inner_append {before after : List TradingActionRequest}
    (hbefore : AllInner before) (hafter : AllQuiet after) (hfree : Free session.context) :
    ∃ next, executeBatch environment (before ++ after) session = .ok next := by
  obtain ⟨middle, hmiddle, -⟩ := executeBatch_of_inner hbefore hfree
  rw [executeBatch_append hmiddle]
  exact executeBatch_of_quiet hafter middle

/-! ## Acceptance -/

/-- The context takes every prefix of a batch, unless the step releases the order fields
while an order is pending. -/
theorem executeBatch_of_requests (htracked : session.Tracked) {event : TradingEvent}
    {evaluatedAt : Timestamp} {actions : List TradingActionRequest}
    (hbatch : BatchRequests session.state event (session.context.view evaluatedAt) actions)
    (hcondition : session.context.pendingOrder = none ∨
      releasesOrder session.state event (session.context.view evaluatedAt) = false)
    (stateAfter : TradingStateConfiguration) (executed : ℕ) :
    ∃ next, executeBatch environment (actions.take executed)
      { session with state := stateAfter } = .ok next := by
  cases hbatch with
  | quiet h => exact executeBatch_of_quiet (AllQuiet.take h executed) _
  | inner hfree hbefore hafter =>
      have hnone : session.context.pendingOrder = none := by
        rcases hfree with hid | hroot
        · cases hpending : session.context.pendingOrder with
          | none => rfl
          | some order =>
              have haligned := (session.context.pending_aligned order hpending).1
              exact absurd (hid.symm.trans haligned) (by simp)
        · exact htracked.unstarted hroot
      rw [List.take_append]
      exact executeBatch_of_inner_append (AllInner.take hbefore _) (AllQuiet.take hafter _)
        ⟨hnone, htracked.orderId hnone⟩
  | release hrelease hchanges hrest =>
      have hnone := hcondition.resolve_right (by simp [hrelease])
      rename_i changes rest
      have hinner : AllInner [.patchRuntimeContext changes] :=
        allInner_cons.mpr ⟨hchanges.toLoose, allInner_nil⟩
      rw [← List.singleton_append, List.take_append]
      exact executeBatch_of_inner_append (AllInner.take hinner _) (AllQuiet.take hrest _)
        ⟨hnone, htracked.orderId hnone⟩

/-- The context takes every prefix of the batch and has a view after it, unless the step
releases the order fields while an order is pending. -/
theorem batch_accepted (hrun : Reachable session) {event : TradingEvent}
    {evaluatedAt : Timestamp} {result : TradingSTMResult}
    (hresult : handle session.state event (session.context.view evaluatedAt) = .ok result)
    (hcondition : session.context.pendingOrder = none ∨
      releasesOrder session.state event (session.context.view evaluatedAt) = false)
    (environment : BatchEnvironment) (executed : ℕ) :
    ∃ next, executeBatch environment (result.actionRequests.take executed)
        { session with state := result.stateAfter } = .ok next ∧
      ∀ later, ∃ view, next.context.snapshot later = .ok view := by
  obtain ⟨next, hnext⟩ := @executeBatch_of_requests _ environment hrun.tracked _ _ _
    (handle_batch hresult).requests hcondition result.stateAfter executed
  exact ⟨next, hnext, fun later => ⟨_, next.context.snapshot_eq_ok later⟩⟩

/-- A context with a pending order takes no patch that releases the order fields. -/
theorem applyRuntimePatch_of_releases {changes : List RuntimeFieldChange}
    (h : Releases changes) {context patched : TradingContext}
    (hpatched : context.applyRuntimePatch changes = .ok patched) : context.pendingOrder = none := by
  obtain ⟨hfields, -, -, hpending⟩ := TradingContext.applyRuntimePatch_eq_ok hpatched
  rw [← hpending, Option.eq_none_iff_forall_not_mem]
  intro order horder
  -- the order stays pending, and the runtime would have to name its strategy
  have hstrategy := (patched.pending_aligned order horder).2.1
  rw [show patched.runtime.pendingStrategy = none from
    (congrArg RuntimeFields.pendingStrategy hfields).trans (h.strategy_released _)] at hstrategy
  cases hstrategy

/-- In every run, and for every event, the context takes every prefix of the batch and has a
view after it exactly when no order is pending or the step does not release the order fields. -/
theorem batch_accepted_iff (hrun : Reachable session) {event : TradingEvent}
    {evaluatedAt : Timestamp} {result : TradingSTMResult}
    (hresult : handle session.state event (session.context.view evaluatedAt) = .ok result) :
    (∀ (environment : BatchEnvironment) (executed : ℕ),
      ∃ next, executeBatch environment (result.actionRequests.take executed)
          { session with state := result.stateAfter } = .ok next ∧
        ∀ later, ∃ view, next.context.snapshot later = .ok view) ↔
      session.context.pendingOrder = none ∨
        releasesOrder session.state event (session.context.view evaluatedAt) = false := by
  constructor
  · intro haccepted
    rw [← Bool.not_eq_true]
    by_contra hrefused
    rw [not_or, not_not] at hrefused
    -- the release stands first, so the prefix of one request contains it
    obtain ⟨changes, rest, hactions, hchanges⟩ := handle_releases hresult hrefused.2
    obtain ⟨next, hnext, -⟩ := haccepted {} 1
    rw [hactions, List.take_succ_cons, List.take_zero] at hnext
    obtain ⟨middle, hmiddle, -⟩ := Except.bind_eq_ok_iff.mp hnext
    obtain ⟨context, hcontext, -⟩ := Except.map_eq_ok_iff.mp hmiddle
    exact hrefused.1 (applyRuntimePatch_of_releases hchanges hcontext)
  · exact fun hcondition environment executed =>
      batch_accepted hrun hresult hcondition environment executed

/-! ### An order of Case C -/

/-- A market below the lower band. -/
def touchedMarket : MarketEvaluationSnapshot where
  realtimePrice := .finite 90
  lowerBand := .finite 95
  upperBand := .finite 105
  realtimePctB := .finite (-1 / 2)
  current30mCandleId := some "candle-1"
  current30mLow := .finite 90
  touchCandleBbw := .finite (1 / 100)
  cci30mRealtime := .finite (-200)

/-- The market after a small rebound, at the close of a candle. -/
def reboundMarket : MarketEvaluationSnapshot :=
  { touchedMarket with
    realtimePrice := .finite 91
    realtimePctB := .finite (-2 / 5)
    confirmed30mClose := true
    pctBClose := .finite (1 / 2)
    currentClosedCandleLow := .finite 90
    previous3ClosedCandleLows := [.finite 80, .finite 80, .finite 80]
    close_time_confirmed := by simp
    previous_lows := by simp }

/-- A whole microstep without market data, with the effects of its submission. -/
def microstep (eventType : TradingEventType) (payload : Option TradingEventPayload)
    (calls : List ContextCall) : Input :=
  .event { eventType, payload, occurredAt := 0 } 0
    { orderEffect := fun
        | .submitOrder _ => calls
        | _ => [] } 100

/-- The start, a first lower touch, the setup of Case C and its flush. -/
def flushedInputs : List Input := [
  microstep .logicStarted none [],
  .call (.updateMarket touchedMarket),
  microstep .lowerBandTouched none [],
  microstep .activateTradeManagement none [],
  microstep .startCaseCSetupConditionCheck none [],
  microstep .retryCaseCSetupConditionCheck none [],
  .call (.updateMarket reboundMarket)]

/-- A first order as the controller publishes it. -/
def publishedOrder (orderId : String) (strategy : StrategyType) (side : OrderSide) :
    PendingOrderSnapshot where
  orderId := orderId
  strategy := strategy
  side := side
  attemptKind := .initial

/-- The rebound is bought, and the order of Case C is pending. -/
def boughtInputs : List Input :=
  flushedInputs ++ [microstep .retryCaseCSetupConditionCheck none
    [.publishPendingOrder (publishedOrder "order-1" .caseC .buy)]]

/-- A run that reaches a session on which a microstep has a property. -/
theorem reachable_of_check {inputs : List Input} {event : TradingEvent}
    {check : TradingSession → TradingSTMResult → Bool}
    (h : (({} : TradingSession).receiveAll inputs >>= fun session =>
      (handle session.state event (session.context.view 0)).map (check session)).toOption =
        some true) :
    ∃ session result, Reachable session ∧
      handle session.state event (session.context.view 0) = .ok result ∧
      check session result = true := by
  cases hsession : ({} : TradingSession).receiveAll inputs with
  | error error => rw [hsession] at h; cases h
  | ok session =>
      rw [hsession, Except.ok_bind] at h
      cases hresult : handle session.state event (session.context.view 0) with
      | error error => rw [hresult] at h; cases h
      | ok result =>
          rw [hresult] at h
          exact ⟨session, result, (Reachable.start ⟨rfl, rfl, rfl, rfl⟩).receiveAll hsession,
            hresult, Option.some.inj h⟩

/-- STOP is confirmed. -/
def stopConfirmed : TradingEvent where
  eventType := .stopConfirmed
  occurredAt := 0

/-- A STOP while the order of Case C is pending. -/
theorem batch_accepted_iff_stop : ∃ session result, Reachable session ∧
    session.context.pendingOrder.isSome = true ∧
    handle session.state stopConfirmed (session.context.view 0) = .ok result ∧
    ∃ next, executeBatch {} (result.actionRequests.take 100)
      { session with state := result.stateAfter } = .ok next ∧
      ∀ later, ∃ view, next.context.snapshot later = .ok view := by
  obtain ⟨session, result, hrun, hresult, hcheck⟩ :=
    @reachable_of_check boughtInputs stopConfirmed
      (fun session _ => session.context.pendingOrder.isSome &&
        !releasesOrder session.state stopConfirmed (session.context.view 0)) (by decide +kernel)
  rw [Bool.and_eq_true, Bool.not_eq_true'] at hcheck
  exact ⟨session, result, hrun, hcheck.1, hresult,
    (batch_accepted_iff hrun hresult).mpr (.inr hcheck.2) {} 100⟩

/-- The preparation of an order of Case B has expired. -/
def expiredPreparation : TradingEvent where
  eventType := .orderPreparationExpired
  occurredAt := 0
  payload := some (.preparationExpired .caseB)

/-- While the order of Case C is pending, the machine commits O-03 for Case B, and the
context refuses its batch. -/
theorem batch_refused : ∃ session result, Reachable session ∧
    handle session.state expiredPreparation (session.context.view 0) = .ok result ∧
    ∀ next, executeBatch {} result.actionRequests
      { session with state := result.stateAfter } ≠ .ok next := by
  obtain ⟨session, result, hrun, hresult, hcheck⟩ :=
    @reachable_of_check boughtInputs expiredPreparation
      (fun session result => !(executeBatch {} result.actionRequests
        { session with state := result.stateAfter }).isOk) (by decide +kernel)
  refine ⟨session, result, hrun, hresult, fun next hnext => ?_⟩
  rw [hnext] at hcheck
  cases hcheck

end TradingSession

end Trading
