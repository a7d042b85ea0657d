import AutoTrader.Trading.RegionOrders

/-!
# Order discipline of a microstep

The regions' batches put together: on an order event the signal regions are silent, and
otherwise the arbitration leaves one of two entries.

* `handle_shape` — the batch of every microstep has the shape of one order at most.
* `handle_order_discipline` — at most one order in a batch, none while an order is
  pending, no entry over an owned position, and every submission reserved first.
-/

namespace Trading

variable {context : TradingContextView} {event : TradingEvent} {state : TradingStateConfiguration}
variable {outcome : TransitionOutcome}

/-! ## Event rewriting -/

theorem resolveRegionOneEvent_eq (state : TradingStateConfiguration) (event : TradingEvent) :
    resolveRegionOneEvent state event =
      { event with eventType := (resolveRegionOneEvent state event).eventType } := by
  unfold resolveRegionOneEvent
  split
  · rfl
  · split <;> rfl

theorem resolveCaseCRegionEvent_eq (state : TradingStateConfiguration) (event : TradingEvent) :
    resolveCaseCRegionEvent state event =
      { event with eventType := (resolveCaseCRegionEvent state event).eventType } := by
  unfold resolveCaseCRegionEvent
  split
  · rfl
  · split <;> rfl

theorem resolveCaseBRegionEvent_eq (state : TradingStateConfiguration) (event : TradingEvent)
    (context : TradingContextView) :
    resolveCaseBRegionEvent state event context =
      { event with eventType := (resolveCaseBRegionEvent state event context).eventType } := by
  unfold resolveCaseBRegionEvent
  split_ifs <;> rfl

/-- Rewriting for region one makes no order event. -/
theorem isOrderEvent_resolveRegionOneEvent
    (h : isOrderEvent (resolveRegionOneEvent state event).eventType = true) :
    isOrderEvent event.eventType = true := by
  unfold resolveRegionOneEvent at h
  split at h
  · exact h
  · split at h <;> first | exact h | cases h

theorem isOrderEvent_ne_marketDataUpdated {eventType : TradingEventType}
    (h : isOrderEvent eventType = true) : eventType ≠ .marketDataUpdated := by
  rintro rfl
  cases h

/-- Region one's shape, for the event as it came. -/
theorem RegionOneShape.of_resolveRegionOneEvent {actions : List TradingActionRequest}
    (h : RegionOneShape (resolveRegionOneEvent state event) context actions) :
    RegionOneShape event context actions := by
  cases h with
  | plain h =>
      rw [resolveRegionOneEvent_eq] at h
      exact .plain (allPlain_withEventType.mp h)
  | order hevent h =>
      rw [resolveRegionOneEvent_eq] at h
      exact .order (isOrderEvent_resolveRegionOneEvent hevent) h.of_withEventType

/-! ## The signal regions after region one -/

/-- The signal regions order on other events than region one. -/
theorem isSignalOrderEvent_eq_false {eventType : TradingEventType} :
    isOrderEvent eventType = true → isSignalOrderEvent eventType = false := by
  cases eventType <;> decide

/-- A signal region asks for nothing on an order event. -/
theorem SignalShape.plain_of_isOrderEvent {strategy : StrategyType}
    {actions : List TradingActionRequest} (h : SignalShape strategy event context actions)
    (hevent : isOrderEvent event.eventType = true) : AllPlain event context actions := by
  cases h with
  | plain h => exact h
  | order hsignal _ _ =>
      rw [isSignalOrderEvent_eq_false hevent] at hsignal
      cases hsignal

/-- What a signal region asks for, for the event as it came. -/
inductive SignalActions (strategy : StrategyType) (event : TradingEvent)
    (context : TradingContextView) (actions : List TradingActionRequest) : Prop
  | plain (h : AllPlain event context actions)
  | order (hevent : isOrderEvent event.eventType = false)
      (hbuy : actions.any (isBuyOf strategy) = true) (h : OrderShape event context actions)

theorem SignalActions.orderShape {strategy : StrategyType} {actions : List TradingActionRequest}
    (h : SignalActions strategy event context actions) : OrderShape event context actions := by
  cases h with
  | plain h => exact .plain h
  | order _ _ h => exact h

theorem SignalActions.plain_of_isOrderEvent {strategy : StrategyType}
    {actions : List TradingActionRequest} (h : SignalActions strategy event context actions)
    (hevent : isOrderEvent event.eventType = true) : AllPlain event context actions := by
  cases h with
  | plain h => exact h
  | order hother _ _ => rw [hevent] at hother; cases hother

/-- A region that took the event with another type answers for the event as it came. -/
theorem SignalShape.signalActions {strategy : StrategyType} {resolved : TradingEvent}
    {actions : List TradingActionRequest}
    (hresolved : resolved = { event with eventType := resolved.eventType })
    (hsame : isOrderEvent event.eventType = true → resolved = event)
    (h : SignalShape strategy resolved context actions) :
    SignalActions strategy event context actions := by
  by_cases hevent : isOrderEvent event.eventType = true
  · rw [hsame hevent] at h
    exact .plain (h.plain_of_isOrderEvent hevent)
  · rw [hresolved] at h
    cases h with
    | plain h => exact .plain (allPlain_withEventType.mp h)
    | order _ hbuy h => exact .order (by simpa using hevent) hbuy h.of_withEventType

theorem handleCaseCSignalTransition_actions
    (h : handleCaseCSignalTransition state (resolveCaseCRegionEvent state event) context =
      .ok (some outcome)) :
    SignalActions .caseC event context outcome.actionRequests :=
  (handleCaseCSignalTransition_shape h).signalActions (resolveCaseCRegionEvent_eq ..)
    fun hevent => if_pos (isOrderEvent_ne_marketDataUpdated hevent)

theorem handleCaseBSignalTransition_actions
    (h : handleCaseBSignalTransition state (resolveCaseBRegionEvent state event context) context =
      some outcome) :
    SignalActions .caseB event context outcome.actionRequests :=
  (handleCaseBSignalTransition_shape h).signalActions (resolveCaseBRegionEvent_eq ..)
    fun hevent => if_pos (isOrderEvent_ne_marketDataUpdated hevent)

/-- Two entries of one microstep: the arbitration drops Case B's. -/
theorem doesCaseCBuyWin_of_buys {before actions : List TradingActionRequest}
    (hbuyC : actions.any (isBuyOf .caseC) = true)
    (hbuyB : outcome.actionRequests.any (isBuyOf .caseB) = true) :
    doesCaseCBuyWin (before ++ actions) outcome = true := by
  rw [doesCaseCBuyWin, List.any_append, hbuyC, hbuyB, Bool.or_true, Bool.and_true]

/-- Region one and Case C's signal region leave one order between them. -/
theorem accept_caseC_shape {selection : Selection} {caseC : Option TransitionOutcome}
    (hstart : RegionOneShape event context selection.actions)
    (hC : ∀ outcome ∈ caseC, SignalActions .caseC event context outcome.actionRequests) :
    OrderShape event context (selection.accept caseC).actions := by
  cases caseC with
  | none => exact hstart.orderShape
  | some outcome =>
      have houtcome := hC outcome rfl
      cases hstart with
      | plain hplain => exact OrderShape.prepend hplain houtcome.orderShape
      | order hevent hshape => exact hshape.append (houtcome.plain_of_isOrderEvent hevent)

/-- Whatever region one asked for, the signal regions leave at most one order. -/
theorem handleSignalRegions_shape {selection final : Selection}
    (hstart : RegionOneShape event context selection.actions)
    (h : handleSignalRegions selection event context = .ok final) :
    OrderShape event context final.actions := by
  obtain ⟨caseC, hcaseC, h⟩ := Except.bind_eq_ok_iff.mp h
  have hfinal := Except.pure_eq_ok_iff.mp h
  subst hfinal
  have hC : ∀ outcome ∈ caseC, SignalActions .caseC event context outcome.actionRequests := by
    rintro outcome rfl
    exact handleCaseCSignalTransition_actions hcaseC
  have hmiddle := accept_caseC_shape hstart hC
  set middle := selection.accept caseC with hdef
  set caseB := handleCaseBSignalTransition middle.state
    (resolveCaseBRegionEvent middle.state event context) context with hcaseB
  cases hfilter : caseB.filter fun outcome => !doesCaseCBuyWin middle.actions outcome with
  | none => exact hmiddle
  | some outcome =>
      obtain ⟨hsome, hkeep⟩ := Option.filter_eq_some_iff.mp hfilter
      have hB := handleCaseBSignalTransition_actions (hcaseB.symm.trans hsome)
      cases hB with
      | plain hplain => exact hmiddle.append hplain
      | order hevent hbuyB hshapeB =>
          -- Case B buys, so region one was plain and Case C did not buy
          have hone : AllPlain event context selection.actions := by
            cases hstart with
            | plain h => exact h
            | order horder _ => rw [horder] at hevent; cases hevent
          have hmiddlePlain : AllPlain event context middle.actions := by
            cases caseC with
            | none => exact hone
            | some caseCOutcome =>
                cases hC caseCOutcome rfl with
                | plain hplain => exact allPlain_append.mpr ⟨hone, hplain⟩
                | order _ hbuyC _ =>
                    rw [hdef, Selection.accept, doesCaseCBuyWin_of_buys hbuyC hbuyB] at hkeep
                    cases hkeep
          exact OrderShape.prepend hmiddlePlain hshapeB

/-! ## The microstep -/

theorem completionActions_plain (before after : TradingStateConfiguration) :
    AllPlain event context (completionActions before after context) := by
  unfold completionActions
  split <;> simp

theorem commit_actionRequests {selected : TransitionOutcome} {result : TradingSTMResult}
    (h : commit event context state selected = .ok result) :
    result.actionRequests = selected.actionRequests := by
  unfold commit at h
  split at h
  · cases h; rfl
  · cases h

theorem handleRegions_shape {result : TradingSTMResult}
    (h : handleRegions state event context = .ok result) :
    OrderShape event context result.actionRequests := by
  obtain ⟨regionOne, hone, h⟩ := Except.bind_eq_ok_iff.mp h
  have hstart : RegionOneShape event context
      ((⟨state, [], []⟩ : Selection).accept regionOne).actions := by
    cases regionOne with
    | none => exact .plain allPlain_nil
    | some outcome => exact (handleRegionOne_shape hone).of_resolveRegionOneEvent
  dsimp only at h
  split at h
  · rw [commit_actionRequests h]
    exact hstart.orderShape
  · obtain ⟨final, hfinal, h⟩ := Except.bind_eq_ok_iff.mp h
    have hshape := handleSignalRegions_shape hstart hfinal
    split at h
    · cases h; exact .plain allPlain_nil
    · rw [commit_actionRequests h]
      exact hshape.append (completionActions_plain _ _)

/-- Every microstep asks for at most one order, and a submission is reserved first. -/
theorem handle_shape {result : TradingSTMResult} (h : handle state event context = .ok result) :
    OrderShape event context result.actionRequests := by
  obtain ⟨global, hglobal, h⟩ := Except.bind_eq_ok_iff.mp h
  cases global with
  | some outcome =>
      rw [commit_actionRequests h]
      exact handleGlobalTransition_shape hglobal
  | none =>
      dsimp only at h
      split at h
      · cases h; exact .plain allPlain_nil
      · have hshape := handleRegions_shape h
        split at hshape
        · exact hshape.of_withEventType
        · exact hshape

/-! ## Discipline of a batch -/

/-- A request that creates an order: an order submission or a forced sale. -/
def isOrderCreating : TradingActionRequest → Bool
  | .submitOrder _ => true
  | .forceSellAll _ _ => true
  | _ => false

theorem Plain.isOrderCreating_eq_false {action : TradingActionRequest}
    (h : Plain event context action) : isOrderCreating action = false := by
  cases action with
  | submitOrder order => exact absurd h id
  | forceSellAll retry policy => exact absurd h id
  | _ => rfl

theorem AllPlain.filter_eq_nil {actions : List TradingActionRequest}
    (h : AllPlain event context actions) : actions.filter isOrderCreating = [] := by
  rw [List.filter_eq_nil_iff]
  intro action haction
  simp [(h action haction).isOrderCreating_eq_false]

theorem AllPlain.submitOrder_not_mem {actions : List TradingActionRequest}
    (h : AllPlain event context actions) (order : SubmitOrder) : .submitOrder order ∉ actions :=
  fun hmem => h _ hmem

/-- A batch without its details: nothing but plain requests, a reserved submission, or
a forced sale. -/
inductive BatchShape (event : TradingEvent) (context : TradingContextView) :
    List TradingActionRequest → Prop
  | plain {actions : List TradingActionRequest} (h : AllPlain event context actions) :
      BatchShape event context actions
  | submit {before after : List TradingActionRequest} {changes : List RuntimeFieldChange}
      {order : SubmitOrder}
      (hbefore : AllPlain event context before) (hafter : AllPlain event context after)
      (hreserves : Reserves changes order)
      (hpending : context.runtime.pendingOrderId = none)
      (howner : order.side = .buy → context.runtime.positionOwner = none) :
      BatchShape event context
        (before ++ .patchRuntimeContext changes :: .submitOrder order :: after)
  | forceSell {before after : List TradingActionRequest} {retry useRetryPolicy : Bool}
      (hbefore : AllPlain event context before) (hafter : AllPlain event context after)
      (hpending : context.runtime.pendingOrderId = none) :
      BatchShape event context (before ++ .forceSellAll retry useRetryPolicy :: after)

theorem OrderShape.batchShape {actions : List TradingActionRequest}
    (h : OrderShape event context actions) : BatchShape event context actions := by
  cases h with
  | plain h => exact .plain h
  | forceSell hbefore hafter hpending => exact .forceSell hbefore hafter hpending
  | entry hbefore hafter hpending howner =>
      obtain ⟨changes, order, heq, hreserves, -⟩ := createEntryOrderActions_eq _ _ event context
      rw [heq]
      exact .submit hbefore hafter hreserves hpending fun _ => howner
  | exit hbefore hafter hpending hintent =>
      obtain ⟨changes, order, heq, hreserves, -, hside, -⟩ :=
        createExitOrderActions_eq _ _ _ event context _
      rw [heq]
      refine .submit hbefore hafter hreserves hpending fun hbuy => ?_
      rw [hside] at hbuy
      cases hbuy

theorem BatchShape.filter_length_le_one {actions : List TradingActionRequest}
    (h : BatchShape event context actions) : (actions.filter isOrderCreating).length ≤ 1 := by
  cases h with
  | plain h => simp [h.filter_eq_nil]
  | submit hbefore hafter =>
      rw [List.filter_append, hbefore.filter_eq_nil,
        List.filter_cons_of_neg (by simp [isOrderCreating]), List.filter_cons_of_pos rfl,
        hafter.filter_eq_nil]
      exact le_refl 1
  | forceSell hbefore hafter =>
      rw [List.filter_append, hbefore.filter_eq_nil, List.filter_cons_of_pos rfl,
        hafter.filter_eq_nil]
      exact le_refl 1

/-- A pending order excludes every new one. -/
theorem BatchShape.filter_eq_nil_of_pending {actions : List TradingActionRequest}
    (h : BatchShape event context actions) (hpending : context.runtime.pendingOrderId ≠ none) :
    actions.filter isOrderCreating = [] := by
  cases h with
  | plain h => exact h.filter_eq_nil
  | submit _ _ _ hnone => exact absurd hnone hpending
  | forceSell _ _ hnone => exact absurd hnone hpending

/-- The only submission of a batch is the one its shape names. -/
theorem submitOrder_unique {xs ys zs ws : List TradingActionRequest}
    {order other : SubmitOrder} (hxs : ∀ o, .submitOrder o ∉ xs) (hys : ∀ o, .submitOrder o ∉ ys)
    (h : xs ++ .submitOrder order :: ys = zs ++ .submitOrder other :: ws) :
    xs = zs ∧ order = other := by
  induction xs generalizing zs with
  | nil =>
      cases zs with
      | nil => cases h; exact ⟨rfl, rfl⟩
      | cons z zs =>
          cases h
          exact absurd (by simp) (hys other)
  | cons x xs ih =>
      cases zs with
      | nil =>
          cases h
          exact absurd (by simp) (hxs other)
      | cons z zs =>
          rw [List.cons_append, List.cons_append, List.cons.injEq] at h
          obtain ⟨rfl, htail⟩ := h
          obtain ⟨rfl, heq⟩ := ih (fun o hmem => hxs o (List.mem_cons_of_mem x hmem)) htail
          exact ⟨rfl, heq⟩

/-- Every submission stands right behind the patch that reserves it, and an entry is
submitted only when nobody owns the position. -/
theorem BatchShape.submitOrder_reserved {before after : List TradingActionRequest}
    {order : SubmitOrder} (h : BatchShape event context (before ++ .submitOrder order :: after)) :
    (order.side = .buy → context.runtime.positionOwner = none) ∧
    ∃ earlier changes, before = earlier ++ [.patchRuntimeContext changes] ∧
      Reserves changes order := by
  generalize hactions : before ++ .submitOrder order :: after = actions at h
  cases h with
  | plain h =>
      subst hactions
      exact absurd (by simp) (h.submitOrder_not_mem order)
  | submit hbefore hafter hreserves hpending howner =>
      rename_i earlier later changes submitted
      have hshift : earlier ++ .patchRuntimeContext changes :: .submitOrder submitted :: later =
          (earlier ++ [.patchRuntimeContext changes]) ++ .submitOrder submitted :: later := by simp
      rw [hshift] at hactions
      obtain ⟨rfl, rfl⟩ := submitOrder_unique
        (fun o hmem => (List.mem_append.mp hmem).elim (hbefore.submitOrder_not_mem o) (by simp))
        hafter.submitOrder_not_mem hactions.symm
      exact ⟨howner, earlier, changes, rfl, hreserves⟩
  | forceSell hbefore hafter hpending =>
      rename_i earlier later retry policy
      have hmem : TradingActionRequest.submitOrder order ∈
          earlier ++ .forceSellAll retry policy :: later := hactions ▸ (by simp)
      rcases List.mem_append.mp hmem with hin | hin
      · exact absurd hin (hbefore.submitOrder_not_mem order)
      · exact absurd ((List.mem_cons.mp hin).resolve_left (by simp))
          (hafter.submitOrder_not_mem order)

/-- In every configuration, on every event and in every context, a microstep creates at
most one order, none while an order is pending, submits an entry only when nobody owns
the position, and reserves every submission by the patch right before it. -/
theorem handle_order_discipline {result : TradingSTMResult}
    (h : handle state event context = .ok result) :
    (result.actionRequests.filter isOrderCreating).length ≤ 1 ∧
    (context.runtime.pendingOrderId ≠ none →
      result.actionRequests.filter isOrderCreating = []) ∧
    (∀ before order after, result.actionRequests = before ++ .submitOrder order :: after →
      (order.side = .buy → context.runtime.positionOwner = none) ∧
      ∃ earlier changes, before = earlier ++ [.patchRuntimeContext changes] ∧
        Reserves changes order) := by
  have hshape := (handle_shape h).batchShape
  refine ⟨hshape.filter_length_le_one, hshape.filter_eq_nil_of_pending, ?_⟩
  intro before order after hactions
  rw [hactions] at hshape
  exact hshape.submitOrder_reserved

/-- A pullback on which Case B enters. -/
def pullbackContext : TradingContextView where
  version := 3
  evaluatedAt := 100
  market :=
    { realtimePrice := .finite 95
      lowerBand := .finite 90
      upperBand := .finite 110
      realtimePctB := .finite (1 / 5) }
  runtime := { lowerEventId := some "lower:candle:1", signalCreated := true }

/-- The internal event that checks the pullback for the first time. -/
def pullbackEvent : TradingEvent where
  eventType := .startCaseBWaitPullbackConditionCheck
  occurredAt := 99
  sequenceNumber := 7
  priority := .internal

/-- On the pullback the discipline is about one actual entry order. -/
theorem handle_order_discipline_pullback :
    ∃ result, handle (.tradeManagement .noPosition .bWaitPullback .caseCFinalState)
        pullbackEvent pullbackContext = .ok result ∧
      (result.actionRequests.filter isOrderCreating).length ≤ 1 ∧
      result.actionRequests.any (isBuyOf .caseB) = true := by
  have hany : ((handle (.tradeManagement .noPosition .bWaitPullback .caseCFinalState)
      pullbackEvent pullbackContext).map
        (·.actionRequests.any (isBuyOf .caseB))).toOption = some true := by
    decide +kernel
  cases hresult : handle (.tradeManagement .noPosition .bWaitPullback .caseCFinalState)
      pullbackEvent pullbackContext with
  | error e => rw [hresult] at hany; cases hany
  | ok result =>
      rw [hresult] at hany
      exact ⟨result, rfl, (handle_order_discipline hresult).1, Option.some.inj hany⟩

end Trading
