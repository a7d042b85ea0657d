import AutoTrader.Trading.Session.Submission

/-!
# The quantity of a repeated exit

An exit that was filled in part or not at all is repeated under the same intent, with a
quantity the session has recorded for it.

* `retryQuantity`, `settle` — what settling an exit records.
* `TakesQuantity` — an attempt comes to the point where it takes the recorded quantity.
* `ComesToOrder` — nothing ends the attempt between that point and its order.
* `IntentRun` — the attempts of an intent in which none takes the quantity in vain.
* `intentRun_requests` — such a run never applies the split ratio to a repeated exit.
-/

namespace Trading

open Arithmetic

variable {ctx : DecimalContext}

namespace SubmissionSession

/-! ## Settling an exit -/

/-- What is recorded for the next attempt: the same quantity after nothing was filled, the
whole rest of the position after something was. -/
def retryQuantity (session : SubmissionSession ctx) (settled : OrderExecution ctx) : Option ℚ :=
  if settled.forceSell ∨ settled.stopAfterReconciliation then none
  else if settled.order.fills = [] then some settled.order.requestedQuantity
  else if settled.order.side = .sell ∧ session.position.state.quantity ≠ 0 then
    some session.position.state.quantity
  else none

/-- The end of `_handle_order_result` and of `_complete_terminal_after_history`: the order is
settled and its intent has a quantity for the next attempt. -/
def settle (session : SubmissionSession ctx) (settled : OrderExecution ctx) :
    SubmissionSession ctx :=
  { session with
    orders := session.orders.map fun state =>
      if state.order.clientOrderId = settled.order.clientOrderId then settled else state
    quantityOverrides := fun intentId =>
      if intentId = settled.order.intentId then
        (session.retryQuantity settled).or (session.quantityOverrides intentId)
      else session.quantityOverrides intentId }

/-! ## Attempts -/

/-- The attempt is admitted and comes to the point where it takes the recorded quantity. -/
def TakesQuantity (session : SubmissionSession ctx) (env : SubmissionEnvironment ctx)
    (action : SubmitOrder) : Prop :=
  session.checkAdmission env action false none = .ok () ∧
    (∃ splitRatio, session.splitRatio = .ok splitRatio) ∧
    ∃ price, session.decisionPrice = .ok price

/-- The quantity of a repeated exit: what was recorded, within the position and the free ETH,
and within the ceiling of a single order. -/
def repeatedExitQuantity (session : SubmissionSession ctx) (recorded price free : ℚ) : ℚ :=
  capQuantity price (min recorded (min session.position.state.quantity free))
    session.maximumOrderNotional

/-- What an exit needs from the session that has taken its quantity, from the exchange and from
the other threads: no known deferral, a valid order, an answer that only lowers it, and neither a
stop nor a shutdown until the order is registered. -/
structure OrderReady (session : SubmissionSession ctx) (env : SubmissionEnvironment ctx)
    (action : SubmitOrder) (price quantity : ℚ) (exitPctB : Option ℚ)
    (prepared : OrderIntentFields) : Prop where
  positive : 0 < quantity
  undeferred : session.canDeferSellMinimum action = true → ∀ wait,
    session.sellMinimumWaits (action.strategy, action.exitReason) = some wait →
      ∃ fingerprint after, session.sellWaitFingerprint env = .ok (fingerprint, after) ∧
        ¬(wait.fingerprint = fingerprint ∧ env.now < wait.retryAt ∧
          previewWithin (env.previewSellQuantity quantity price) wait.previewQuantity = true)
  finite : finiteExitPctB action = .ok exitPctB
  valid : (session.orderFields env action price quantity exitPctB).validate = .ok ()
  answers : env.prepare (session.orderFields env action price quantity exitPctB) = .ok prepared
  kept : prepared =
    { session.orderFields env action price quantity exitPctB with
      submittedQuantity := prepared.submittedQuantity
      riskPolicyVersion := prepared.riskPolicyVersion }
  lowered : prepared.submittedQuantity ≤ quantity
  preparedValid : prepared.validate = .ok ()
  unstopped : (env.meanwhile session).externalStopRequested = false
  unshut : (env.meanwhile session).shutdownPreparing = false
  whole : (env.meanwhile session).recoveredPositionLiquidation = true →
    quantity = (env.meanwhile session).position.state.quantity ∧
      (prepared.submittedQuantity = (env.meanwhile session).position.state.quantity ∨
        env.allowsResidualRounding = true)

/-- Nothing ends the attempt between taking a recorded quantity and registering its order. -/
def ComesToOrder (session : SubmissionSession ctx) (env : SubmissionEnvironment ctx)
    (action : SubmitOrder) (recorded : ℚ) : Prop :=
  ∃ price free next exitPctB prepared, session.decisionPrice = .ok price ∧ 0 < price ∧
    (session.popQuantityOverride action.idempotencyKey).effectiveFree .eth = .ok (free, next) ∧
    next.OrderReady env action price (session.repeatedExitQuantity recorded price free) exitPctB
      prepared

/-- The attempts of the intent go on where they were. -/
structure SparesIntent (intentId : String) (before after : SubmissionSession ctx) : Prop where
  quantityOverride : after.quantityOverrides intentId = before.quantityOverrides intentId
  unresolved : (before.findActiveStateForIntent intentId).isSome →
    (after.findActiveStateForIntent intentId).isSome
  attempts : before.submissionAttempts intentId ≤ after.submissionAttempts intentId
  maximum : after.maximumOrderSubmissions = before.maximumOrderSubmissions

theorem SparesIntent.refl (intentId : String) (session : SubmissionSession ctx) :
    SparesIntent intentId session session :=
  ⟨rfl, id, le_refl _, rfl⟩

/-- The sessions an exit intent goes through, with the quantity recorded last.  An attempt that
takes a recorded quantity finds what it needs for its order. -/
inductive IntentRun (intentId : String) : SubmissionSession ctx → Option ℚ → Prop
  | start (session : SubmissionSession ctx) : IntentRun intentId session none
  /-- An attempt. -/
  | attempt {session : SubmissionSession ctx} {recorded : Option ℚ}
      (hrun : IntentRun intentId session recorded) (env : SubmissionEnvironment ctx)
      (action : SubmitOrder) (hintent : action.idempotencyKey = intentId)
      (hside : action.side = .sell)
      (hready : ∀ quantity, session.quantityOverrides intentId = some quantity →
        session.TakesQuantity env action → session.ComesToOrder env action quantity) :
      IntentRun intentId (session.submitOrderAction env action).session recorded
  /-- An order of the intent is settled. -/
  | settled {session : SubmissionSession ctx} {recorded : Option ℚ}
      (hrun : IntentRun intentId session recorded) (state : OrderExecution ctx)
      (hintent : state.order.intentId = intentId)
      (hunforced : state.forceSell = false ∧ state.stopAfterReconciliation = false) :
      IntentRun intentId (session.settle state) (session.retryQuantity state)
  /-- Anything that has nothing to do with the intent. -/
  | other {session : SubmissionSession ctx} {recorded : Option ℚ}
      (hrun : IntentRun intentId session recorded) (after : SubmissionSession ctx)
      (hspares : SparesIntent intentId session after) : IntentRun intentId after recorded

/-- The recorded quantity is still there, unless an attempt waits for its order or there are no
more attempts. -/
def KeepsQuantity (intentId : String) (session : SubmissionSession ctx) (recorded : Option ℚ) :
    Prop :=
  ∀ quantity ∈ recorded, session.quantityOverrides intentId = some quantity ∨
    (session.findActiveStateForIntent intentId).isSome ∨
    session.maximumOrderSubmissions ≤ session.submissionAttempts intentId

theorem KeepsQuantity.of_spares {intentId : String} {before after : SubmissionSession ctx}
    {recorded : Option ℚ} (h : KeepsQuantity intentId before recorded)
    (hspares : SparesIntent intentId before after) : KeepsQuantity intentId after recorded := by
  intro quantity hquantity
  rcases h quantity hquantity with hkept | hactive | hmaximum
  · exact .inl (hspares.quantityOverride.trans hkept)
  · exact .inr (.inl (hspares.unresolved hactive))
  · refine .inr (.inr ?_)
    rw [hspares.maximum]
    exact hmaximum.trans hspares.attempts

/-- An attempt that is not admitted leaves the intent as it was, or has used up its budget. -/
theorem checkAdmission_error {session next : SubmissionSession ctx} {env : SubmissionEnvironment ctx}
    {action : SubmitOrder} {ended : Submission ctx}
    (h : session.checkAdmission env action false none = .error (ended, next)) :
    SparesIntent action.idempotencyKey session next ∨
      next.maximumOrderSubmissions ≤ next.submissionAttempts action.idempotencyKey := by
  have hspared : ∀ {stopped : Submission ctx × SubmissionSession ctx},
      SparesIntent action.idempotencyKey session stopped.2 →
      (Except.error stopped : Stage ctx Unit) = .error (ended, next) →
      SparesIntent action.idempotencyKey session next := by
    intro stopped hstopped heq
    cases heq
    exact hstopped
  unfold checkAdmission at h
  dsimp only at h
  split at h
  · exact .inl (hspared (.refl _ _) h)
  split at h
  · exact .inl (hspared (.refl _ _) h)
  split at h
  · exact .inl (hspared ⟨rfl, id, le_refl _, rfl⟩ h)
  split at h
  · exact .inl (hspared (.refl _ _) h)
  split at h
  · exact .inl (hspared (.refl _ _) h)
  split at h
  · exact .inl (hspared (.refl _ _) h)
  split at h
  · exact .inl (hspared ⟨rfl, id, le_refl _, rfl⟩ h)
  split at h
  · exact .inl (hspared (.refl _ _) h)
  split at h
  · rename_i hmaximum
    cases h
    refine .inr ?_
    unfold exhaustSubmissionBudget
    split <;> exact hmaximum
  · cases h

/-- Admission has found no order of the intent that waits, and a budget that is left. -/
theorem checkAdmission_ok {session : SubmissionSession ctx} {env : SubmissionEnvironment ctx}
    {action : SubmitOrder} (h : session.checkAdmission env action false none = .ok ()) :
    (session.findActiveStateForIntent action.idempotencyKey).isSome = false ∧
      ¬session.maximumOrderSubmissions ≤ session.submissionAttempts action.idempotencyKey := by
  unfold checkAdmission at h
  dsimp only at h
  split at h
  · cases h
  split at h
  · cases h
  split at h
  · cases h
  split at h
  · cases h
  split at h
  · cases h
  split at h
  · cases h
  split at h
  · cases h
  split at h
  · cases h
  rename_i hactive
  split at h
  · cases h
  rename_i hmaximum
  exact ⟨by simpa using hactive, hmaximum⟩

/-! ### From the quantity to the order -/

section Order

variable {session : SubmissionSession ctx} {env : SubmissionEnvironment ctx} {action : SubmitOrder}
  {price quantity : ℚ} {exitPctB : Option ℚ} {prepared : OrderIntentFields}

theorem createOrder_eq_ok {fields : OrderIntentFields} (h : fields.validate = .ok ()) :
    createOrder fields = .ok ⟨fields, h⟩ := by
  unfold createOrder
  split
  · rfl
  · rename_i error herror
    rw [h] at herror
    cases herror

/-- The exit is screened and keeps its quantity. -/
theorem OrderReady.screen (h : session.OrderReady env action price quantity exitPctB prepared)
    (hside : action.side = .sell) :
    session.screen env action false price quantity = .ok (quantity, none) := by
  have hknown : session.deferKnownSell env action false price quantity = .ok () := by
    unfold deferKnownSell
    split
    · rename_i hcan
      split
      · rfl
      · rename_i wait hwait
        obtain ⟨fingerprint, after, hfingerprint, hnot⟩ := h.undeferred hcan.2.2 wait hwait
        simp only [hfingerprint, raising, Except.ok_bind]
        rw [if_neg hnot]
    · rfl
  unfold SubmissionSession.screen screenSide rejectZeroQuantity
  rw [if_neg (by simp [hside]), Except.ok_bind]
  dsimp only
  rw [if_pos h.positive, Except.ok_bind, hknown]
  rfl

/-- The exchange prepares the order. -/
theorem OrderReady.prepare (h : session.OrderReady env action price quantity exitPctB prepared)
    (requestedNotional : Option ℚ) :
    session.prepare env action false price quantity requestedNotional
        ⟨session.orderFields env action price quantity exitPctB, h.valid⟩ =
      .ok ⟨prepared, h.preparedValid⟩ := by
  have hprepare : prepareOrder env
      ⟨session.orderFields env action price quantity exitPctB, h.valid⟩ =
        .ok ⟨prepared, h.preparedValid⟩ := by
    unfold prepareOrder
    simp only [h.answers]
    rw [if_pos ⟨h.kept, h.lowered⟩, createOrder_eq_ok h.preparedValid]
  unfold SubmissionSession.prepare
  rw [hprepare]

/-- Nothing stops the prepared exit. -/
theorem OrderReady.finalGate (h : session.OrderReady env action price quantity exitPctB prepared)
    (hside : action.side = .sell) (requestedNotional : Option ℚ) :
    (env.meanwhile session).finalGate env action false ⟨prepared, h.preparedValid⟩ price quantity
        requestedNotional = .ok ((env.meanwhile session).clearWaits action) := by
  have hsell : prepared.side = .sell := by
    rw [h.kept]
    exact hside
  unfold SubmissionSession.finalGate checkRecoveredQuantity gateBuy
  dsimp only
  rw [if_neg (by simp [h.unstopped]), if_neg, Except.ok_bind, if_neg (by simp [hsell]),
    Except.ok_bind, if_neg]
  · rintro ⟨hshut, -⟩
    exact absurd (h.unshut.symm.trans hshut) (by simp)
  · rintro ⟨hrecovered, hother⟩
    obtain ⟨hquantity, hsubmitted⟩ := h.whole hrecovered
    rcases hother with hother | ⟨hother, hrounding⟩
    · exact hother hquantity
    · rcases hsubmitted with hsubmitted | hallowed
      · exact hother hsubmitted
      · rw [hrounding] at hallowed
        cases hallowed

/-- A registered order is the active one of its intent. -/
theorem register_active (session : SubmissionSession ctx) (env : SubmissionEnvironment ctx)
    (order : OrderIntent) (forceSell : Bool) :
    ((session.register env order forceSell).2.findActiveStateForIntent order.intentId).isSome := by
  have hregistered : ((session.registerOrder order forceSell).findActiveStateForIntent
      order.intentId).isSome := by
    unfold findActiveStateForIntent registerOrder
    simp [OrderIntent.order, OrderExecution.isUnresolved]
  unfold register
  dsimp only
  split
  · exact hregistered
  split
  · exact hregistered
  split <;> exact hregistered

/-- The attempt comes to its order. -/
theorem OrderReady.place (h : session.OrderReady env action price quantity exitPctB prepared)
    (hside : action.side = .sell) :
    ((session.place env action false price quantity).2.findActiveStateForIntent
      action.idempotencyKey).isSome := by
  have hplacing : session.placing env action false price quantity =
      .ok (((env.meanwhile session).clearWaits action).register env ⟨prepared, h.preparedValid⟩
        false) := by
    unfold placing
    rw [h.screen hside, Except.ok_bind, h.finite]
    simp only [raising, Except.ok_bind]
    rw [createOrder_eq_ok h.valid]
    dsimp only
    rw [Except.ok_bind, h.prepare, Except.ok_bind, h.finalGate hside]
    rfl
  have hintent : prepared.intentId = action.idempotencyKey := by
    rw [h.kept]
    rfl
  unfold SubmissionSession.place
  rw [hplacing, ← hintent]
  exact register_active _ _ _ _

end Order

/-- An attempt that takes a recorded quantity and finds what it needs comes to its order. -/
theorem ComesToOrder.active {session : SubmissionSession ctx} {env : SubmissionEnvironment ctx}
    {action : SubmitOrder} {recorded : ℚ} (h : session.ComesToOrder env action recorded)
    (hside : action.side = .sell) (htakes : session.TakesQuantity env action)
    (hrecorded : session.quantityOverrides action.idempotencyKey = some recorded) :
    ((session.submitOrderAction env action).session.findActiveStateForIntent
      action.idempotencyKey).isSome := by
  obtain ⟨price, free, next, exitPctB, prepared, hprice, hpositive, hfree, hready⟩ := h
  obtain ⟨hadmitted, ⟨splitRatio, hsplit⟩, -⟩ := htakes
  have hquantity : (session.popQuantityOverride action.idempotencyKey).calculateOrderQuantity .sell
      splitRatio price (some recorded) false =
        .ok (session.repeatedExitQuantity recorded price free, next) := by
    unfold calculateOrderQuantity Except.require
    rw [if_pos hpositive, Except.ok_bind, if_neg (by decide), hfree, Except.ok_bind]
    rfl
  unfold submitOrderAction
  simp only [hadmitted, hsplit, hprice, Option.none_or, hrecorded, Option.isSome_none,
    Bool.false_eq_true, if_false, hside, hquantity]
  exact hready.place hside

/-- An attempt that takes the quantity comes to an order; any other leaves the quantity. -/
theorem KeepsQuantity.attempt {session : SubmissionSession ctx} {recorded : Option ℚ}
    {env : SubmissionEnvironment ctx} {action : SubmitOrder}
    (h : KeepsQuantity action.idempotencyKey session recorded) (hside : action.side = .sell)
    (hready : ∀ quantity, session.quantityOverrides action.idempotencyKey = some quantity →
      session.TakesQuantity env action → session.ComesToOrder env action quantity) :
    KeepsQuantity action.idempotencyKey (session.submitOrderAction env action).session recorded := by
  by_cases htakes : session.TakesQuantity env action
  · intro quantity hquantity
    obtain ⟨hactive, hmaximum⟩ := checkAdmission_ok htakes.1
    rcases h quantity hquantity with hkept | hunresolved | hexhausted
    · exact .inr (.inl ((hready quantity hkept htakes).active hside htakes hkept))
    · rw [hactive] at hunresolved
      cases hunresolved
    · exact absurd hexhausted hmaximum
  unfold submitOrderAction
  cases hadmitted : session.checkAdmission env action false none with
  | error stopped =>
      dsimp only
      rcases checkAdmission_error hadmitted with hspares | hmaximum
      · exact h.of_spares hspares
      · exact fun quantity _ => .inr (.inr hmaximum)
  | ok admitted =>
      dsimp only
      cases hsplit : session.splitRatio with
      | error error => exact h
      | ok splitRatio =>
          cases hprice : session.decisionPrice with
          | error error => exact h
          | ok price => exact absurd ⟨hadmitted, ⟨splitRatio, hsplit⟩, ⟨price, hprice⟩⟩ htakes

/-- Settling an order of the intent records its quantity. -/
theorem KeepsQuantity.settled {session : SubmissionSession ctx} (state : OrderExecution ctx) :
    KeepsQuantity state.order.intentId (session.settle state) (session.retryQuantity state) := by
  intro quantity hquantity
  refine .inl ?_
  unfold settle
  rw [Option.mem_def.mp hquantity]
  simp

/-- In a run every recorded quantity is kept for the next attempt. -/
theorem IntentRun.keepsQuantity {intentId : String} {session : SubmissionSession ctx}
    {recorded : Option ℚ} (h : IntentRun intentId session recorded) :
    KeepsQuantity intentId session recorded := by
  induction h with
  | start => exact fun quantity hquantity => absurd hquantity (by simp)
  | attempt hrun env action hintent hside hready ih =>
      subst hintent
      exact ih.attempt hside hready
  | settled hrun state hintent hunforced ih =>
      subst hintent
      exact .settled state
  | other hrun after hspares ih => exact ih.of_spares hspares

/-! ## Requested quantities -/

/-- What an attempt has calculated, when it took the recorded quantity. -/
theorem submitOrderAction_calculated {session : SubmissionSession ctx}
    {env : SubmissionEnvironment ctx} {action : SubmitOrder} {quantity : ℚ}
    (h : (session.submitOrderAction env action).calculated = some quantity) :
    session.checkAdmission env action false none = .ok () ∧
      ∃ splitRatio price next, session.splitRatio = .ok splitRatio ∧
        session.decisionPrice = .ok price ∧
        (session.popQuantityOverride action.idempotencyKey).calculateOrderQuantity action.side
          splitRatio price (session.quantityOverrides action.idempotencyKey) false =
            .ok (quantity, next) := by
  unfold submitOrderAction at h
  cases hadmitted : session.checkAdmission env action false none with
  | error stopped =>
      rw [hadmitted] at h
      cases h
  | ok admitted =>
      rw [hadmitted] at h
      dsimp only at h
      split at h
      · cases h
      · cases h
      rename_i splitRatio price hsplit hprice
      split at h
      · cases h
      rename_i calculated next hquantity
      cases h
      exact ⟨rfl, splitRatio, price, next, hsplit, hprice, hquantity⟩

/-- Where no attempt takes the recorded quantity in vain, every repeated exit requests that
quantity, and the split ratio is not applied to it again. -/
theorem intentRun_requests {intentId : String} {session : SubmissionSession ctx} {recorded : ℚ}
    (hrun : IntentRun intentId session (some recorded)) (env : SubmissionEnvironment ctx)
    (action : SubmitOrder) (hintent : action.idempotencyKey = intentId)
    (hside : action.side = .sell) {quantity : ℚ}
    (hcalculated : (session.submitOrderAction env action).calculated = some quantity) :
    ∃ price free next, session.decisionPrice = .ok price ∧
      (session.popQuantityOverride intentId).effectiveFree .eth = .ok (free, next) ∧
      quantity = session.repeatedExitQuantity recorded price free := by
  subst hintent
  obtain ⟨hadmitted, splitRatio, price, next, -, hprice, hquantity⟩ :=
    submitOrderAction_calculated hcalculated
  obtain ⟨hactive, hmaximum⟩ := checkAdmission_ok hadmitted
  have hkept : session.quantityOverrides action.idempotencyKey = some recorded := by
    rcases hrun.keepsQuantity recorded rfl with hkept | hunresolved | hexhausted
    · exact hkept
    · rw [hactive] at hunresolved
      cases hunresolved
    · exact absurd hexhausted hmaximum
  rw [hkept, hside] at hquantity
  obtain ⟨_, -, hquantity⟩ := Except.bind_eq_ok_iff.mp hquantity
  obtain ⟨⟨free, freed⟩, hfree, hquantity⟩ := Except.bind_eq_ok_iff.mp hquantity
  cases hquantity
  exact ⟨price, free, _, hprice, hfree, rfl⟩

/-! ## A lost quantity -/

/-- Half of a lot is left: the first exit of its intent sold the other half. -/
def halfSoldSession : SubmissionSession .exact where
  stmState := .tradeManagement (.caseB .caseBHolding) .caseBFinalState .caseCFinalState
  runtime := { pendingOrderSide := some .sell }
  scaleInRatio := 1
  scaleOutRatio := 1 / 2
  realtimePrice := .finite 10
  balances := { free := fun _ => some (1 / 2) }
  position :=
    { state :=
        { owner := some .caseB
          quantity := 1 / 2
          averageEntryPrice := 10
          costBasis := 5
          enteredAt := some 0
          status := .open
          entryExecutedQuantity := 1
          entryExecutedAmount := 10
          valid := by decide +kernel } }
  submissionAttempts := fun _ => 1

/-- The settled first order of the intent. -/
def firstExit : OrderExecution .exact where
  order :=
    { intentId := "exit"
      clientOrderId := "bat--0"
      submissionAttempt := 0
      side := .sell
      strategy := .caseB
      regimeType := .type0
      requestedQuantity := 1 / 2
      submittedQuantity := 1 / 2
      marketPriceAtDecision := 10
      exitReason := some .time
      valid := by decide +kernel
      status := some .filled
      filledQuantity := 1 / 2
      fills :=
        [{ exchangeOrderId := "1"
           tradeId := "1"
           quantity := 1 / 2
           price := 10
           feeAmount := 0
           feeAsset := .usdt
           feeQuoteAmount := 0
           executedAt := 0
           valid := by decide +kernel }] }

/-- The exit that is repeated. -/
def repeatedExit : SubmitOrder where
  strategy := .caseB
  side := .sell
  attemptKind := .retry
  idempotencyKey := "exit"
  exitReason := some .time

/-- An exchange that prepares orders as they are, or is not available. -/
def exchange (now : Timestamp) (available : Bool) : SubmissionEnvironment .exact where
  now := now
  digest _ _ := ""
  prepare fields := if available then .ok fields else .error (.transient none)

/-- The second order of the intent, which expires without a fill. -/
def secondExit : OrderExecution .exact where
  order :=
    { intentId := "exit"
      clientOrderId := "bat--1"
      submissionAttempt := 1
      side := .sell
      strategy := .caseB
      regimeType := .type0
      requestedQuantity := 1 / 2
      submittedQuantity := 1 / 2
      marketPriceAtDecision := 10
      exitReason := some .time
      valid := by decide +kernel
      status := some .expired }

/-- The session after the first order was filled, after the second attempt, and after its order
has expired. -/
def restSession : SubmissionSession .exact := halfSoldSession.settle firstExit

def orderedSession : SubmissionSession .exact :=
  (restSession.submitOrderAction (exchange 0 true) repeatedExit).session

def expiredSession : SubmissionSession .exact := orderedSession.settle secondExit

theorem restSession_comesToOrder :
    restSession.ComesToOrder (exchange 0 true) repeatedExit (1 / 2) := by
  refine ⟨10, 1 / 2, restSession.popQuantityOverride "exit", none,
    (restSession.popQuantityOverride "exit").orderFields (exchange 0 true) repeatedExit 10 (1 / 2)
      none, by decide +kernel, by norm_num, rfl, ?_⟩
  have hquantity : restSession.repeatedExitQuantity (1 / 2) 10 (1 / 2) = 1 / 2 := by
    decide +kernel
  rw [hquantity]
  exact
    { positive := by norm_num
      undeferred := fun _ _ hwait => nomatch hwait
      finite := rfl
      valid := by decide +kernel
      answers := rfl
      kept := rfl
      lowered := le_rfl
      preparedValid := by decide +kernel
      unstopped := rfl
      unshut := rfl
      whole := fun hrecovered => nomatch hrecovered }

/-- The rest of the lot is requested again after an order of it has expired. -/
theorem intentRun_requests_rest :
    ∃ price free next, expiredSession.decisionPrice = .ok price ∧
      (expiredSession.popQuantityOverride "exit").effectiveFree .eth = .ok (free, next) ∧
      1 / 2 = expiredSession.repeatedExitQuantity (1 / 2) price free := by
  have hfirst : halfSoldSession.retryQuantity firstExit = some (1 / 2) := by decide +kernel
  have hrest : IntentRun "exit" restSession (some (1 / 2)) := by
    rw [← hfirst]
    exact .settled (.start halfSoldSession) firstExit rfl ⟨rfl, rfl⟩
  have hordered : IntentRun "exit" orderedSession (some (1 / 2)) := by
    refine .attempt hrest (exchange 0 true) repeatedExit rfl rfl fun quantity hquantity _ => ?_
    have hhalf : restSession.quantityOverrides "exit" = some (1 / 2) := by decide +kernel
    rw [hhalf] at hquantity
    cases hquantity
    exact restSession_comesToOrder
  have hsecond : orderedSession.retryQuantity secondExit = some (1 / 2) := by decide +kernel
  have hexpired : IntentRun "exit" expiredSession (some (1 / 2)) := by
    rw [← hsecond]
    exact .settled hordered secondExit rfl ⟨rfl, rfl⟩
  exact intentRun_requests hexpired (exchange 0 true) repeatedExit rfl rfl (by decide +kernel)

/-- After an attempt that the exchange was not available for, the next one requests half of the
rest again. -/
theorem repeatedExit_splitAgain :
    let recorded := halfSoldSession.settle firstExit
    let failed := recorded.submitOrderAction (exchange 0 false) repeatedExit
    recorded.quantityOverrides "exit" = some (1 / 2) ∧
      failed.calculated = some (1 / 2) ∧
      (failed.session.submitOrderAction (exchange 5000000 true) repeatedExit).calculated =
        some (1 / 4) := by
  decide +kernel

end SubmissionSession

end Trading
