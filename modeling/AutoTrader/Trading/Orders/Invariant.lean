import AutoTrader.Trading.Orders.Order

/-!
# What every order satisfies

Exchange results reach an order in any order: late, repeated, stale, conflicting.
Every sequence of `apply_order_result` and `reapply_order_result` calls, whether they
raise or not, keeps an order well formed and only moves it forward.

* `Order.checkResult_eq_ok` — what an accepted result amounts to.
* `Order.WellFormed` — distinct fills, aggregates that match them, quantities and
  statuses that fit.
* `Order.MovesTo` — later states keep the fills and the progress of earlier ones.
* `Order.ResultCall.call_atomic` — a call that raises writes nothing.
* `Order.calls_discipline` — all of it, for every order and every sequence of calls.
-/

namespace Trading

open Arithmetic KeptOnce

namespace Order

variable {ctx : DecimalContext}

/-! ## Accepted results -/

theorem keeps_mergeFills {stored fills next : List (Fill ctx)}
    (h : mergeFills stored fills = .ok next) : Keeps Fill.key stored fills next :=
  keeps_foldlM h

theorem nextAggregate_eq_ok {submitted : ℚ} {fills : List (Fill ctx)}
    {aggregate : Option FillAggregate} (h : nextAggregate submitted fills = .ok aggregate) :
    (fills = [] ∧ aggregate = none) ∨ ∃ a, aggregate = some a ∧ aggregateFills fills = .ok a ∧
      a.executedQuantity ≤ submitted := by
  unfold nextAggregate at h
  split at h
  · rename_i hnil
    cases h
    exact .inl ⟨hnil, rfl⟩
  · obtain ⟨a, ha, h⟩ := Except.bind_eq_ok_iff.mp h
    obtain ⟨_, hle, h⟩ := Except.bind_eq_ok_iff.mp h
    cases h
    exact .inr ⟨a, rfl, ha, Except.require_eq_ok_iff.mp hle⟩

theorem validateQuantity_eq_ok {submitted : ℚ} {status : OrderStatus}
    {aggregate : Option FillAggregate}
    (h : validateQuantity submitted status aggregate = .ok ()) :
    (status = .partiallyFilled → ∃ a ∈ aggregate, a.executedQuantity < submitted) ∧
      (status = .filled → ∃ a ∈ aggregate, a.executedQuantity = submitted) := by
  obtain ⟨hfilledPart, h⟩ := Except.require_bind_eq_ok_iff.mp h
  exact ⟨hfilledPart, Except.require_eq_ok_iff.mp h⟩

/-- Everything an accepted result amounts to. -/
structure Accepts (order : Order ctx) (result : OrderResult ctx) (accepted : AcceptedResult ctx) :
    Prop where
  identity : order.validateResultIdentity result = .ok ()
  merged : mergeFills order.fills result.fills = .ok accepted.fills
  resolved : resolveOrderStatus order.status result.status = .ok accepted.status
  aggregated : nextAggregate order.submittedQuantity accepted.fills = .ok accepted.aggregate
  quantity : validateQuantity order.submittedQuantity accepted.status accepted.aggregate = .ok ()

theorem checkResult_eq_ok {order : Order ctx} {result : OrderResult ctx}
    {accepted : AcceptedResult ctx} (h : order.checkResult result = .ok accepted) :
    Accepts order result accepted := by
  obtain ⟨_, hidentity, h⟩ := Except.bind_eq_ok_iff.mp h
  obtain ⟨fills, hfills, h⟩ := Except.bind_eq_ok_iff.mp h
  obtain ⟨status, hstatus, h⟩ := Except.bind_eq_ok_iff.mp h
  obtain ⟨aggregate, haggregate, h⟩ := Except.bind_eq_ok_iff.mp h
  obtain ⟨_, hquantity, h⟩ := Except.bind_eq_ok_iff.mp h
  cases h
  exact ⟨hidentity, hfills, hstatus, haggregate, hquantity⟩

theorem applyResult_run (order : Order ctx) (result : OrderResult ctx) :
    applyResult result order = match order.checkResult result with
      | .ok accepted => .ok () (order.commitResult result accepted)
      | .error error => .error error order := by
  cases h : order.checkResult result <;> simp [applyResult, h]

/-- The two public methods only differ in when they may be called. -/
theorem call_run (order : Order ctx) (result : OrderResult ctx) :
    (applyOrderResult result order =
      if order.hasAppliedResult = false then applyResult result order
      else .error (.valueError "initial order result was already applied") order) ∧
    (reapplyOrderResult result order =
      if order.hasAppliedResult = true then applyResult result order
      else .error (.valueError "initial order result must be applied first") order) := by
  cases h : order.hasAppliedResult <;>
    simp [applyOrderResult, reapplyOrderResult, h, Except.require]

/-! ## Well-formed orders -/

/-- The aggregate fields are those of the stored fills, or the initial ones. -/
def AggregateMatches (order : Order ctx) : Prop :=
  (order.fills = [] ∧ order.filledQuantity = 0 ∧ order.filledAmount = 0 ∧
    order.fillPrice = none ∧ order.feeAmount = 0 ∧ order.feeAsset = none ∧
    order.feeQuoteAmount = 0) ∨
  ∃ a, aggregateFills order.fills = .ok a ∧ order.filledQuantity = a.executedQuantity ∧
    order.filledAmount = a.executedAmount ∧ order.fillPrice = some a.averageFillPrice ∧
    order.feeAmount = a.feeAmount ∧ order.feeAsset = some a.feeAsset ∧
    order.feeQuoteAmount = a.feeQuoteAmount

/-- What holds of an order at every moment. -/
structure WellFormed (order : Order ctx) : Prop where
  keys_nodup : (order.fills.map Fill.key).Nodup
  aggregate : order.AggregateMatches
  filled_le : order.filledQuantity ≤ order.submittedQuantity
  filled_status : order.status = some .filled → order.filledQuantity = order.submittedQuantity
  partial_status : order.status = some .partiallyFilled →
    0 < order.filledQuantity ∧ order.filledQuantity < order.submittedQuantity

/-- A later state of an order: fills and quantity only grow, the status only advances. -/
structure MovesTo (order next : Order ctx) : Prop where
  intent_kept : next.toOrderIntent = order.toOrderIntent
  fills_kept : order.fills <+: next.fills
  filled_mono : order.filledQuantity ≤ next.filledQuantity
  status_advances : ∀ status ∈ order.status, ∃ later ∈ next.status, status.Advances later

theorem MovesTo.refl (order : Order ctx) : order.MovesTo order :=
  ⟨rfl, List.prefix_refl _, le_refl _, fun status h => ⟨status, h, .refl _⟩⟩

theorem MovesTo.trans {a b c : Order ctx} (hab : a.MovesTo b) (hbc : b.MovesTo c) :
    a.MovesTo c where
  intent_kept := hbc.intent_kept.trans hab.intent_kept
  fills_kept := hab.fills_kept.trans hbc.fills_kept
  filled_mono := hab.filled_mono.trans hbc.filled_mono
  status_advances := by
    intro status h
    obtain ⟨middle, hmiddle, hsm⟩ := hab.status_advances status h
    obtain ⟨later, hlater, hml⟩ := hbc.status_advances middle hmiddle
    exact ⟨later, hlater, hsm.trans hml⟩

theorem isTerminal_iff {order : Order ctx} :
    order.isTerminal = true ↔ ∃ status ∈ order.status, status.isTerminal = true := by
  cases h : order.status <;> simp [isTerminal, h]

/-- A terminal status never changes again. -/
theorem MovesTo.status_eq_of_isTerminal {order next : Order ctx} (h : order.MovesTo next)
    (hterminal : order.isTerminal = true) : next.status = order.status := by
  obtain ⟨status, hstatus, hterm⟩ := isTerminal_iff.mp hterminal
  obtain ⟨later, hlater, hadvances⟩ := h.status_advances status hstatus
  rw [hstatus, hlater, hadvances.eq_of_isTerminal hterm]

/-- A new order is well formed. -/
theorem wellFormed_order (ctx : DecimalContext) (intent : OrderIntent) :
    (intent.order ctx).WellFormed where
  keys_nodup := List.nodup_nil
  aggregate := .inl ⟨rfl, rfl, rfl, rfl, rfl, rfl, rfl⟩
  filled_le := intent.submittedQuantity_pos.le
  filled_status := by simp [OrderIntent.order]
  partial_status := by simp [OrderIntent.order]

/-! ## Committing an accepted result -/

section Commit

variable (order : Order ctx) (result : OrderResult ctx) (accepted : AcceptedResult ctx)

@[simp] theorem commitResult_toOrderIntent :
    (order.commitResult result accepted).toOrderIntent = order.toOrderIntent := by
  unfold commitResult commitAggregate
  split <;> rfl

@[simp] theorem commitResult_fills :
    (order.commitResult result accepted).fills = accepted.fills := by
  unfold commitResult commitAggregate
  split <;> rfl

@[simp] theorem commitResult_status :
    (order.commitResult result accepted).status = some accepted.status := by
  unfold commitResult commitAggregate
  split <;> rfl

@[simp] theorem commitResult_exchangeOrderId :
    (order.commitResult result accepted).exchangeOrderId =
      order.exchangeOrderId.or result.exchangeOrderId := by
  unfold commitResult commitAggregate
  split <;> rfl

@[simp] theorem commitResult_hasAppliedResult :
    (order.commitResult result accepted).hasAppliedResult = true := by
  unfold commitResult commitAggregate
  split <;> rfl

theorem commitResult_filledQuantity : (order.commitResult result accepted).filledQuantity =
    accepted.aggregate.elim order.filledQuantity (·.executedQuantity) := by
  unfold commitResult commitAggregate
  split <;> simp_all

end Commit

variable {order : Order ctx} {result : OrderResult ctx} {accepted : AcceptedResult ctx}

/-- An accepted result never takes fills away. -/
theorem Accepts.fills_prefix (h : Accepts order result accepted) :
    order.fills <+: accepted.fills := (keeps_mergeFills h.merged).isPrefix

theorem Accepts.aggregate_none (h : Accepts order result accepted)
    (hnone : accepted.aggregate = none) : accepted.fills = [] := by
  rcases nextAggregate_eq_ok h.aggregated with ⟨hnil, -⟩ | ⟨a, hsome, -⟩
  · exact hnil
  · rw [hnone] at hsome
    cases hsome

theorem Accepts.aggregate_some (h : Accepts order result accepted) {a : FillAggregate}
    (hsome : accepted.aggregate = some a) :
    aggregateFills accepted.fills = .ok a ∧ a.executedQuantity ≤ order.submittedQuantity := by
  rcases nextAggregate_eq_ok h.aggregated with ⟨-, hnone⟩ | ⟨b, hb, hok, hle⟩
  · rw [hnone] at hsome
    cases hsome
  · rw [hb] at hsome
    cases hsome
    exact ⟨hok, hle⟩

/-- The aggregate fields that are committed are those of the committed fills. -/
theorem Accepts.aggregateMatches (horder : order.WellFormed) (h : Accepts order result accepted) :
    (order.commitResult result accepted).AggregateMatches := by
  cases haggregate : accepted.aggregate with
  | none =>
      have hnil := h.aggregate_none haggregate
      have hbefore : order.fills = [] := List.prefix_nil.mp (hnil ▸ h.fills_prefix)
      rcases horder.aggregate with hinitial | ⟨a, ha, -⟩
      · refine .inl ⟨by simp [hnil], ?_⟩
        simpa [commitResult, commitAggregate, haggregate] using hinitial.2
      · exact absurd hbefore (aggregateFills_eq_ok ha).1
  | some a =>
      obtain ⟨hok, -⟩ := h.aggregate_some haggregate
      refine .inr ⟨a, by rw [commitResult_fills]; exact hok, ?_⟩
      simp [commitResult, commitAggregate, haggregate]

/-- The committed quantity fits into the submitted one. -/
theorem Accepts.filled_le (horder : order.WellFormed) (h : Accepts order result accepted) :
    (order.commitResult result accepted).filledQuantity ≤ order.submittedQuantity := by
  rw [commitResult_filledQuantity]
  cases haggregate : accepted.aggregate with
  | none => exact horder.filled_le
  | some a => exact (h.aggregate_some haggregate).2

/-- An accepted result leaves a well-formed order. -/
theorem Accepts.wellFormed (horder : order.WellFormed) (h : Accepts order result accepted) :
    (order.commitResult result accepted).WellFormed where
  keys_nodup := by
    rw [commitResult_fills]
    exact (keeps_mergeFills h.merged).keys_nodup horder.keys_nodup
  aggregate := h.aggregateMatches horder
  filled_le := by
    rw [commitResult_toOrderIntent]
    exact h.filled_le horder
  filled_status := by
    intro hstatus
    rw [commitResult_status, Option.some.injEq] at hstatus
    obtain ⟨a, ha, heq⟩ := (validateQuantity_eq_ok h.quantity).2 hstatus
    rw [commitResult_toOrderIntent, commitResult_filledQuantity, ha]
    exact heq
  partial_status := by
    intro hstatus
    rw [commitResult_status, Option.some.injEq] at hstatus
    obtain ⟨a, ha, hlt⟩ := (validateQuantity_eq_ok h.quantity).1 hstatus
    rw [commitResult_toOrderIntent, commitResult_filledQuantity, ha]
    exact ⟨aggregateFills_quantity_pos (h.aggregate_some ha).1, hlt⟩

/-- An accepted result never lowers the filled quantity. -/
theorem Accepts.filled_mono (horder : order.WellFormed) (h : Accepts order result accepted) :
    order.filledQuantity ≤ (order.commitResult result accepted).filledQuantity := by
  rw [commitResult_filledQuantity]
  cases haggregate : accepted.aggregate with
  | none => exact le_refl _
  | some a =>
      have hok := (h.aggregate_some haggregate).1
      rcases horder.aggregate with ⟨-, hzero, -⟩ | ⟨b, hb, hquantity, -⟩
      · rw [hzero]
        exact (aggregateFills_quantity_pos hok).le
      · obtain ⟨more, hmore⟩ := h.fills_prefix
        rw [hquantity]
        rw [← hmore] at hok
        exact aggregateFills_quantity_mono hb hok

/-- An accepted result moves the order forward. -/
theorem Accepts.movesTo (horder : order.WellFormed) (h : Accepts order result accepted) :
    order.MovesTo (order.commitResult result accepted) where
  intent_kept := commitResult_toOrderIntent order result accepted
  fills_kept := by
    rw [commitResult_fills]
    exact h.fills_prefix
  filled_mono := h.filled_mono horder
  status_advances := by
    intro status hstatus
    refine ⟨accepted.status, commitResult_status order result accepted, ?_⟩
    exact (resolveOrderStatus_eq_ok h.resolved).1 status hstatus

/-! ## Sequences of calls -/

/-- One call of a public result method. -/
inductive ResultCall (ctx : DecimalContext) where
  | apply (result : OrderResult ctx)
  | reapply (result : OrderResult ctx)

/-- The call as a computation on the order. -/
def ResultCall.call : ResultCall ctx → EStateM TradingError (Order ctx) Unit
  | .apply result => applyOrderResult result
  | .reapply result => reapplyOrderResult result

/-- A call commits an accepted result, or raises in the state it was called in. -/
theorem ResultCall.call_run (call : ResultCall ctx) (order : Order ctx) :
    (∃ result accepted, Accepts order result accepted ∧
      call.call order = .ok () (order.commitResult result accepted)) ∨
    ∃ error, call.call order = .error error order := by
  have hresult : ∀ result : OrderResult ctx,
      (∃ committed accepted, Accepts order committed accepted ∧
        applyResult result order = .ok () (order.commitResult committed accepted)) ∨
      ∃ error, applyResult result order = .error error order := by
    intro result
    rw [applyResult_run]
    cases h : order.checkResult result with
    | ok accepted => exact .inl ⟨result, accepted, checkResult_eq_ok h, rfl⟩
    | error error => exact .inr ⟨error, rfl⟩
  cases call with
  | apply result =>
      simp only [ResultCall.call, (Order.call_run order result).1]
      split
      · exact hresult result
      · exact .inr ⟨_, rfl⟩
  | reapply result =>
      simp only [ResultCall.call, (Order.call_run order result).2]
      split
      · exact hresult result
      · exact .inr ⟨_, rfl⟩

/-- A call that raises leaves every field of the order as it was. -/
theorem ResultCall.call_atomic {call : ResultCall ctx} {order raised : Order ctx}
    {error : TradingError} (h : call.call order = .error error raised) : raised = order := by
  rcases call.call_run order with ⟨result, accepted, -, hok⟩ | ⟨e, herror⟩
  · rw [hok] at h
    cases h
  · rw [herror] at h
    cases h
    rfl

/-- One call keeps an order well formed and moves it forward. -/
theorem ResultCall.call_step (call : ResultCall ctx) {order : Order ctx}
    (horder : order.WellFormed) :
    (Stateful.finalState (call.call order)).WellFormed ∧
      order.MovesTo (Stateful.finalState (call.call order)) := by
  rcases call.call_run order with ⟨result, accepted, haccepts, hok⟩ | ⟨error, herror⟩
  · rw [hok]
    exact ⟨haccepts.wellFormed horder, haccepts.movesTo horder⟩
  · rw [herror]
    exact ⟨horder, .refl order⟩

/-- Results do not touch what has been applied. -/
theorem ResultCall.call_positionAppliedFillKeys (call : ResultCall ctx) (order : Order ctx) :
    (Stateful.finalState (call.call order)).positionAppliedFillKeys =
      order.positionAppliedFillKeys := by
  rcases call.call_run order with ⟨result, accepted, -, hok⟩ | ⟨error, herror⟩
  · rw [hok, Stateful.finalState_ok, commitResult]
    unfold commitAggregate
    split <;> rfl
  · rw [herror, Stateful.finalState_error]

/-- The order after a sequence of calls. -/
def afterCalls (calls : List (ResultCall ctx)) (order : Order ctx) : Order ctx :=
  Stateful.runAll (calls.map ResultCall.call) order

/-- A sequence of calls keeps an order well formed and moves it forward. -/
theorem afterCalls_step (calls : List (ResultCall ctx)) {order : Order ctx}
    (horder : order.WellFormed) :
    (afterCalls calls order).WellFormed ∧ order.MovesTo (afterCalls calls order) := by
  refine Stateful.runAll_induction
    (P := fun next => next.WellFormed ∧ order.MovesTo next) ?_ ⟨horder, .refl order⟩
  rintro computation hcall next ⟨hnext, hmoves⟩
  obtain ⟨call, -, rfl⟩ := List.mem_map.mp hcall
  obtain ⟨hstep, hstepMoves⟩ := call.call_step hnext
  exact ⟨hstep, hmoves.trans hstepMoves⟩

/-- Whatever results reach an order, in whatever order and raising or not: the order
stays well formed, later states keep what earlier ones had, and a call that raises
changes nothing. -/
theorem calls_discipline (intent : OrderIntent) (earlier later : List (ResultCall ctx)) :
    let order := afterCalls earlier (intent.order ctx)
    let next := afterCalls later order
    order.WellFormed ∧ order.MovesTo next ∧
      (order.isTerminal = true → next.status = order.status) ∧
      (∀ m n, order.status.bind OrderStatus.activeProgress = some m →
        next.status.bind OrderStatus.activeProgress = some n → m ≤ n) ∧
      ∀ (call : ResultCall ctx) error raised, call.call order = .error error raised →
        raised = order := by
  intro order next
  have horder : order.WellFormed := (afterCalls_step earlier (wellFormed_order ctx intent)).1
  have hmoves : order.MovesTo next := (afterCalls_step later horder).2
  refine ⟨horder, hmoves, hmoves.status_eq_of_isTerminal, ?_, ?_⟩
  · intro m n hm hn
    obtain ⟨status, hstatus, hprogress⟩ := Option.bind_eq_some_iff.mp hm
    obtain ⟨later, hlater, hadvances⟩ := hmoves.status_advances status hstatus
    rw [show next.status = some later from hlater] at hn
    exact hadvances.activeProgress_le hprogress hn
  · intro call error raised h
    exact call.call_atomic h

end Order

end Trading
