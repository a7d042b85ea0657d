import AutoTrader.Support.Dict
import AutoTrader.Trading.History.Performance
import AutoTrader.Trading.Orders.Invariant
import AutoTrader.Trading.Session.PendingJournal

/-!
# What the controller asks of the journal

The part of `TradingController` that moves the journal record of an order along with the
results that are observed of it, and removes it at the end.

* `OrderRecovery` — an order with the markers that choose its lifecycle.
* `selectPendingOrderLifecycle`, `transitionPendingOrderRecovery`, `deletePendingOrderRecovery` —
  the lifecycle of a result, the request for it, and the removal of the record.
* `screens` — the results that an order whose trade is stored does not see.
* `handleOrderResult`, `recoverPendingOrder`, `commitHistory` — the places that make a request.
* `LifecycleStep`, `lifecycleRun` — the requests of a whole run.
-/

namespace Trading

open Arithmetic

variable {ctx : DecimalContext}

/-- `_OrderExecutionState`: what a lifecycle is chosen from.  A state is made with its record in
the journal, and the controller finds it by its client order ID while it is indexed. -/
structure OrderRecovery (ctx : DecimalContext) where
  order : Order ctx
  recoveryLifecycle : PendingOrderRecoveryLifecycle := .prepared
  notSubmittedResult : Option (OrderResult ctx) := none
  awaitingTerminalZeroConfirmation : Bool := false
  submissionRejectionConfirmable : Bool := false
  terminalSummary : Option (ExecutionSummary ctx) := none
  pendingRecoveryPending : Bool := true
  indexed : Bool := true

/-- A lifecycle asked of the journal: the one before it, and why it was refused. -/
structure LifecycleRequest where
  current : PendingOrderRecoveryLifecycle
  requested : PendingOrderRecoveryLifecycle
  refusal : Option TradingError
  deriving DecidableEq

/-- An order together with the journal and the stored trades. -/
structure JournalledOrder (ctx : DecimalContext) where
  execution : OrderRecovery ctx
  journal : PendingJournal
  tradeHistory : TradeHistory ctx := {}

/-! ## Results of an order whose trade is stored -/

/-- `{fill.key: fill for fill in fills}`. -/
def fillsByKey (fills : List (Fill ctx)) : List (Fill.Key × Fill ctx) :=
  fills.foldl (fun stored fill => Dict.insert fill.key fill stored) []

/-- `_order_result_accounting_confirms_trade`: the result has the identity of the trade, and its
fills have the amounts and fees of the trade. -/
def orderResultAccountingConfirmsTrade (result : OrderResult ctx) (trade : Trade ctx) : Bool :=
  match result.fills with
  | [] => false
  | first :: _ =>
      decide (result.clientOrderId = trade.clientOrderId ∧
        result.exchangeOrderId = some trade.orderId ∧ result.symbol = trade.symbol ∧
        result.status.isTerminal = true) &&
      if trade.hasFeeEvidence then
        decide (∀ fill ∈ result.fills ++ trade.feeFills,
          (fillsByKey result.fills).lookup fill.key = (fillsByKey trade.feeFills).lookup fill.key)
      else
        let executedQuantity := ctx.sum (result.fills.map (·.quantity))
        let executedAmount := ctx.sum (result.fills.map Fill.executedAmount)
        decide ((∀ fill ∈ result.fills, fill.feeAsset = first.feeAsset) ∧
          executedQuantity = trade.executedQuantity ∧ executedAmount = trade.executedAmount ∧
          ctx.div executedAmount executedQuantity = trade.averageFillPrice ∧
          ctx.sum (result.fills.map (·.feeAmount)) = trade.feeAmount ∧
          AggregateFeeAsset.single first.feeAsset = trade.feeAsset ∧
          ctx.sum (result.fills.map (·.feeQuoteAmount)) = trade.feeQuoteAmount)

/-- `_order_result_exactly_confirms_trade`: the time of the last fill too. -/
def orderResultExactlyConfirmsTrade (result : OrderResult ctx) (trade : Trade ctx) : Bool :=
  orderResultAccountingConfirmsTrade result trade &&
    match result.fills with
    | [] => false
    | first :: rest => decide (latestExecution first rest = trade.executedAt)

namespace OrderRecovery

/-- `_select_pending_order_lifecycle`. -/
def selectPendingOrderLifecycle (state : OrderRecovery ctx) (result : OrderResult ctx) :
    PendingOrderRecoveryLifecycle :=
  if state.notSubmittedResult = some result then .notSubmittedConfirmed
  else if state.recoveryLifecycle = .historyCommitted then .historyCommitted
  else if state.submissionRejectionConfirmable = true then .submissionRejectedConfirmed
  else if state.order.isTerminal = true then .terminal
  else if state.order.fills ≠ [] then .partiallyFilled
  else if state.order.status = some .unknown then .unknown
  else if state.recoveryLifecycle = .unknown then .unknown
  else .submitted

/-- The order with one more result, and the markers the result sets; `none` when the result is
not accepted. -/
def observeResult (state : OrderRecovery ctx) (initial : Bool) (result : OrderResult ctx) :
    Option (OrderRecovery ctx) :=
  -- A later result must not claim a confirmed non-submission of its own.
  if result.failureKind = some .notSubmittedExpired ∧ initial = false ∧
      state.notSubmittedResult ≠ some result then none
  else
    match (if initial then Order.applyOrderResult result else Order.reapplyOrderResult result)
        state.order with
    | .error _ _ => none
    | .ok _ order =>
        some
          { state with
            order
            notSubmittedResult :=
              if result.failureKind = some .notSubmittedExpired then some result
              else state.notSubmittedResult
            submissionRejectionConfirmable := state.submissionRejectionConfirmable ||
              decide (initial = true ∧ result.status = .rejected ∧ result.fills = [] ∧
                result.failureKind = some .submissionRejected) }

end OrderRecovery

namespace JournalledOrder

/-- The returns of `_handle_order_result` at a result whose exchange order has a stored trade:
the trade of another client, a report that a completed order has seen already, or one that does
not agree with the trade. -/
def screens (session : JournalledOrder ctx) (result : OrderResult ctx) : Bool :=
  match result.exchangeOrderId.bind session.tradeHistory.find with
  | none => false
  | some trade =>
      let completed := decide (session.execution.recoveryLifecycle = .historyCommitted) &&
        !session.execution.pendingRecoveryPending
      if trade.clientOrderId ≠ result.clientOrderId then true
      else if result.status.isTerminal then
        (completed && decide (session.execution.order.status = some result.status) &&
          orderResultAccountingConfirmsTrade result trade) ||
        !orderResultExactlyConfirmsTrade result trade
      else
        -- a partial fill returns whether its fills are known or not
        completed && decide (result.status = .partiallyFilled ∨
          result.fills = [] ∧ result.symbol = trade.symbol)

/-- `_transition_pending_order_recovery`, with the answer of the append. -/
def transitionPendingOrderRecovery (session : JournalledOrder ctx)
    (lifecycle : PendingOrderRecoveryLifecycle) (appended : Bool) :
    LifecycleRequest × JournalledOrder ctx :=
  let current := session.execution.recoveryLifecycle
  if lifecycle = .notSubmittedConfirmed ∧ current = lifecycle then
    (⟨current, lifecycle, none⟩, session)
  else
    match session.journal.transition session.execution.order.clientOrderId lifecycle appended with
    | .error error =>
        (⟨current, lifecycle, some error⟩,
          { session with execution := { session.execution with pendingRecoveryPending := true } })
    | .ok journal =>
        (⟨current, lifecycle, none⟩,
          { session with
            execution :=
              { session.execution with
                recoveryLifecycle := lifecycle
                pendingRecoveryPending := true }
            journal })

/-- `_delete_pending_order_recovery`, with the answer of the append. -/
def deletePendingOrderRecovery (session : JournalledOrder ctx) (removed : Bool) :
    Bool × JournalledOrder ctx :=
  match session.journal.delete session.execution.order.clientOrderId removed with
  | .error _ =>
      (false,
        { session with execution := { session.execution with pendingRecoveryPending := true } })
  | .ok journal =>
      (true,
        { session with
          execution := { session.execution with pendingRecoveryPending := false }
          journal })

/-- What follows a request that was granted: a confirmed end without fills removes the record,
and a terminal order with fills gets its summary. -/
def afterRequest (session : JournalledOrder ctx) (initial : Bool) (result : OrderResult ctx)
    (removed : Bool) : JournalledOrder ctx :=
  if session.execution.awaitingTerminalZeroConfirmation = true ∧
      result.status.isTerminal = false then session
  else
    let state := { session.execution with awaitingTerminalZeroConfirmation := false }
    let session := { session with execution := state }
    if state.order.isTerminal = false then session
    else if state.order.fills = [] then
      if initial = true ∧ result.failureKind ≠ some .notSubmittedExpired then
        { session with execution := { state with awaitingTerminalZeroConfirmation := true } }
      else
        match session.deletePendingOrderRecovery removed with
        | (false, next) => next
        | (true, next) =>
            { next with execution := { next.execution with notSubmittedResult := none } }
    else
      match state.order.buildExecutionSummary with
      | .error _ => session
      | .ok summary => { session with execution := { state with terminalSummary := some summary } }

/-- The request of `_handle_order_result`, and the removal after it, for a state that the
controller finds. -/
def handleOrderResult (session : JournalledOrder ctx) (initial : Bool) (result : OrderResult ctx)
    (appended removed : Bool) : Option LifecycleRequest × JournalledOrder ctx :=
  if session.execution.indexed = false ∨ session.screens result = true then (none, session)
  else match session.execution.observeResult initial result with
  | none => (none, session)
  | some execution =>
      let (request, next) := { session with execution }.transitionPendingOrderRecovery
        (execution.selectPendingOrderLifecycle result) appended
      match request.refusal with
      | some _ => (some request, next)
      | none => (some request, next.afterRequest initial result removed)

/-- The end of `_recover_pending_order`: an order that goes on is indexed; an end without fills
removes the record, and one with fills has its summary. -/
def afterRecovery (session : JournalledOrder ctx) (removed : Bool) : JournalledOrder ctx :=
  let state := session.execution
  if state.order.isTerminal = false then session
  else
    let session := { session with execution := { state with indexed := false } }
    if state.order.exchangeOrderId = none then session
    else if state.order.fills = [] then (session.deletePendingOrderRecovery removed).2
    else
      { session with
        execution :=
          { session.execution with
            terminalSummary := state.order.buildExecutionSummary.toOption } }

/-- The first request of `_recover_pending_order`, for an order that a restart has read and that
has no stored trade. -/
def recoverPendingOrder (session : JournalledOrder ctx) (result : OrderResult ctx)
    (appended removed : Bool) : Option LifecycleRequest × JournalledOrder ctx :=
  if result.exchangeOrderId.bind session.tradeHistory.find ≠ none then (none, session)
  else match Order.applyOrderResult result session.execution.order with
  | .error _ _ => (none, session)
  | .ok _ order =>
      let execution := { session.execution with order }
      let (request, next) := { session with execution }.transitionPendingOrderRecovery
        (execution.selectPendingOrderLifecycle result) appended
      match request.refusal with
      | some _ => (some request, next)
      | none => (some request, next.afterRecovery removed)

/-- The end of a trade, at once or by a later retry, once the fills are in the position: the trade
is saved, the record promoted, the rest of a sale settled and the record removed. -/
def commitHistory (session : JournalledOrder ctx) (allocatedCostBasis : Option ℚ)
    (saved appended settled removed : Bool) : Option LifecycleRequest × JournalledOrder ctx :=
  match session.execution.terminalSummary with
  | none => (none, session)
  | some summary =>
      let stored := do
        let trade ← recordOrderExecution session.execution.order summary allocatedCostBasis
        let tradeHistory ← session.tradeHistory.addTrade trade
        Except.require (saved = true) (.osError "trade save failed")
        .ok tradeHistory
      match session.execution.pendingRecoveryPending, stored with
      | true, .ok tradeHistory =>
          let (request, next) := { session with tradeHistory }.transitionPendingOrderRecovery
            .historyCommitted appended
          if request.refusal ≠ none ∨ session.execution.order.side = .sell ∧ settled = false then
            (some request, next)
          else (some request, (next.deletePendingOrderRecovery removed).2)
      | _, _ => (none, session)

/-- The request right before a new order is sent. -/
def submit (session : JournalledOrder ctx) (appended : Bool) :
    Option LifecycleRequest × JournalledOrder ctx :=
  if session.execution.order.hasAppliedResult = false ∧
      session.execution.recoveryLifecycle = .prepared then
    let (request, next) := session.transitionPendingOrderRecovery .submitted appended
    (some request, next)
  else (none, session)

end JournalledOrder

/-! ## Runs -/

/-- What makes a request, with the answers of the appends, the save and the settlement. -/
inductive LifecycleStep (ctx : DecimalContext) where
  | submit (appended : Bool)
  | result (initial : Bool) (result : OrderResult ctx) (appended removed : Bool)
  | recover (result : OrderResult ctx) (appended removed : Bool)
  | commit (allocatedCostBasis : Option ℚ) (saved appended settled removed : Bool)

/-- One step. -/
def JournalledOrder.step (session : JournalledOrder ctx) :
    LifecycleStep ctx → Option LifecycleRequest × JournalledOrder ctx
  | .submit appended => session.submit appended
  | .result initial result appended removed =>
      session.handleOrderResult initial result appended removed
  | .recover result appended removed => session.recoverPendingOrder result appended removed
  | .commit allocatedCostBasis saved appended settled removed =>
      session.commitHistory allocatedCostBasis saved appended settled removed

/-- An order nothing was observed of, with the lifecycle of its record: `PREPARED` for a new
order, any lifecycle for one that a restart has read. -/
def OrderIntent.execution (ctx : DecimalContext) (intent : OrderIntent)
    (lifecycle : PendingOrderRecoveryLifecycle) : OrderRecovery ctx where
  order := intent.order ctx
  recoveryLifecycle := lifecycle
  submissionRejectionConfirmable := decide (lifecycle = .submissionRejectedConfirmed)

end Trading
