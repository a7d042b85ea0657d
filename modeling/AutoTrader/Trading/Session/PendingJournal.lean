import AutoTrader.Trading.Orders.Order

/-!
# The journal of pending orders

The sidecar of `adapters/persistence/trade_history_repository.py` that remembers every
order from before it is submitted until its outcome is durable.  The maps are those the
repository keeps in memory; they follow the file, which is appended first.

* `PendingOrderRecoveryLifecycle` — how far an order is, and `canTransition`.
* `PendingJournal.save`, `PendingJournal.transition`, `PendingJournal.delete` — the three
  writes.  Each gets the answer of its append: an append that raises changes nothing here.
-/

namespace Trading

open Arithmetic

/-- How far a journalled order is. -/
inductive PendingOrderRecoveryLifecycle where
  | prepared | submitted | unknown | partiallyFilled | terminal | historyCommitted
  | submissionRejectedConfirmed | notSubmittedConfirmed
  deriving DecidableEq, Repr

namespace PendingOrderRecoveryLifecycle

/-- `_PENDING_ORDER_LIFECYCLE_TRANSITIONS`: what may follow a lifecycle. -/
def successors : PendingOrderRecoveryLifecycle → List PendingOrderRecoveryLifecycle
  | .prepared => [.submitted, .unknown, .partiallyFilled, .terminal, .submissionRejectedConfirmed,
      .notSubmittedConfirmed]
  | .submitted => [.unknown, .partiallyFilled, .terminal, .submissionRejectedConfirmed,
      .notSubmittedConfirmed]
  | .unknown => [.partiallyFilled, .terminal]
  | .partiallyFilled => [.terminal]
  | .terminal => [.historyCommitted]
  | .historyCommitted => []
  | .submissionRejectedConfirmed => []
  | .notSubmittedConfirmed => []

/-- `_pending_lifecycle_can_transition`. -/
def canTransition (current next : PendingOrderRecoveryLifecycle) : Bool :=
  current.successors.contains next

end PendingOrderRecoveryLifecycle

/-- An active order of the journal. -/
structure PendingRecord where
  order : OrderIntentFields
  lifecycle : PendingOrderRecoveryLifecycle := .prepared
  deriving DecidableEq

/-- The journal: its active orders, and what it remembers of every intent. -/
structure PendingJournal where
  active : List PendingRecord := []
  attempts : List (String × ℕ) := []
  submissionCounts : List (String × ℕ) := []
  riskPolicyVersions : List (String × Option Int) := []
  exitPctBs : List (String × Option ℚ) := []
  deriving DecidableEq

namespace PendingJournal

/-- The active record of a client order ID. -/
def record (journal : PendingJournal) (clientOrderId : String) : Option PendingRecord :=
  journal.active.find? fun record => record.order.clientOrderId == clientOrderId

/-- `PendingOrderJournalConflictError`. -/
def conflict (clientOrderId : String) : TradingError :=
  .valueError ("pending-order journal conflict: " ++ clientOrderId)

/-- The checks of `save_pending_order` on an order that is not active yet. -/
def checkNew (journal : PendingJournal) (order : OrderIntentFields) : Except TradingError Unit := do
  Except.require ((order.intentId, order.submissionAttempt) ∉ journal.attempts)
    (conflict order.clientOrderId)
  Except.require (∀ record ∈ journal.active, record.order.intentId ≠ order.intentId)
    (conflict order.clientOrderId)
  Except.require (∀ count ∈ journal.submissionCounts.lookup order.intentId,
      order.submissionAttempt = count) (conflict order.clientOrderId)
  Except.require (∀ version ∈ journal.riskPolicyVersions.lookup order.intentId,
      order.riskPolicyVersion = version) (conflict order.clientOrderId)
  Except.require (∀ pctB ∈ journal.exitPctBs.lookup order.intentId,
      order.exitPctBAtIntent = pctB) (conflict order.clientOrderId)

/-- The journal after an order was appended. -/
def insert (journal : PendingJournal) (order : OrderIntentFields) : PendingJournal where
  active := journal.active ++ [{ order }]
  attempts := (order.intentId, order.submissionAttempt) :: journal.attempts
  submissionCounts := (order.intentId, order.submissionAttempt + 1) :: journal.submissionCounts
  riskPolicyVersions :=
    journal.riskPolicyVersions ++ [(order.intentId, order.riskPolicyVersion)]
  exitPctBs := journal.exitPctBs ++ [(order.intentId, order.exitPctBAtIntent)]

/-- `save_pending_order`. -/
def save (journal : PendingJournal) (order : OrderIntentFields) (appended : Bool) :
    Except TradingError PendingJournal :=
  match journal.record order.clientOrderId with
  | some record =>
      if record.order = order then .ok journal else .error (conflict order.clientOrderId)
  | none => do
      journal.checkNew order
      Except.require (appended = true) (.osError "pending-order append failed")
      .ok (journal.insert order)

/-- The journal with another lifecycle of one order. -/
def setLifecycle (journal : PendingJournal) (clientOrderId : String)
    (lifecycle : PendingOrderRecoveryLifecycle) : PendingJournal :=
  { journal with
    active := journal.active.map fun record =>
      if record.order.clientOrderId = clientOrderId then { record with lifecycle } else record }

/-- `transition_pending_order_lifecycle`. -/
def transition (journal : PendingJournal) (clientOrderId : String)
    (lifecycle : PendingOrderRecoveryLifecycle) (appended : Bool) :
    Except TradingError PendingJournal :=
  if lifecycle = .prepared then
    .error (.valueError "pending-order transition must advance from PREPARED")
  else match journal.record clientOrderId with
  | none => .error (.valueError "pending-order transition requires an active pending order")
  | some record =>
      if record.lifecycle = lifecycle then .ok journal
      else if record.lifecycle.canTransition lifecycle then
        if appended then .ok (journal.setLifecycle clientOrderId lifecycle)
        else .error (.osError "pending-order append failed")
      else .error (.valueError "pending-order lifecycle transition is invalid")

/-- `delete_pending_order`: an order that is not active is left alone. -/
def delete (journal : PendingJournal) (clientOrderId : String) (appended : Bool) :
    Except TradingError PendingJournal :=
  match journal.record clientOrderId with
  | none => .ok journal
  | some _ =>
      if appended then
        .ok { journal with
          active := journal.active.filter fun record =>
            !(record.order.clientOrderId == clientOrderId) }
      else .error (.osError "pending-order append failed")

end PendingJournal

end Trading
