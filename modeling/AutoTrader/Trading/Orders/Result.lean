import AutoTrader.Trading.Orders.Fill

/-!
# Order statuses and exchange results

The normalized statuses and results of `domain/trading/order.py`.

* `OrderStatus` with `isActive`, `isTerminal` and the progress of active statuses.
* `OrderResult` — one observation of an order at the exchange.
* `resolveOrderStatus` — which status an order has after one more observation.
* `OrderStatus.Advances` — the order statuses are seen in: `UNKNOWN`, then the active
  ones by progress, then a terminal one that nothing follows.
* `resolveOrderStatus_eq_ok` — the resolved status is one of the two, and both the
  current and the observed status advance to it.
-/

namespace Trading

open Arithmetic

/-! ## Statuses -/

inductive OrderStatus where
  | unknown | pendingNew | new | partiallyFilled | pendingCancel
  | filled | canceled | rejected | expired | expiredInMatch
  deriving DecidableEq, Repr

/-- `str(status)`, which is how an f-string renders the member. -/
def OrderStatus.str : OrderStatus → String
  | .unknown => "OrderStatus.UNKNOWN"
  | .pendingNew => "OrderStatus.PENDING_NEW"
  | .new => "OrderStatus.NEW"
  | .partiallyFilled => "OrderStatus.PARTIALLY_FILLED"
  | .pendingCancel => "OrderStatus.PENDING_CANCEL"
  | .filled => "OrderStatus.FILLED"
  | .canceled => "OrderStatus.CANCELED"
  | .rejected => "OrderStatus.REJECTED"
  | .expired => "OrderStatus.EXPIRED"
  | .expiredInMatch => "OrderStatus.EXPIRED_IN_MATCH"

/-- `_ACTIVE_STATUS_PROGRESS`: the active statuses and how far each of them is. -/
def OrderStatus.activeProgress : OrderStatus → Option ℕ
  | .pendingNew => some 0
  | .new => some 1
  | .partiallyFilled => some 2
  | .pendingCancel => some 3
  | _ => none

/-- Membership in `ACTIVE_ORDER_STATUSES`. -/
def OrderStatus.isActive (status : OrderStatus) : Bool := status.activeProgress.isSome

/-- Membership in `TERMINAL_ORDER_STATUSES`. -/
def OrderStatus.isTerminal : OrderStatus → Bool
  | .filled | .canceled | .rejected | .expired | .expiredInMatch => true
  | _ => false

/-- The observed status is an earlier active one than the current status. -/
def OrderStatus.regresses (current observed : OrderStatus) : Bool :=
  match observed.activeProgress, current.activeProgress with
  | some seen, some reached => decide (seen < reached)
  | _, _ => false

/-- `_resolve_order_status`: terminal statuses stay, unknown ones say nothing, active
ones only go forward. -/
def resolveOrderStatus (current? : Option OrderStatus) (observed : OrderStatus) :
    Except TradingError OrderStatus :=
  match current? with
  | none => .ok observed
  | some current =>
    if current.isTerminal then
      if observed = current ∨ observed = .unknown then .ok current
      else if ¬ observed.isTerminal then .ok current
      else .error (.valueError ("terminal status cannot change from " ++ current.str ++ " to " ++
        observed.str))
    else if observed = .unknown then .ok current
    else if current = .unknown then .ok observed
    else if current.regresses observed then .ok current
    else .ok observed

/-! ## The order statuses are seen in -/

namespace OrderStatus

/-- How late a status is: nothing known, then the active ones, then the terminal ones. -/
def rank : OrderStatus → ℕ
  | .unknown => 0
  | .pendingNew => 1
  | .new => 2
  | .partiallyFilled => 3
  | .pendingCancel => 4
  | _ => 5

/-- `next` is `status` itself or a later status. -/
def Advances (status next : OrderStatus) : Prop := status = next ∨ status.rank < next.rank

instance (status next : OrderStatus) : Decidable (Advances status next) :=
  inferInstanceAs (Decidable (_ ∨ _))

@[refl] theorem Advances.refl (status : OrderStatus) : Advances status status := .inl rfl

theorem Advances.trans {a b c : OrderStatus} (hab : Advances a b) (hbc : Advances b c) :
    Advances a c := by
  rcases hab with rfl | hab
  · exact hbc
  rcases hbc with rfl | hbc
  · exact .inr hab
  · exact .inr (hab.trans hbc)

theorem Advances.antisymm {a b : OrderStatus} (hab : Advances a b) (hba : Advances b a) :
    a = b := by
  rcases hab with rfl | hab
  · rfl
  rcases hba with rfl | hba
  · rfl
  · omega

/-- Nothing follows a terminal status. -/
theorem Advances.eq_of_isTerminal {a b : OrderStatus} (h : Advances a b)
    (ha : a.isTerminal = true) : b = a := by
  revert h ha
  cases a <;> cases b <;> decide

/-- Along statuses that advance, an active status never goes back to an earlier one. -/
theorem Advances.activeProgress_le {a b : OrderStatus} {m n : ℕ} (h : Advances a b)
    (ha : a.activeProgress = some m) (hb : b.activeProgress = some n) : m ≤ n := by
  rcases h with rfl | h
  · rw [ha] at hb
    exact le_of_eq (Option.some.inj hb)
  · cases a <;> cases b <;> simp_all [activeProgress, rank] <;> omega

/-- `UNKNOWN` says nothing that any status would contradict. -/
theorem unknown_advances (status : OrderStatus) : Advances .unknown status := by
  cases status <;> decide

/-- A status that is not terminal comes before every terminal one. -/
theorem advances_of_isTerminal {a b : OrderStatus} (ha : ¬ a.isTerminal) (hb : b.isTerminal) :
    Advances a b := by
  revert ha hb
  cases a <;> cases b <;> decide

theorem advances_of_regresses {current observed : OrderStatus}
    (h : current.regresses observed = true) : observed.Advances current := by
  revert h
  cases current <;> cases observed <;> decide

/-- From an active status every observation that does not regress is an advance. -/
theorem advances_of_not_regresses {current observed : OrderStatus} (hc : ¬ current.isTerminal)
    (hcu : current ≠ .unknown) (hou : observed ≠ .unknown) (h : ¬ current.regresses observed) :
    current.Advances observed := by
  revert hc hcu hou h
  cases current <;> cases observed <;> decide

end OrderStatus

/-- The optional current status advances to `next`; before the first result every
status does. -/
def StatusAdvances (current? : Option OrderStatus) (next : OrderStatus) : Prop :=
  ∀ current ∈ current?, current.Advances next

/-- The resolved status is one of the current and the observed status, and both
advance to it. -/
theorem resolveOrderStatus_eq_ok {current? : Option OrderStatus} {observed next : OrderStatus}
    (h : resolveOrderStatus current? observed = .ok next) :
    StatusAdvances current? next ∧ observed.Advances next ∧
      (current? = some next ∨ observed = next) := by
  cases current? with
  | none =>
      cases h
      exact ⟨by simp [StatusAdvances], .refl _, .inr rfl⟩
  | some current =>
      simp only [StatusAdvances, Option.mem_some_iff, forall_eq', Option.some.injEq]
      simp only [resolveOrderStatus] at h
      split at h
      · rename_i hterminal
        split at h
        · rename_i hobserved
          cases h
          rcases hobserved with rfl | rfl
          · exact ⟨.refl _, .refl _, .inl rfl⟩
          · exact ⟨.refl _, OrderStatus.unknown_advances _, .inl rfl⟩
        · split at h
          · rename_i hobserved
            cases h
            exact ⟨.refl _, OrderStatus.advances_of_isTerminal hobserved hterminal, .inl rfl⟩
          · cases h
      · rename_i hterminal
        split at h
        · rename_i hobserved
          cases h
          rw [hobserved]
          exact ⟨.refl _, OrderStatus.unknown_advances _, .inl rfl⟩
        · rename_i hobserved
          split at h
          · rename_i hcurrent
            cases h
            rw [hcurrent]
            exact ⟨OrderStatus.unknown_advances _, .refl _, .inr rfl⟩
          · rename_i hcurrent
            split at h
            · rename_i hregress
              cases h
              exact ⟨.refl _, OrderStatus.advances_of_regresses hregress, .inl rfl⟩
            · rename_i hregress
              cases h
              exact ⟨OrderStatus.advances_of_not_regresses hterminal hcurrent hobserved hregress,
                .refl _, .inr rfl⟩

/-! ## Results -/

inductive OrderResultFailureKind where
  | submissionRejected | orderNotVisible | notSubmittedExpired
  deriving DecidableEq, Repr

/-- The only supported product. -/
def supportedSymbol : String := "ETHUSDT"

/-- The fields of an exchange result. -/
structure OrderResultFields (ctx : DecimalContext) where
  symbol : String := supportedSymbol
  clientOrderId : String
  status : OrderStatus
  processedAt : Timestamp
  exchangeOrderId : Option String := none
  fills : List (Fill ctx) := []
  failureReason : Option String := none
  failureKind : Option OrderResultFailureKind := none
  retryAfter : Option Duration := none
  deriving DecidableEq

section Results

variable {ctx : DecimalContext}

/-- The typed failures only come with the statuses they may explain. -/
def OrderResultFields.validateFailure (result : OrderResultFields ctx) :
    Except TradingError Unit :=
  match result.failureKind with
  | none => .ok ()
  | some .submissionRejected =>
      Except.require (result.status = .rejected ∧ result.fills = [])
        (.valueError "SUBMISSION_REJECTED requires a fill-free REJECTED result")
  | some .orderNotVisible =>
      Except.require (result.status = .unknown ∧ result.fills = [])
        (.valueError "ORDER_NOT_VISIBLE requires a fill-free UNKNOWN result")
  | some .notSubmittedExpired =>
      Except.require (result.status = .rejected ∧ result.fills = [] ∧
          result.exchangeOrderId = none)
        (.valueError
          "NOT_SUBMITTED_EXPIRED requires a fill-free REJECTED result without an exchange ID")

/-- `__post_init__` of a result. -/
def OrderResultFields.validate (result : OrderResultFields ctx) : Except TradingError Unit := do
  Except.require (result.symbol = supportedSymbol) (.valueError "symbol must be ETHUSDT")
  Except.require (result.fills = [] ∨ result.exchangeOrderId ≠ none)
    (.valueError "fills require exchange_order_id")
  Except.require (∀ fill ∈ result.fills, some fill.exchangeOrderId = result.exchangeOrderId)
    (.valueError "every fill must belong to exchange_order_id")
  result.validateFailure
  Except.require (∀ delay ∈ result.retryAfter, (0 : Duration) ≤ delay)
    (.valueError "retry_after must be non-negative")

/-- An exchange result its constructor accepts. -/
structure OrderResult (ctx : DecimalContext) extends OrderResultFields ctx where
  valid : toOrderResultFields.validate = .ok ()
  deriving DecidableEq

/-- The constructor of a result. -/
def OrderResultFields.create (result : OrderResultFields ctx) :
    Except TradingError (OrderResult ctx) :=
  match h : result.validate with
  | .ok () => .ok ⟨result, h⟩
  | .error error => .error error

theorem OrderResultFields.validate_eq_ok_iff {result : OrderResultFields ctx} :
    result.validate = .ok () ↔ result.symbol = supportedSymbol ∧
      (result.fills = [] ∨ result.exchangeOrderId ≠ none) ∧
      (∀ fill ∈ result.fills, some fill.exchangeOrderId = result.exchangeOrderId) ∧
      result.validateFailure = .ok () ∧ ∀ delay ∈ result.retryAfter, (0 : Duration) ≤ delay := by
  simp only [validate, Except.require_bind_eq_ok_iff]
  constructor
  · rintro ⟨hsymbol, hid, hfills, h⟩
    obtain ⟨_, hfailure, h⟩ := Except.bind_eq_ok_iff.mp h
    exact ⟨hsymbol, hid, hfills, hfailure, Except.require_eq_ok_iff.mp h⟩
  · rintro ⟨hsymbol, hid, hfills, hfailure, hdelay⟩
    refine ⟨hsymbol, hid, hfills, ?_⟩
    rw [hfailure, Except.ok_bind]
    exact Except.require_eq_ok_iff.mpr hdelay

namespace OrderResult

theorem symbol_supported (result : OrderResult ctx) : result.symbol = supportedSymbol :=
  (OrderResultFields.validate_eq_ok_iff.mp result.valid).1

/-- Every fill of a result carries the result's exchange order ID. -/
theorem fills_belong (result : OrderResult ctx) :
    ∀ fill ∈ result.fills, some fill.exchangeOrderId = result.exchangeOrderId :=
  (OrderResultFields.validate_eq_ok_iff.mp result.valid).2.2.1

end OrderResult

end Results

end Trading
