import AutoTrader.Arithmetic.Rounding
import AutoTrader.Trading.Events

/-!
# The risk gate of entry orders

`domain/trading/risk.py`: the policy, the budget of one decision and its evaluation.

* `RiskPolicy` — the limits; a missing limit is none at all.
* `RiskBudgetFields`, `RiskBudgetSnapshot` — what a decision is based on, first bare and then
  with the checks of its constructor passed.
* `evaluateBuyRisk` — the checks in their order, with the first reason to block.
* `evaluateBuyRisk_allowed` — what an allowed decision has checked.
-/

namespace Trading

open Arithmetic

/-- Which results count as the loss of a day. -/
inductive DailyLossScope where
  | realizedOnly | realizedAndUnrealized
  deriving DecidableEq, Repr

/-- A configured policy; every limit it has is positive. -/
structure RiskPolicy where
  version : ℤ
  maxOrderNotional : Option ℚ
  maxPositionNotional : Option ℚ
  maxDailyLoss : Option ℚ
  dailyLossScope : DailyLossScope
  version_pos : 1 ≤ version
  order_pos : ∀ limit ∈ maxOrderNotional, 0 < limit
  position_pos : ∀ limit ∈ maxPositionNotional, 0 < limit
  loss_pos : ∀ limit ∈ maxDailyLoss, 0 < limit
  deriving DecidableEq

/-! ## The budget -/

/-- The fields of `RiskBudgetSnapshot`. -/
structure RiskBudgetFields where
  policyVersion : Option ℤ
  marketVersion : ℕ
  accountVersion : ℕ
  contextVersion : ℕ
  currentPositionNotional : ℚ
  reservedBuyNotional : ℚ
  candidateOrderNotional : ℚ
  projectedPositionNotional : ℚ
  dailyRealizedPnl : ℚ
  unrealizedPnl : ℚ
  dailyLoss : ℚ
  manualKillActive : Bool
  evaluatedAt : Option Timestamp := none
  strategyPositionNotional : Option ℚ := none
  residualPositionNotional : Option ℚ := none
  remainingPositionNotional : Option ℚ := none
  requestedOrderNotional : Option ℚ := none
  maxPositionNotional : Option ℚ := none

variable (ctx : DecimalContext)

/-- `_require_finite_decimal` with `non_negative`. -/
def requireNonNegative (fieldName : String) (value : ℚ) : Except TradingError Unit :=
  Except.require (0 ≤ value) (.valueError (fieldName ++ " must not be negative"))

/-- The same for an optional field. -/
def requireOptionalNonNegative (fieldName : String) : Option ℚ → Except TradingError Unit
  | none => .ok ()
  | some value => requireNonNegative fieldName value

/-- What is left of the limit of the position. -/
def RiskBudgetFields.remaining (budget : RiskBudgetFields) (maximum : ℚ) : ℚ :=
  max 0 (ctx.sub (ctx.sub maximum budget.currentPositionNotional) budget.reservedBuyNotional)

/-- The checks on the parts of the position and on what is left of its limit. -/
def RiskBudgetFields.validateBreakdown (budget : RiskBudgetFields) : Except TradingError Unit := do
  Except.require (budget.strategyPositionNotional.isNone = budget.residualPositionNotional.isNone)
    (.valueError "position breakdown must be supplied together")
  Except.require (∀ strategy ∈ budget.strategyPositionNotional,
      ∀ residual ∈ budget.residualPositionNotional,
        ctx.add strategy residual = budget.currentPositionNotional)
    (.valueError "position breakdown must equal current position notional")
  Except.require (∀ remaining ∈ budget.remainingPositionNotional,
      ∃ maximum ∈ budget.maxPositionNotional, remaining = budget.remaining ctx maximum)
    (.valueError "remaining position budget is inconsistent")

/-- `__post_init__` of a budget. -/
def RiskBudgetFields.validate (budget : RiskBudgetFields) : Except TradingError Unit := do
  Except.require (∀ version ∈ budget.policyVersion, 1 ≤ version)
    (.valueError "policy_version must be at least 1")
  requireNonNegative "current_position_notional" budget.currentPositionNotional
  requireNonNegative "reserved_buy_notional" budget.reservedBuyNotional
  requireNonNegative "candidate_order_notional" budget.candidateOrderNotional
  requireNonNegative "projected_position_notional" budget.projectedPositionNotional
  requireNonNegative "daily_loss" budget.dailyLoss
  Except.require (budget.projectedPositionNotional =
      ctx.add (ctx.add budget.currentPositionNotional budget.reservedBuyNotional)
        budget.candidateOrderNotional)
    (.valueError "projected_position_notional must equal current, reserved, and candidate notionals")
  requireOptionalNonNegative "strategy_position_notional" budget.strategyPositionNotional
  requireOptionalNonNegative "residual_position_notional" budget.residualPositionNotional
  requireOptionalNonNegative "remaining_position_notional" budget.remainingPositionNotional
  requireOptionalNonNegative "requested_order_notional" budget.requestedOrderNotional
  requireOptionalNonNegative "max_position_notional" budget.maxPositionNotional
  budget.validateBreakdown ctx

/-- A budget its constructor accepts. -/
structure RiskBudgetSnapshot extends RiskBudgetFields where
  valid : toRiskBudgetFields.validate ctx = .ok ()

/-- The constructor: the bare record becomes a budget or raises. -/
def RiskBudgetFields.create (budget : RiskBudgetFields) :
    Except TradingError (RiskBudgetSnapshot ctx) :=
  match h : budget.validate ctx with
  | .ok () => .ok ⟨budget, h⟩
  | .error error => .error error

variable {ctx}

theorem RiskBudgetFields.create_eq_ok {budget : RiskBudgetFields} {snapshot : RiskBudgetSnapshot ctx}
    (h : budget.create ctx = .ok snapshot) : snapshot.toRiskBudgetFields = budget := by
  unfold RiskBudgetFields.create at h
  split at h
  · cases h
    rfl
  · cases h

/-! ## The decision -/

/-- A decision with its budget; one that blocks has the first reason. -/
structure RiskDecision (ctx : DecimalContext) where
  blockReason : Option RiskBlockReason
  budget : RiskBudgetSnapshot ctx

/-- The order may be submitted. -/
def RiskDecision.allowed (decision : RiskDecision ctx) : Bool := decision.blockReason.isNone

/-- `_calculate_daily_loss`. -/
def calculateDailyLoss (ctx : DecimalContext) (scope : DailyLossScope)
    (dailyRealizedPnl unrealizedPnl : ℚ) : ℚ :=
  let scopedPnl :=
    match scope with
    | .realizedOnly => dailyRealizedPnl
    | .realizedAndUnrealized => ctx.add dailyRealizedPnl unrealizedPnl
  max (-scopedPnl) 0

/-- A value is above a limit, if there is one. -/
def exceeds (limit : Option ℚ) (value : ℚ) : Bool := limit.any fun maximum => decide (maximum < value)

theorem exceeds_eq_false {limit : Option ℚ} {value : ℚ} :
    exceeds limit value = false ↔ ∀ maximum ∈ limit, value ≤ maximum := by
  cases limit with
  | none => exact iff_of_true rfl nofun
  | some maximum => simp [exceeds]

/-- The first reason of a configured policy to block. -/
def policyBlockReason (policy : RiskPolicy) (budget : RiskBudgetSnapshot ctx) :
    Except TradingError (Option RiskBlockReason) :=
  if budget.policyVersion ≠ some policy.version then .ok (some .riskPolicyVersionMismatch)
  else if budget.manualKillActive then .ok (some .manualKillSwitchActive)
  else if exceeds policy.maxOrderNotional budget.candidateOrderNotional then
    .ok (some .riskOrderNotionalExceeded)
  else if budget.dailyLoss ≠
      calculateDailyLoss ctx policy.dailyLossScope budget.dailyRealizedPnl budget.unrealizedPnl then
    .error (.valueError "daily_loss must match the configured daily_loss_scope")
  else if policy.maxDailyLoss.any (fun maximum => decide (maximum ≤ budget.dailyLoss)) then
    .ok (some .riskDailyLossExceeded)
  else if exceeds policy.maxPositionNotional budget.projectedPositionNotional then
    .ok (some .riskPositionNotionalExceeded)
  else .ok none

/-- `evaluate_buy_risk`; a policy that is not configured blocks. -/
def evaluateBuyRisk (policyState : Option RiskPolicy) (budget : RiskBudgetSnapshot ctx) :
    Except TradingError (RiskDecision ctx) :=
  match policyState with
  | none => .ok ⟨some .riskPolicyUnavailable, budget⟩
  | some policy => (policyBlockReason policy budget).map (⟨·, budget⟩)

/-- What an allowed decision has checked. -/
theorem evaluateBuyRisk_allowed {policyState : Option RiskPolicy}
    {budget : RiskBudgetSnapshot ctx} {decision : RiskDecision ctx}
    (h : evaluateBuyRisk policyState budget = .ok decision) (hallowed : decision.allowed = true) :
    ∃ policy, policyState = some policy ∧ budget.policyVersion = some policy.version ∧
      budget.manualKillActive = false ∧
      (∀ limit ∈ policy.maxOrderNotional, budget.candidateOrderNotional ≤ limit) ∧
      ∀ limit ∈ policy.maxPositionNotional, budget.projectedPositionNotional ≤ limit := by
  unfold evaluateBuyRisk at h
  split at h
  · cases h
    cases hallowed
  rename_i policy
  obtain ⟨reason, hreason, heq⟩ := Except.map_eq_ok_iff.mp h
  subst heq
  have hnone : reason = none := Option.isNone_iff_eq_none.mp hallowed
  subst hnone
  unfold policyBlockReason at hreason
  split at hreason
  · cases hreason
  rename_i hversion
  split at hreason
  · cases hreason
  rename_i hkill
  split at hreason
  · cases hreason
  rename_i horder
  split at hreason
  · cases hreason
  split at hreason
  · cases hreason
  split at hreason
  · cases hreason
  rename_i hposition
  exact ⟨policy, rfl, not_not.mp hversion, Bool.not_eq_true _ ▸ hkill,
    exceeds_eq_false.mp (Bool.not_eq_true _ ▸ horder),
    exceeds_eq_false.mp (Bool.not_eq_true _ ▸ hposition)⟩

/-- Within its limits an order is not blocked for exceeding them. -/
theorem evaluateBuyRisk_within {policyState : Option RiskPolicy} {budget : RiskBudgetSnapshot ctx}
    {decision : RiskDecision ctx} (h : evaluateBuyRisk policyState budget = .ok decision)
    (hlimits : ∀ policy ∈ policyState,
      (∀ limit ∈ policy.maxOrderNotional, budget.candidateOrderNotional ≤ limit) ∧
      ∀ limit ∈ policy.maxPositionNotional, budget.projectedPositionNotional ≤ limit) :
    decision.blockReason ≠ some .riskOrderNotionalExceeded ∧
      decision.blockReason ≠ some .riskPositionNotionalExceeded := by
  unfold evaluateBuyRisk at h
  split at h
  · cases h
    simp
  rename_i policy
  obtain ⟨horder, hposition⟩ := hlimits policy rfl
  rw [← exceeds_eq_false] at horder hposition
  obtain ⟨reason, hreason, heq⟩ := Except.map_eq_ok_iff.mp h
  subst heq
  unfold policyBlockReason at hreason
  rw [horder, hposition] at hreason
  split at hreason
  · cases hreason
    simp
  split at hreason
  · cases hreason
    simp
  rw [if_neg (by simp)] at hreason
  split at hreason
  · cases hreason
  split at hreason
  · cases hreason
    simp
  rw [if_neg (by simp)] at hreason
  cases hreason
  simp

end Trading
