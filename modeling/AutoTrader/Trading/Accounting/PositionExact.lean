import AutoTrader.Arithmetic.AverageCost
import AutoTrader.Trading.Accounting.Residual

/-!
# The position in exact arithmetic

What the position's operations do to quantity and cost when nothing is rounded.  Both
the restart replay and the comparison of live and restart accounting rest on these.

* `PositionStateSnapshot.open_facts`, `closed_facts` — what a valid state satisfies.
* `allocateCost_exact` — the allocated cost is the proportional share.
* `buyState_exact`, `sellState_all`, `sellState_part` — the effect of a purchase and of a sale.
* `Position.applyHistoricalTrade_buy`, `Position.applyHistoricalTrade_sell` — the effect of a
  stored trade.
-/

namespace Trading

open Arithmetic

/-- Exact arithmetic. -/
abbrev exact : DecimalContext := DecimalContext.exact

@[simp] theorem exact_sub (a b : ℚ) : exact.sub a b = a - b := rfl
@[simp] theorem exact_mul (a b : ℚ) : exact.mul a b = a * b := rfl
@[simp] theorem exact_div (a b : ℚ) : exact.div a b = a / b := rfl

/-! ## Valid states -/

section States

variable {ctx : DecimalContext}

theorem PositionStateFields.create_eq_ok {fields : PositionStateFields}
    {state : PositionStateSnapshot ctx} (h : fields.create ctx = .ok state) :
    state.toPositionStateFields = fields := by
  unfold create at h
  split at h
  · cases h; rfl
  · cases h

namespace PositionStateSnapshot

theorem nonneg (state : PositionStateSnapshot ctx) : 0 ≤ state.quantity ∧ 0 ≤ state.costBasis := by
  have h := state.valid
  simp only [PositionStateFields.validate, Except.require_bind_eq_ok_iff] at h
  exact ⟨h.2.1, h.2.2.2.1⟩

/-- An open state holds a positive quantity at a positive cost. -/
theorem open_facts {state : PositionStateSnapshot ctx} (h : state.status = .open) :
    0 < state.quantity ∧ 0 < state.costBasis ∧
      state.averageEntryPrice = ctx.div state.costBasis state.quantity := by
  have hvalid := state.valid
  simp only [PositionStateFields.validate, PositionStateFields.validateOpen,
    Except.require_bind_eq_ok_iff, h] at hvalid
  obtain ⟨-, -, -, -, -, -, hquantity, hcost, -, -, -, haverage⟩ := hvalid
  exact ⟨hquantity, hcost, Except.require_eq_ok_iff.mp haverage⟩

/-- A closed state holds nothing. -/
theorem closed_facts {state : PositionStateSnapshot ctx} (h : state.status = .closed) :
    state.quantity = 0 ∧ state.costBasis = 0 ∧ state.averageEntryPrice = 0 ∧
      state.entryExecutedQuantity = 0 ∧ state.entryExecutedAmount = 0 ∧ state.owner = none := by
  have hvalid := state.valid
  simp only [PositionStateFields.validate, PositionStateFields.validateClosed,
    Except.require_bind_eq_ok_iff, h] at hvalid
  obtain ⟨-, -, -, -, -, -, hquantity, hcost, haverage, hentry, howner, -⟩ := hvalid
  exact ⟨hquantity, hcost, haverage, hentry.1, hentry.2, howner⟩

end PositionStateSnapshot

end States

/-! ## Purchases and sales -/

variable {state next : PositionStateSnapshot exact}

/-- The ETH a stored purchase brought. -/
def netQuantity (trade : Trade exact) : ℚ :=
  if trade.schemaVersion = .v1 then trade.executedQuantity
  else trade.executedQuantity - trade.baseFeeAmount

/-- What a stored purchase cost. -/
def acquisitionCost (trade : Trade exact) : ℚ :=
  trade.executedAmount + Position.historicalAcquisitionFee trade

theorem historicalAcquiredQuantity_exact {trade : Trade exact} {q : ℚ}
    (h : Position.historicalAcquiredQuantity trade = .ok q) : q = netQuantity trade := by
  unfold Position.historicalAcquiredQuantity at h
  unfold netQuantity
  split at h
  · rename_i hlegacy
    cases h
    rw [if_pos hlegacy]
  · rename_i hlegacy
    obtain ⟨_, -, h⟩ := Except.bind_eq_ok_iff.mp h
    cases h
    rw [if_neg hlegacy]
    rfl

theorem buyState_exact {strategy : StrategyType} {acquired quantity amount fee : ℚ}
    {time : Timestamp} (h : buyState state strategy acquired quantity amount fee time = .ok next) :
    next.toPositionStateFields = {
      symbol := state.symbol
      owner := some strategy
      quantity := state.quantity + acquired
      averageEntryPrice := (state.costBasis + amount + fee) / (state.quantity + acquired)
      costBasis := state.costBasis + amount + fee
      enteredAt := state.enteredAt.or (some time)
      status := .open
      exitReason := none
      entryExecutedQuantity := state.entryExecutedQuantity + quantity
      entryExecutedAmount := state.entryExecutedAmount + amount } := by
  obtain ⟨_, -, h⟩ := Except.bind_eq_ok_iff.mp h
  exact PositionStateFields.create_eq_ok h

/-- The allocated cost is the proportional share of the lot's cost. -/
theorem allocateCost_exact (hq : state.quantity ≠ 0) (sold : ℚ) :
    allocateCost state sold = taken state.quantity sold state.costBasis := by
  unfold allocateCost
  split
  · rename_i hall
    rw [hall, taken_self hq]
  · rfl

/-- A sale that sells the lot out closes the state. -/
theorem sellState_all {sold allocated : ℚ} {reason : Option ExitReason}
    (h : sellState state sold allocated reason = .ok next) (hall : sold = state.quantity) :
    next = closedState exact reason := by
  unfold sellState at h
  rw [if_pos (by rw [exact_sub, hall, sub_self])] at h
  cases h
  rfl

/-- A partial sale leaves the proportional rest of every value. -/
theorem sellState_part {sold : ℚ} {reason : Option ExitReason} (hq : state.quantity ≠ 0)
    (h : sellState state sold (allocateCost state sold) reason = .ok next)
    (hpart : sold ≠ state.quantity) :
    next.toPositionStateFields = {
      symbol := state.symbol
      owner := state.owner
      quantity := state.quantity - sold
      averageEntryPrice :=
        kept state.quantity sold state.costBasis / (state.quantity - sold)
      costBasis := kept state.quantity sold state.costBasis
      enteredAt := state.enteredAt
      status := .open
      exitReason := reason
      entryExecutedQuantity := kept state.quantity sold state.entryExecutedQuantity
      entryExecutedAmount := kept state.quantity sold state.entryExecutedAmount } := by
  unfold sellState at h
  rw [if_neg (by rw [exact_sub, sub_eq_zero]; exact hpart.symm)] at h
  rw [PositionStateFields.create_eq_ok h]
  simp only [exact_sub, exact_mul, exact_div, allocateCost_exact hq, sub_taken hq]
  rfl

/-- A sale takes its quantity and the cost allocated to it. -/
theorem sellState_balance {sold : ℚ} {reason : Option ExitReason} (hq : state.quantity ≠ 0)
    (h : sellState state sold (allocateCost state sold) reason = .ok next) :
    next.quantity = state.quantity - sold ∧
      next.costBasis = state.costBasis - allocateCost state sold := by
  by_cases hall : sold = state.quantity
  · rw [sellState_all h hall, allocateCost, if_pos hall, hall, sub_self, sub_self]
    exact ⟨rfl, rfl⟩
  · have hnext := sellState_part hq h hall
    rw [allocateCost_exact hq, sub_taken hq]
    exact ⟨by rw [hnext], by rw [hnext]⟩

/-! ## Stored trades -/

namespace Position

variable {position after : Position exact} {trade : Trade exact} {rq rc : ℚ}

/-- A stored purchase adds its net quantity and its cost. -/
theorem applyHistoricalTrade_buy (hside : trade.side = .buy)
    (h : position.applyHistoricalTrade trade rq rc = .ok after) :
    after.state.quantity = position.state.quantity + netQuantity trade ∧
      after.state.costBasis = position.state.costBasis + acquisitionCost trade := by
  simp only [applyHistoricalTrade, hside, Except.require_bind_eq_ok_iff] at h
  obtain ⟨-, -, -, -, h⟩ := h
  obtain ⟨_, -, h⟩ := Except.bind_eq_ok_iff.mp h
  obtain ⟨acquired, hacquired, h⟩ := Except.bind_eq_ok_iff.mp h
  obtain ⟨state, hstate, h⟩ := Except.bind_eq_ok_iff.mp h
  cases h
  have hnext := buyState_exact hstate
  rw [historicalAcquiredQuantity_exact hacquired] at hnext
  refine ⟨by rw [hnext], ?_⟩
  rw [hnext, acquisitionCost]
  ring

/-- A stored sale takes the sold part of the lot and the cost allocated to it. -/
theorem applyHistoricalTrade_sell (hside : trade.side = .sell)
    (h : position.applyHistoricalTrade trade rq rc = .ok after) :
    after.state.quantity = position.state.quantity - (trade.executedQuantity - rq) ∧
      after.state.costBasis =
        position.state.costBasis - allocateCost position.state (trade.executedQuantity - rq) := by
  simp only [applyHistoricalTrade, applyHistoricalSell, hside, Except.require_bind_eq_ok_iff] at h
  obtain ⟨-, -, -, -, -, hopen, -, -, -, -, h⟩ := h
  obtain ⟨state, hstate, h⟩ := Except.bind_eq_ok_iff.mp h
  cases h
  have hq := (PositionStateSnapshot.open_facts hopen).1.ne'
  exact sellState_balance hq hstate

end Position

end Trading
