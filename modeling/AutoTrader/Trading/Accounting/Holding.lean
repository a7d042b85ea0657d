import AutoTrader.Trading.Accounting.PositionExact

/-!
# Holdings

What a position is for: a quantity of ETH, what it cost and whose it is.  A holding
changes by flows, and a flow may arrive at once or in parts.

* `FillFlow`, `flow` — what some fills bring or take, whatever their sequence.
* `Holding` with `buy` and `sell` — the purpose of a position, in exact arithmetic.
* `Holding.buy_buy`, `Holding.sell_sell` — parts amount to the whole.
* `Position.applyExecution_buy`, `applyExecution_sell` — the live path follows it.
* `Position.applyHistoricalTrade_eq_ok_of_buy`, `…_of_sell` — so does the restart path,
  which accepts what the live path accepted.
-/

namespace Trading

open Arithmetic

/-! ## Flows -/

/-- The amounts that some fills move. -/
@[ext] structure FillFlow where
  quantity : ℚ
  amount : ℚ
  baseFee : ℚ
  otherFee : ℚ

/-- Two flows together. -/
def FillFlow.add (f g : FillFlow) : FillFlow where
  quantity := f.quantity + g.quantity
  amount := f.amount + g.amount
  baseFee := f.baseFee + g.baseFee
  otherFee := f.otherFee + g.otherFee

/-- The flow of a list of fills. -/
def flow (fills : List (Fill exact)) : FillFlow where
  quantity := (fills.map (·.quantity)).sum
  amount := (fills.map Fill.executedAmount).sum
  baseFee := ((fills.filter fun fill => decide (fill.feeAsset = .eth)).map (·.feeAmount)).sum
  otherFee :=
    ((fills.filter fun fill => decide (fill.feeAsset ≠ .eth)).map (·.feeQuoteAmount)).sum

theorem flow_append (xs ys : List (Fill exact)) : flow (xs ++ ys) = (flow xs).add (flow ys) := by
  simp only [flow, FillFlow.add, List.map_append, List.filter_append, List.sum_append]

/-- The sequence of the fills makes no difference. -/
theorem flow_perm {xs ys : List (Fill exact)} (h : xs.Perm ys) : flow xs = flow ys := by
  unfold flow
  rw [(h.map _).sum_eq, (h.map _).sum_eq, ((h.filter _).map _).sum_eq,
    ((h.filter _).map _).sum_eq]

theorem flow_quantity_pos {fills : List (Fill exact)} (h : fills ≠ []) :
    0 < (flow fills).quantity := by
  obtain ⟨first, rest, rfl⟩ := List.exists_cons_of_ne_nil h
  have hrest : 0 ≤ (rest.map (·.quantity)).sum :=
    List.sum_nonneg (quantities_nonneg rest)
  simp only [flow, List.map_cons, List.sum_cons]
  linarith [first.quantity_pos]

/-! ## Holdings -/

/-- What a position holds. -/
@[ext] structure Holding where
  owner : Option StrategyType
  status : PositionStatus
  quantity : ℚ
  costBasis : ℚ
  averageEntryPrice : ℚ
  entryExecutedQuantity : ℚ
  entryExecutedAmount : ℚ

/-- Nothing. -/
def Holding.nothing : Holding := ⟨none, .closed, 0, 0, 0, 0, 0⟩

/-- The holding after a purchase. -/
def Holding.buy (h : Holding) (strategy : StrategyType) (f : FillFlow) : Holding where
  owner := some strategy
  status := .open
  quantity := h.quantity + (f.quantity - f.baseFee)
  costBasis := h.costBasis + f.amount + f.otherFee
  averageEntryPrice :=
    (h.costBasis + f.amount + f.otherFee) / (h.quantity + (f.quantity - f.baseFee))
  entryExecutedQuantity := h.entryExecutedQuantity + f.quantity
  entryExecutedAmount := h.entryExecutedAmount + f.amount

/-- The holding after a sale: the proportional rest, or nothing. -/
def Holding.sell (h : Holding) (sold : ℚ) : Holding :=
  if sold = h.quantity then .nothing
  else
    { owner := h.owner
      status := .open
      quantity := h.quantity - sold
      costBasis := kept h.quantity sold h.costBasis
      averageEntryPrice := kept h.quantity sold h.costBasis / (h.quantity - sold)
      entryExecutedQuantity := kept h.quantity sold h.entryExecutedQuantity
      entryExecutedAmount := kept h.quantity sold h.entryExecutedAmount }

theorem Holding.sell_all {h : Holding} {sold : ℚ} (hall : sold = h.quantity) :
    h.sell sold = .nothing := if_pos hall

theorem Holding.sell_part {h : Holding} {sold : ℚ} (hpart : sold ≠ h.quantity) :
    h.sell sold =
      { owner := h.owner
        status := .open
        quantity := h.quantity - sold
        costBasis := kept h.quantity sold h.costBasis
        averageEntryPrice := kept h.quantity sold h.costBasis / (h.quantity - sold)
        entryExecutedQuantity := kept h.quantity sold h.entryExecutedQuantity
        entryExecutedAmount := kept h.quantity sold h.entryExecutedAmount } := if_neg hpart

/-- A purchase in two parts is one purchase. -/
theorem Holding.buy_buy (h : Holding) (strategy : StrategyType) (f g : FillFlow) :
    (h.buy strategy f).buy strategy g = h.buy strategy (f.add g) := by
  have hquantity : h.quantity + (f.quantity - f.baseFee) + (g.quantity - g.baseFee) =
      h.quantity + (f.quantity + g.quantity - (f.baseFee + g.baseFee)) := by ring
  have hcost : h.costBasis + f.amount + f.otherFee + g.amount + g.otherFee =
      h.costBasis + (f.amount + g.amount) + (f.otherFee + g.otherFee) := by ring
  ext <;> simp only [buy, FillFlow.add, hquantity, hcost] <;> ring

/-- A sale in two parts is one sale. -/
theorem Holding.sell_sell (h : Holding) {a : ℚ} (ha : a ≠ h.quantity) (b : ℚ) :
    (h.sell a).sell b = h.sell (a + b) := by
  have hrest : h.quantity - a ≠ 0 := sub_ne_zero.mpr (Ne.symm ha)
  have hall : b = h.quantity - a ↔ a + b = h.quantity := by
    constructor <;> intro heq <;> linarith
  simp only [sell, if_neg ha, hall]
  split
  · rfl
  · rw [kept_kept hrest, kept_kept hrest, kept_kept hrest,
      show h.quantity - a - b = h.quantity - (a + b) by ring]

/-- A sale takes its quantity and the share of the cost. -/
theorem Holding.sell_quantity_costBasis {h : Holding} (hq : h.quantity ≠ 0) (sold : ℚ) :
    (h.sell sold).quantity = h.quantity - sold ∧
      (h.sell sold).costBasis = h.costBasis - taken h.quantity sold h.costBasis := by
  by_cases hall : sold = h.quantity
  · rw [sell_all hall, hall, taken_self hq, sub_self, sub_self]
    exact ⟨rfl, rfl⟩
  · rw [sell_part hall, sub_taken hq]
    exact ⟨rfl, rfl⟩

/-! ## States and their holdings -/

/-- What a state holds. -/
def PositionStateFields.holding (state : PositionStateFields) : Holding where
  owner := state.owner
  status := state.status
  quantity := state.quantity
  costBasis := state.costBasis
  averageEntryPrice := state.averageEntryPrice
  entryExecutedQuantity := state.entryExecutedQuantity
  entryExecutedAmount := state.entryExecutedAmount

@[simp] theorem PositionStateFields.holding_quantity (state : PositionStateFields) :
    state.holding.quantity = state.quantity := rfl

theorem closedState_holding (reason : Option ExitReason) :
    (closedState exact reason).holding = .nothing := rfl

theorem PositionStateSnapshot.symbol_eq {ctx : DecimalContext}
    (state : PositionStateSnapshot ctx) : state.symbol = supportedSymbol := by
  have h := state.valid
  simp only [PositionStateFields.validate, Except.require_bind_eq_ok_iff] at h
  exact h.1

/-- An open state knows when it was entered. -/
theorem PositionStateSnapshot.enteredAt_ne_none {ctx : DecimalContext}
    {state : PositionStateSnapshot ctx} (h : state.status = .open) : state.enteredAt ≠ none := by
  have hvalid := state.valid
  simp only [PositionStateFields.validate, PositionStateFields.validateOpen,
    Except.require_bind_eq_ok_iff, h] at hvalid
  exact hvalid.2.2.2.2.2.2.2.2.2.2.1

/-- The constructor accepts an open state that holds what a valid state holds. -/
theorem PositionStateFields.create_of_holding (fields : PositionStateFields)
    (state : PositionStateSnapshot exact) (hsymbol : fields.symbol = supportedSymbol)
    (hopen : fields.status = .open) (hentered : fields.enteredAt ≠ none)
    (hholding : fields.holding = state.holding) :
    ∃ created, fields.create exact = .ok created ∧ created.toPositionStateFields = fields := by
  have hvalid : fields.validate exact = .ok () := by
    have hstate := state.valid
    simp only [holding, Holding.mk.injEq] at hholding
    obtain ⟨howner, hstatus, hquantity, hcost, haverage, hentryq, hentrya⟩ := hholding
    rw [hopen] at hstatus
    simp only [validate, validateOpen, Except.require_bind_eq_ok_iff, ← hstatus,
      ← howner, ← hquantity, ← hcost, ← haverage, ← hentryq, ← hentrya] at hstate
    simp only [validate, validateOpen, Except.require_bind_eq_ok_iff, hopen]
    obtain ⟨-, h1, h2, h3, h4, h5, h6, h7, h8, h9, -, h11⟩ := hstate
    exact ⟨hsymbol, h1, h2, h3, h4, h5, h6, h7, h8, h9, hentered, h11⟩
  refine ⟨⟨fields, hvalid⟩, ?_, rfl⟩
  unfold create
  split
  · rfl
  · rename_i error herror
    rw [hvalid] at herror
    cases herror

/-! ## The live path -/

/-- A summary that was built of fills, with their flow. -/
structure Summarizes (summary : ExecutionSummary exact) (fills : List (Fill exact)) : Prop where
  fills_eq : summary.fills = fills
  fills_ne_nil : fills ≠ []
  quantity_eq : summary.aggregate.executedQuantity = (flow fills).quantity
  amount_eq : summary.aggregate.executedAmount = (flow fills).amount

theorem Summarizes.baseFee_eq {summary : ExecutionSummary exact} {fills : List (Fill exact)}
    (h : Summarizes summary fills) : summary.baseFeeAmount = (flow fills).baseFee := by
  rw [ExecutionSummary.baseFeeAmount, ExecutionSummary.baseFees, h.fills_eq,
    DecimalContext.exact_sum]
  rfl

theorem Summarizes.otherFee_eq {summary : ExecutionSummary exact} {fills : List (Fill exact)}
    (h : Summarizes summary fills) : summary.nonBaseFeeQuoteAmount = (flow fills).otherFee := by
  rw [ExecutionSummary.nonBaseFeeQuoteAmount, ExecutionSummary.nonBaseFeeQuotes, h.fills_eq,
    DecimalContext.exact_sum]
  rfl

namespace Position

variable {position next : Position exact} {summary : ExecutionSummary exact}
  {fills : List (Fill exact)}

/-- A live purchase is a purchase of the fills' flow, by the owner of the position. -/
theorem applyExecution_buy (hsum : Summarizes summary fills) (hside : summary.side = .buy)
    (h : position.applyExecution summary = .ok next) :
    next.state.holding = position.state.holding.buy summary.strategy (flow fills) ∧
      next.legacyBaseFeeHistoryOpen = false ∧ position.legacyBaseFeeHistoryOpen = false ∧
      (∀ owner ∈ position.state.owner, owner = summary.strategy) ∧
      0 < (flow fills).quantity - (flow fills).baseFee := by
  simp only [applyExecution, requireHistoryAccountingCompatibility, hside,
    Except.require_bind_eq_ok_iff] at h
  obtain ⟨-, -, -, hlegacy, -, h⟩ := h
  obtain ⟨state, hstate, h⟩ := Except.bind_eq_ok_iff.mp h
  cases h
  obtain ⟨howner, hstate⟩ := Except.require_bind_eq_ok_iff.mp hstate
  obtain ⟨acquired, hacquired, hstate⟩ := Except.bind_eq_ok_iff.mp hstate
  obtain ⟨hpos, hacquired⟩ := Except.require_bind_eq_ok_iff.mp hacquired
  cases hacquired
  rw [exact_sub, hsum.quantity_eq, hsum.baseFee_eq] at hpos
  refine ⟨?_, hlegacy, hlegacy, howner, hpos⟩
  rw [buyState_exact hstate]
  simp only [PositionStateFields.holding, Holding.buy, exact_sub, hsum.quantity_eq,
    hsum.amount_eq, hsum.baseFee_eq, hsum.otherFee_eq]

/-- The effect of a sale on the holding. -/
theorem sellState_holding {state after : PositionStateSnapshot exact} {sold : ℚ}
    {reason : Option ExitReason} (hq : state.quantity ≠ 0)
    (h : sellState state sold (allocateCost state sold) reason = .ok after) :
    after.holding = state.holding.sell sold := by
  by_cases hall : sold = state.quantity
  · rw [sellState_all h hall, closedState_holding, Holding.sell_all hall]
  · rw [sellState_part hq h hall, Holding.sell_part hall]
    rfl

/-- A live sale is a sale of the fills' quantity, by the owner of the position, without a
fee in ETH. -/
theorem applyExecution_sell (hsum : Summarizes summary fills) (hside : summary.side = .sell)
    (h : position.applyExecution summary = .ok next) :
    next.state.holding = position.state.holding.sell (flow fills).quantity ∧
      next.legacyBaseFeeHistoryOpen = false ∧ position.legacyBaseFeeHistoryOpen = false ∧
      position.state.status = .open ∧ position.state.owner = some summary.strategy ∧
      (flow fills).quantity ≤ position.state.quantity ∧ (flow fills).baseFee ≤ 0 := by
  simp only [applyExecution, requireHistoryAccountingCompatibility, hside,
    Except.require_bind_eq_ok_iff] at h
  obtain ⟨-, -, -, hlegacy, -, h⟩ := h
  obtain ⟨state, hstate, h⟩ := Except.bind_eq_ok_iff.mp h
  cases h
  simp only [buildSellState, Except.require_bind_eq_ok_iff] at hstate
  obtain ⟨hfee, hopen, howner, hle, hstate⟩ := hstate
  obtain ⟨allocated, hallocated, hstate⟩ := Except.bind_eq_ok_iff.mp hstate
  simp only [getCostBasis, Except.require_bind_eq_ok_iff] at hallocated
  obtain ⟨-, -, -, hallocated⟩ := hallocated
  cases hallocated
  rw [hsum.quantity_eq] at hle hstate
  rw [hsum.baseFee_eq] at hfee
  have hq := (PositionStateSnapshot.open_facts hopen).1.ne'
  exact ⟨sellState_holding hq hstate, hlegacy, hlegacy, hopen, howner, hle, hfee⟩

/-! ## The restart path -/

variable {trade : Trade exact} {f : FillFlow}

/-- A stored trade of the application carries the flow of its order's fills. -/
structure Records (trade : Trade exact) (f : FillFlow) : Prop where
  symbol_eq : trade.symbol = supportedSymbol
  version_ne : trade.schemaVersion ≠ .v1
  quantity_eq : trade.executedQuantity = f.quantity
  amount_eq : trade.executedAmount = f.amount
  baseFee_eq : trade.baseFeeAmount = f.baseFee
  otherFee_eq : trade.nonBaseFeeQuoteAmount = f.otherFee

/-- A restart accepts a stored purchase that the live path accepted, and then holds the same. -/
theorem applyHistoricalTrade_eq_ok_of_buy (live : PositionStateSnapshot exact)
    (hrec : Records trade f) (hside : trade.side = .buy)
    (hlegacy : position.legacyBaseFeeHistoryOpen = false)
    (howner : ∀ owner ∈ position.state.owner, owner = trade.strategy)
    (hnet : 0 < f.quantity - f.baseFee)
    (hlive : live.holding = position.state.holding.buy trade.strategy f) :
    ∃ after, position.applyHistoricalTrade trade = .ok after ∧
      after.state.holding = live.holding ∧ after.legacyBaseFeeHistoryOpen = false := by
  have hquantity := position.state.nonneg.1
  let fields : PositionStateFields := {
    symbol := position.state.symbol
    owner := some trade.strategy
    quantity := position.state.quantity + (f.quantity - f.baseFee)
    averageEntryPrice := (position.state.costBasis + f.amount + f.otherFee) /
      (position.state.quantity + (f.quantity - f.baseFee))
    costBasis := position.state.costBasis + f.amount + f.otherFee
    enteredAt := position.state.enteredAt.or (some trade.executedAt)
    status := .open
    exitReason := none
    entryExecutedQuantity := position.state.entryExecutedQuantity + f.quantity
    entryExecutedAmount := position.state.entryExecutedAmount + f.amount }
  have hentered : fields.enteredAt ≠ none := by
    cases h : position.state.enteredAt <;> simp [fields, h]
  obtain ⟨created, hcreated, hfields⟩ := PositionStateFields.create_of_holding fields live
    (PositionStateSnapshot.symbol_eq _) rfl hentered hlive.symm
  refine ⟨⟨created, false⟩, ?_, by rw [hfields]; exact hlive.symm, rfl⟩
  simp only [applyHistoricalTrade, applyHistoricalBuy, Except.require_bind_eq_ok_iff, hside]
  refine ⟨by rw [hrec.symbol_eq, PositionStateSnapshot.symbol_eq], by simp, by simp,
    by simp [hlegacy], howner, ?_⟩
  refine Except.bind_eq_ok_iff.mpr ⟨f.quantity - f.baseFee, ?_, ?_⟩
  · rw [historicalAcquiredQuantity, if_neg hrec.version_ne, hrec.quantity_eq, hrec.baseFee_eq]
    exact Except.require_bind_eq_ok_iff.mpr ⟨hnet, rfl⟩
  · refine Except.bind_eq_ok_iff.mpr ⟨created, ?_, by simp [hlegacy, hrec.version_ne]⟩
    rw [historicalAcquisitionFee, if_neg hrec.version_ne, hrec.quantity_eq, hrec.amount_eq,
      hrec.otherFee_eq]
    refine Except.require_bind_eq_ok_iff.mpr ⟨?_, hcreated⟩
    have : 0 < position.state.quantity + (f.quantity - f.baseFee) := by linarith
    exact this.ne'

/-- A restart accepts a stored sale that the live path accepted, and then holds the same. -/
theorem applyHistoricalTrade_eq_ok_of_sell (live : PositionStateSnapshot exact)
    (hrec : Records trade f) (hside : trade.side = .sell)
    (hlegacy : position.legacyBaseFeeHistoryOpen = false)
    (hopen : position.state.status = .open) (howner : position.state.owner = some trade.strategy)
    (hfee : f.baseFee ≤ 0) (hpos : 0 < f.quantity) (hle : f.quantity ≤ position.state.quantity)
    (hlive : live.holding = position.state.holding.sell f.quantity) :
    ∃ after, position.applyHistoricalTrade trade = .ok after ∧
      after.state.holding = live.holding ∧ after.legacyBaseFeeHistoryOpen = false := by
  have hq := (PositionStateSnapshot.open_facts hopen).1.ne'
  obtain ⟨created, hcreated, hholding⟩ : ∃ created,
      sellState position.state f.quantity (allocateCost position.state f.quantity)
        trade.exitReason = .ok created ∧ created.holding = live.holding := by
    by_cases hall : f.quantity = position.state.quantity
    · refine ⟨closedState exact trade.exitReason, ?_, ?_⟩
      · unfold sellState
        rw [if_pos (by rw [exact_sub, hall, sub_self])]
      · rw [hlive, Holding.sell_all hall, closedState_holding]
    · unfold sellState
      rw [if_neg (by rw [exact_sub, sub_eq_zero]; exact Ne.symm hall)]
      have hsold := hlive
      rw [Holding.sell_part hall] at hsold
      obtain ⟨created, hcreated, hfields⟩ := PositionStateFields.create_of_holding
        { symbol := position.state.symbol
          owner := position.state.owner
          quantity := position.state.quantity - f.quantity
          averageEntryPrice := kept position.state.quantity f.quantity position.state.costBasis /
            (position.state.quantity - f.quantity)
          costBasis := kept position.state.quantity f.quantity position.state.costBasis
          enteredAt := position.state.enteredAt
          status := .open
          exitReason := trade.exitReason
          entryExecutedQuantity :=
            kept position.state.quantity f.quantity position.state.entryExecutedQuantity
          entryExecutedAmount :=
            kept position.state.quantity f.quantity position.state.entryExecutedAmount } live
        (PositionStateSnapshot.symbol_eq _) rfl (PositionStateSnapshot.enteredAt_ne_none hopen)
        hsold.symm
      refine ⟨created, ?_, by rw [hfields]; exact hsold.symm⟩
      simp only [exact_sub, exact_mul, exact_div, allocateCost_exact hq, sub_taken hq]
      exact hcreated
  refine ⟨⟨created, if created.status = .closed then false else false⟩, ?_, hholding, by simp⟩
  simp only [applyHistoricalTrade, applyHistoricalSell, Except.require_bind_eq_ok_iff, hside,
    exact_sub, sub_zero, hrec.quantity_eq, hrec.baseFee_eq]
  refine ⟨by rw [hrec.symbol_eq, PositionStateSnapshot.symbol_eq], by simp, by simp,
    by simp [hlegacy], fun _ => hfee, hopen, howner, by simp, ⟨hpos, hle⟩, by simp, ?_⟩
  exact Except.bind_eq_ok_iff.mpr ⟨created, hcreated, by simp [hlegacy]⟩

end Position

end Trading
