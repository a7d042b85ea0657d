import AutoTrader.Trading.Accounting.PositionExact
import AutoTrader.Trading.Accounting.Replay

/-!
# Conservation of ETH and cost

Quantity and cost move between the strategy position, the residual ledger and external
sales.  In exact arithmetic nothing is created or lost on the way.

* `ResidualSettlement.totals_exact` — the totals are transfers less consumptions.
* `Balanced` — position and ledger together hold given amounts, and the ledger is not
  negative.
* `replayTrade_balanced` — one trade moves the balance by what it bought or sold.
* `replay_balanced` — so does a history.
* `restore_conserves` — what is left after a restart is what was bought less what was sold.
-/

namespace Trading

open Arithmetic

/-! ## Amounts bought and sold -/

/-- The ETH that came in with the purchases. -/
def boughtQuantity (trades : List (Trade exact)) : ℚ :=
  ((trades.filter fun trade => decide (trade.side = .buy)).map netQuantity).sum

/-- The ETH that left with the sales. -/
def soldQuantity (trades : List (Trade exact)) : ℚ :=
  ((trades.filter fun trade => decide (trade.side = .sell)).map (·.executedQuantity)).sum

/-- What the purchases cost. -/
def boughtCost (trades : List (Trade exact)) : ℚ :=
  ((trades.filter fun trade => decide (trade.side = .buy)).map acquisitionCost).sum

/-- What a trade takes from the ledger: the part of an external sale beyond the lot. -/
def residualConsumption (state : ReplayState exact) (trade : Trade exact) : ℚ × ℚ :=
  if trade.exitReason = some .externalManual then
    let totals := state.settlement.totals exact
    (allocateExternalResidual exact state.position.state.quantity trade.executedQuantity
      totals.1 totals.2).toOption.getD (0, 0)
  else (0, 0)

/-- The cost a replay takes off for a sale: its share of the lot's and of the ledger's cost.  It
need not be the sale's `allocatedCostBasis`, which a replay only reads where the ledger has a
share. -/
def saleCost (state : ReplayState exact) (trade : Trade exact) : ℚ :=
  let consumed := residualConsumption state trade
  allocateCost state.position.state (trade.executedQuantity - consumed.1) + consumed.2

/-- The costs that a replay takes off for the sales of its history. -/
def saleCosts (ledger : ResidualLedger exact) (before : List (Trade exact))
    (state : ReplayState exact) : List (Trade exact) → List ℚ
  | [] => []
  | trade :: trades =>
      (if trade.side = .sell then [saleCost state trade] else []) ++
        match replayTrade ledger before state trade with
        | .ok next => saleCosts ledger (before ++ [trade]) next trades
        | .error _ => []

/-! ## Totals of the ledger -/

/-- The totals are the transferred amounts less the consumed ones. -/
theorem ResidualSettlement.totals_exact (settlement : ResidualSettlement) :
    settlement.totals exact =
      ((settlement.transfers.map (·.quantity)).sum -
          (settlement.externalConsumptions.map (·.2.1)).sum,
        (settlement.transfers.map (·.costBasis)).sum -
          (settlement.externalConsumptions.map (·.2.2)).sum) := by
  have hsum : ∀ value : ResidualEvent → ℚ, exact.sum (settlement.events.map value) =
      (settlement.transfers.map fun entry => value entry.event).sum +
        (settlement.externalConsumptions.map fun c => value (consumptionEvent c)).sum := by
    intro value
    rw [DecimalContext.exact_sum, events, ((List.perm_insertionSort _ _).map value).sum_eq,
      List.map_append, List.sum_append, List.map_map, List.map_map]
    rfl
  have hneg : ∀ value : ResidualEvent → ℚ, (settlement.externalConsumptions.map
      fun c => -value c).sum = -(settlement.externalConsumptions.map value).sum := by
    intro value
    rw [List.sum_neg, List.map_map]
    rfl
  rw [totals, hsum, hsum]
  simp only [ResidualTransfer.event, consumptionEvent, hneg, sub_eq_add_neg]

/-- A transfer raises the totals by its amounts. -/
theorem ResidualSettlement.totals_transfer (settlement : ResidualSettlement)
    (entry : ResidualTransfer) :
    ({ settlement with transfers := settlement.transfers ++ [entry] } : ResidualSettlement).totals
        exact =
      ((settlement.totals exact).1 + entry.quantity,
        (settlement.totals exact).2 + entry.costBasis) := by
  simp only [totals_exact, List.map_append, List.map_cons, List.map_nil, List.sum_append,
    List.sum_singleton, Prod.mk.injEq]
  constructor <;> ring

/-- A consumption lowers the totals by its amounts. -/
theorem ResidualSettlement.totals_consume (settlement : ResidualSettlement) (count : ℕ)
    (quantity cost : ℚ) :
    ({ settlement with
        externalConsumptions := settlement.externalConsumptions ++ [(count, quantity, cost)] } :
      ResidualSettlement).totals exact =
      ((settlement.totals exact).1 - quantity, (settlement.totals exact).2 - cost) := by
  simp only [totals_exact, List.map_append, List.map_cons, List.map_nil, List.sum_append,
    List.sum_singleton, Prod.mk.injEq]
  constructor <;> ring

/-- What an external sale takes never exceeds the ledger. -/
theorem allocateExternalResidual_bounds {p e rq rc : ℚ} {taken : ℚ × ℚ}
    (h : allocateExternalResidual exact p e rq rc = .ok taken) :
    0 ≤ taken.1 ∧ taken.1 ≤ rq ∧ 0 ≤ taken.2 ∧ taken.2 ≤ rc ∧ (taken.1 = 0 → taken.2 = 0) := by
  simp only [allocateExternalResidual, Except.require_bind_eq_ok_iff] at h
  obtain ⟨⟨-, -, hrq, hrc⟩, -, hle, h⟩ := h
  cases h
  refine ⟨le_max_left _ _, hle, ?_⟩
  set consumed := max 0 (exact.sub e p) with hconsumed
  have hnonneg : 0 ≤ consumed := le_max_left _ _
  split
  · exact ⟨le_refl _, hrc, fun _ => rfl⟩
  · rename_i hne
    split
    · exact ⟨hrc, le_refl _, fun h0 => absurd h0 hne⟩
    · have hpos : 0 < rq := lt_of_lt_of_le (lt_of_le_of_ne hnonneg (Ne.symm hne)) hle
      refine ⟨div_nonneg (mul_nonneg hrc hnonneg) hpos.le, ?_, fun h0 => absurd h0 hne⟩
      rw [exact_div, exact_mul, div_le_iff₀ hpos]
      exact mul_le_mul_of_nonneg_left hle hrc

/-! ## Balances -/

/-- Position and ledger hold together `quantity` ETH at `cost`, and the ledger holds no
negative amount. -/
structure Balanced (position : Position exact) (settlement : ResidualSettlement)
    (quantity cost : ℚ) : Prop where
  quantity_eq : position.state.quantity + (settlement.totals exact).1 = quantity
  cost_eq : position.state.costBasis + (settlement.totals exact).2 = cost
  residual_quantity_nonneg : 0 ≤ (settlement.totals exact).1
  residual_cost_nonneg : 0 ≤ (settlement.totals exact).2

/-- What a trade adds to the balance. -/
def balanceChange (state : ReplayState exact) (trade : Trade exact) : ℚ × ℚ :=
  match trade.side with
  | .buy => (netQuantity trade, acquisitionCost trade)
  | .sell => (-trade.executedQuantity, -saleCost state trade)

variable {ledger : ResidualLedger exact} {state next : ReplayState exact}
  {trade : Trade exact} {before : List (Trade exact)} {q c : ℚ}

/-- A trade of the application does not touch the ledger. -/
theorem appTrade_balanced {position : Position exact}
    (hbal : Balanced state.position state.settlement q c)
    (happ : trade.exitReason ≠ some .externalManual)
    (h : state.position.applyHistoricalTrade trade = .ok position) :
    Balanced position state.settlement (q + (balanceChange state trade).1)
      (c + (balanceChange state trade).2) := by
  have hconsumed : residualConsumption state trade = (0, 0) := if_neg happ
  cases hside : trade.side with
  | buy =>
      obtain ⟨hquantity, hcost⟩ := Position.applyHistoricalTrade_buy hside h
      refine ⟨?_, ?_, hbal.residual_quantity_nonneg, hbal.residual_cost_nonneg⟩
      · simp only [balanceChange, hside, hquantity, ← hbal.quantity_eq]
        ring
      · simp only [balanceChange, hside, hcost, ← hbal.cost_eq]
        ring
  | sell =>
      obtain ⟨hquantity, hcost⟩ := Position.applyHistoricalTrade_sell hside h
      refine ⟨?_, ?_, hbal.residual_quantity_nonneg, hbal.residual_cost_nonneg⟩
      · simp only [balanceChange, hside, hquantity, ← hbal.quantity_eq]
        ring
      · simp only [balanceChange, hside, hcost, saleCost, hconsumed, ← hbal.cost_eq]
        ring

/-- An external sale takes from the lot first and from the ledger beyond it. -/
theorem externalTrade_balanced {position : Position exact} {settlement : ResidualSettlement}
    {count : ℕ} (hbal : Balanced state.position state.settlement q c)
    (h : state.settlement.applyExternalTrade state.position trade count =
      .ok (settlement, position)) :
    Balanced position settlement (q + (balanceChange state trade).1)
      (c + (balanceChange state trade).2) := by
  simp only [ResidualSettlement.applyExternalTrade, Except.require_bind_eq_ok_iff] at h
  obtain ⟨⟨-, hreason, hside⟩, -, h⟩ := h
  obtain ⟨taken, htaken, h⟩ := Except.bind_eq_ok_iff.mp h
  obtain ⟨after, hafter, h⟩ := Except.bind_eq_ok_iff.mp h
  have hconsumed : residualConsumption state trade = taken := by
    rw [residualConsumption, if_pos hreason]
    simp only [htaken, Except.toOption, Option.getD_some]
  obtain ⟨hnonneg, hle, -, hcostle, hzero⟩ := allocateExternalResidual_bounds htaken
  obtain ⟨hquantity, hcost⟩ := Position.applyHistoricalTrade_sell hside hafter
  have htotals : settlement.totals exact = ((state.settlement.totals exact).1 - taken.1,
      (state.settlement.totals exact).2 - taken.2) ∧ position = after := by
    by_cases hnone : taken.1 = 0
    · simp only [hnone, if_true] at h
      cases h
      rw [hnone, hzero hnone, sub_zero, sub_zero]
      exact ⟨rfl, rfl⟩
    · simp only [hnone, if_false] at h
      cases h
      exact ⟨ResidualSettlement.totals_consume _ _ _ _, rfl⟩
  obtain ⟨htotals, rfl⟩ := htotals
  refine ⟨?_, ?_, ?_, ?_⟩
  · simp only [balanceChange, hside, htotals, hquantity, ← hbal.quantity_eq]
    ring
  · simp only [balanceChange, hside, htotals, hcost, saleCost, hconsumed, ← hbal.cost_eq]
    ring
  · rw [htotals]
    exact sub_nonneg.mpr hle
  · rw [htotals]
    exact sub_nonneg.mpr hcostle

/-- A rest that leaves the position arrives in the ledger. -/
theorem detachEntry_balanced {position after : Position exact}
    {settlement detached : ResidualSettlement} {trades : List (Trade exact)} {eligible : Bool}
    {entry : ResidualTransfer} (hbal : Balanced position settlement q c)
    (h : detachEntry ledger trades eligible settlement position entry = .ok (detached, after)) :
    Balanced after detached q c ∧
      detached = { settlement with transfers := settlement.transfers ++ [entry] } := by
  simp only [detachEntry, Except.require_bind_eq_ok_iff] at h
  obtain ⟨-, h⟩ := h
  obtain ⟨moved, hmoved, h⟩ := Except.bind_eq_ok_iff.mp h
  cases h
  simp only [Position.detachResidual, Except.require_bind_eq_ok_iff] at hmoved
  obtain ⟨⟨hquantity, hcost, -⟩, ⟨-, hq, hc⟩, hmoved⟩ := hmoved
  obtain ⟨_, -, hmoved⟩ := Except.bind_eq_ok_iff.mp hmoved
  cases hmoved
  refine ⟨⟨?_, ?_, ?_, ?_⟩, rfl⟩ <;> rw [ResidualSettlement.totals_transfer]
  · rw [← hbal.quantity_eq, hq]
    show (0 : ℚ) + _ = _
    ring
  · rw [← hbal.cost_eq, hc]
    show (0 : ℚ) + _ = _
    ring
  · exact add_nonneg hbal.residual_quantity_nonneg hquantity.le
  · exact add_nonneg hbal.residual_cost_nonneg hcost.le

/-- One trade moves the balance by what it bought or sold. -/
theorem replayTrade_balanced (hbal : Balanced state.position state.settlement q c)
    (h : replayTrade ledger before state trade = .ok next) :
    Balanced next.position next.settlement (q + (balanceChange state trade).1)
      (c + (balanceChange state trade).2) := by
  obtain ⟨settlement, position, happlied, hrest⟩ := replayTrade_eq_ok h
  have hmiddle : Balanced position settlement (q + (balanceChange state trade).1)
      (c + (balanceChange state trade).2) := by
    unfold applyReplayedTrade at happlied
    split at happlied
    · exact externalTrade_balanced hbal happlied
    · rename_i happ
      obtain ⟨after, hafter, happlied⟩ := Except.bind_eq_ok_iff.mp happlied
      cases happlied
      exact appTrade_balanced hbal happ hafter
  rcases hrest with ⟨-, hposition, hsettlement⟩ | ⟨entry, eligible, -, hdetached⟩
  · rw [hposition, hsettlement]
    exact hmiddle
  · exact (detachEntry_balanced hmiddle hdetached).1

/-- A history moves the balance by what it bought and sold. -/
theorem replay_balanced {trades : List (Trade exact)}
    (hbal : Balanced state.position state.settlement q c)
    (h : replay ledger before state trades = .ok next) :
    Balanced next.position next.settlement (q + (boughtQuantity trades - soldQuantity trades))
      (c + (boughtCost trades - (saleCosts ledger before state trades).sum)) := by
  induction trades generalizing before state q c with
  | nil =>
      cases h
      simpa [boughtQuantity, soldQuantity, boughtCost, saleCosts] using hbal
  | cons trade trades ih =>
      obtain ⟨middle, hmiddle, hrest⟩ := Except.bind_eq_ok_iff.mp h
      have hlast := ih (replayTrade_balanced hbal hmiddle) hrest
      have hcosts : saleCosts ledger before state (trade :: trades) =
          (if trade.side = .sell then [saleCost state trade] else []) ++
            saleCosts ledger (before ++ [trade]) middle trades := by
        rw [saleCosts, hmiddle]
      convert hlast using 1
      · cases hside : trade.side <;>
          simp [boughtQuantity, soldQuantity, balanceChange, hside] <;> ring
      · rw [hcosts]
        cases hside : trade.side <;>
          simp [boughtCost, balanceChange, hside] <;> ring

/-- A history that replays, replays up to every point of it. -/
theorem replay_append {earlier later : List (Trade exact)}
    (h : replay ledger before state (earlier ++ later) = .ok next) :
    ∃ middle, replay ledger before state earlier = .ok middle := by
  induction earlier generalizing before state with
  | nil => exact ⟨state, rfl⟩
  | cons trade earlier ih =>
      obtain ⟨after, hafter, hrest⟩ := Except.bind_eq_ok_iff.mp h
      obtain ⟨middle, hmiddle⟩ := ih hrest
      exact ⟨middle, Except.bind_eq_ok_iff.mpr ⟨after, hafter, hmiddle⟩⟩

/-! ## Conservation -/

/-- The start of a replay: nothing held, an empty ledger. -/
def replayStart : ReplayState exact where
  position := .empty exact

theorem replayStart_balanced : Balanced replayStart.position replayStart.settlement 0 0 where
  quantity_eq := by simp [replayStart, Position.empty, closedState, ResidualSettlement.totals_exact]
  cost_eq := by simp [replayStart, Position.empty, closedState, ResidualSettlement.totals_exact]
  residual_quantity_nonneg := by simp [replayStart, ResidualSettlement.totals_exact]
  residual_cost_nonneg := by simp [replayStart, ResidualSettlement.totals_exact]

/-- The totals after a restart are those the replay ended with. -/
theorem restore_totals {trades : List (Trade exact)} {restored : Restored exact}
    (h : restore ledger (.empty exact) trades = .ok restored) :
    ∃ last, replay ledger [] replayStart trades = .ok last ∧
      restored.position = last.position ∧
      restored.settlement.totals exact = last.settlement.totals exact := by
  obtain ⟨last, hlast, hposition, -, hsame, -⟩ := restore_eq_ok h
  exact ⟨last, hlast, hposition, hsame.totals⟩

/-- Whatever the history and the ledger: when they restore, position and ledger hold
together what was bought less what was sold, at the cost of the purchases less the cost
allocated to the sales, and at no point of the history is the ledger negative. -/
theorem restore_conserves {ledger : ResidualLedger exact} {trades : List (Trade exact)}
    {restored : Restored exact} (h : restore ledger (.empty exact) trades = .ok restored) :
    restored.position.state.quantity + (restored.settlement.totals exact).1 =
        boughtQuantity trades - soldQuantity trades ∧
      restored.position.state.costBasis + (restored.settlement.totals exact).2 =
        boughtCost trades - (saleCosts ledger [] replayStart trades).sum ∧
      0 ≤ (restored.settlement.totals exact).1 ∧ 0 ≤ (restored.settlement.totals exact).2 ∧
      ∀ earlier, earlier <+: trades →
        ∃ state, replay ledger [] replayStart earlier = .ok state ∧
          0 ≤ (state.settlement.totals exact).1 ∧ 0 ≤ (state.settlement.totals exact).2 := by
  obtain ⟨last, hlast, hposition, htotals⟩ := restore_totals h
  have hbal := replay_balanced replayStart_balanced hlast
  rw [zero_add, zero_add] at hbal
  rw [hposition, htotals]
  refine ⟨hbal.quantity_eq, hbal.cost_eq, hbal.residual_quantity_nonneg,
    hbal.residual_cost_nonneg, ?_⟩
  rintro earlier ⟨later, rfl⟩
  obtain ⟨state, hstate⟩ := replay_append hlast
  have hearlier := replay_balanced replayStart_balanced hstate
  exact ⟨state, hstate, hearlier.residual_quantity_nonneg, hearlier.residual_cost_nonneg⟩

/-! ## A history with every kind of movement -/

/-- One ETH bought with a fee of a hundredth in ETH. -/
def feeBuy : Trade exact where
  tradeId := "trade-1"
  orderId := "1"
  clientOrderId := "bat-1"
  executedAt := 0
  side := .buy
  regimeType := .type0
  strategy := .caseB
  requestedQuantity := 1
  executedQuantity := 1
  executedAmount := 100
  averageFillPrice := 100
  marketPriceAtDecision := some 100
  feeAmount := 1 / 100
  feeAsset := .single .eth
  feeQuoteAmount := 1
  valid := by decide +kernel

/-- The whole lot asked for, but sold in steps of a tenth. -/
def stepSell : Trade exact where
  tradeId := "trade-2"
  orderId := "2"
  clientOrderId := "bat-2"
  executedAt := 1
  side := .sell
  regimeType := .type0
  strategy := .caseB
  requestedQuantity := 99 / 100
  executedQuantity := 9 / 10
  executedAmount := 90
  averageFillPrice := 100
  marketPriceAtDecision := some 100
  feeAmount := 0
  feeAsset := .single .usdt
  feeQuoteAmount := 0
  allocatedCostBasis := some (1000 / 11)
  realizedPnl := some (-10 / 11)
  realizedReturnRate := some (-1)
  exitReason := some .stop
  valid := by decide +kernel

/-- One more ETH, without a fee. -/
def plainBuy : Trade exact where
  tradeId := "trade-3"
  orderId := "3"
  clientOrderId := "bat-3"
  executedAt := 2
  side := .buy
  regimeType := .type0
  strategy := .caseB
  requestedQuantity := 1
  executedQuantity := 1
  executedAmount := 100
  averageFillPrice := 100
  marketPriceAtDecision := some 100
  feeAmount := 0
  feeAsset := .single .usdt
  feeQuoteAmount := 0
  valid := by decide +kernel

/-- A sale outside the application, of the lot and of a part of the residual. -/
def outsideSell : Trade exact where
  tradeId := "trade-4"
  orderId := "4"
  clientOrderId := "manual"
  executedAt := 3
  side := .sell
  regimeType := .type0
  strategy := .caseB
  requestedQuantity := 105 / 100
  executedQuantity := 105 / 100
  executedAmount := 105
  averageFillPrice := 100
  marketPriceAtDecision := none
  feeAmount := 0
  feeAsset := .single .usdt
  feeQuoteAmount := 0
  allocatedCostBasis := some (100 + 500 / 99)
  realizedPnl := some (5 - 500 / 99)
  realizedReturnRate := some (quantizeRate ((5 - 500 / 99) / (100 + 500 / 99) * 100))
  exitReason := some .externalManual
  schemaVersion := .v4
  feeFills := [{
    exchangeOrderId := "4"
    tradeId := "1"
    quantity := 105 / 100
    price := 100
    feeAmount := 0
    feeAsset := .usdt
    feeQuoteAmount := 0
    executedAt := 3
    valid := by decide +kernel }]
  valid := by decide +kernel

/-- The rest of the first lot, transferred after the second trade. -/
def stepLedger : ResidualLedger exact where
  transfers := [{
    historyCount := 2
    historySha256 := "prefix"
    quantity := 9 / 100
    costBasis := 100 / 11
    stepSize := 1 / 10
    history_has_sale := by decide
    values_pos := by norm_num
    below_step := by norm_num }]
  historyDigest := fun _ => "prefix"
  currentStepSize := some (1 / 10)

/-- What is left of this history: four hundredths of the first lot. -/
theorem restore_conserves_stepLedger :
    ∃ restored, restore stepLedger (.empty exact) [feeBuy, stepSell, plainBuy, outsideSell] =
        .ok restored ∧
      restored.settlement.totals exact = (4 / 100, 400 / 99) ∧
      restored.position.state.quantity + (restored.settlement.totals exact).1 =
        boughtQuantity [feeBuy, stepSell, plainBuy, outsideSell] -
          soldQuantity [feeBuy, stepSell, plainBuy, outsideSell] := by
  have hok : (restore stepLedger (.empty exact)
      [feeBuy, stepSell, plainBuy, outsideSell]).isOk = true := by decide +kernel
  cases h : restore stepLedger (.empty exact) [feeBuy, stepSell, plainBuy, outsideSell] with
  | error e =>
      rw [h] at hok
      cases hok
  | ok restored =>
      have htotals : (restore stepLedger (.empty exact)
          [feeBuy, stepSell, plainBuy, outsideSell]).toOption.map
            (fun r => r.settlement.totals exact) = some (4 / 100, 400 / 99) := by decide +kernel
      rw [h] at htotals
      exact ⟨restored, rfl, Option.some.inj htotals, (restore_conserves h).1⟩

end Trading
