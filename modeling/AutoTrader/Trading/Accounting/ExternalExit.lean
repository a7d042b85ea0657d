import AutoTrader.Trading.Accounting.Replay

/-!
# Sales outside the application

`application/external_exit_recovery.py`: sales the application did not make are turned
into trades before they are stored and applied.

* `AccountExecution` — one order of the account with its complete fills.
* `buildExternalExitTrades` — the trades that explain the balance, built on a copy of the
  position and on running amounts of the ledger.
* `ResidualSettlement.applyExternalTrades` — the stored trades applied one by one.
* `externalExitTrade_applied` — the live ledger accepts a built trade, and is left with
  what the builder reckoned.
* `replay_externalTrades` — a restart replays what was applied.
* `buildExternalExitTrades_consistent` — the three computations agree.
-/

namespace Trading

open Arithmetic

/-! ## Executions of the account -/

/-- The fields of an execution. -/
structure AccountExecutionFields (ctx : DecimalContext) where
  side : OrderSide
  requestedQuantity : ℚ
  createdAt : Timestamp
  result : OrderResult ctx

variable {ctx : DecimalContext}

/-- `__post_init__` of an execution. -/
def AccountExecutionFields.validate (execution : AccountExecutionFields ctx) :
    Except TradingError Unit := do
  Except.require (0 < execution.requestedQuantity)
    (.valueError "account execution requires positive original quantity")
  Except.require (execution.result.fills ≠ [] ∧ (execution.result.fills.map Fill.key).Nodup)
    (.valueError "account execution requires distinct complete fills")
  let aggregate ← aggregateFills execution.result.fills
  Except.require (execution.result.status = .filled →
      aggregate.executedQuantity = execution.requestedQuantity)
    (.valueError "FILLED account execution must explain all original quantity")
  Except.require (aggregate.executedQuantity ≤ execution.requestedQuantity)
    (.valueError "account execution exceeds original quantity")
  Except.require (∀ fill ∈ execution.result.fills,
      execution.createdAt ≤ fill.executedAt ∧ fill.executedAt ≤ execution.result.processedAt)
    (.valueError "account execution time is inconsistent")

/-- An execution its constructor accepts. -/
structure AccountExecution (ctx : DecimalContext) extends AccountExecutionFields ctx where
  valid : toAccountExecutionFields.validate = .ok ()

/-- The earliest execution time of a non-empty list of fills. -/
def earliestExecution : List (Fill ctx) → Timestamp
  | [] => 0
  | first :: rest =>
      rest.foldl (fun earliest fill => min earliest fill.executedAt) first.executedAt

namespace AccountExecution

/-- `result.exchange_order_id`; an execution has fills, so its result has the ID. -/
def exchangeOrderId (execution : AccountExecution ctx) : String :=
  execution.result.exchangeOrderId.getD ""

/-- The key executions are sorted by: earliest fill, then the number of the order. -/
def sortKey (execution : AccountExecution ctx) : Timestamp × ℕ :=
  (earliestExecution execution.result.fills,
    Nat.ofDigitChars 10 execution.exchangeOrderId.toList 0)

def sortLe (a b : AccountExecution ctx) : Bool :=
  decide (a.sortKey.1 < b.sortKey.1 ∨ (a.sortKey.1 = b.sortKey.1 ∧ a.sortKey.2 ≤ b.sortKey.2))

end AccountExecution

/-! ## Building the trades -/

/-- The local values of the loop of `build_external_exit_trades`. -/
structure ExitCandidate (ctx : DecimalContext) where
  position : Position ctx
  residualQuantity : ℚ
  residualCost : ℚ
  latestTime : Timestamp

/-- The values of the trade for an execution. -/
def exitTradeFields (latestBuy : Trade ctx) (execution : AccountExecution ctx)
    (aggregate : FillAggregate) (allocatedCost : ℚ) : TradeFields ctx :=
  let pnl := ctx.sub (ctx.sub aggregate.executedAmount aggregate.feeQuoteAmount) allocatedCost
  { tradeId := "trade-" ++ execution.exchangeOrderId
    orderId := execution.exchangeOrderId
    clientOrderId := execution.result.clientOrderId
    symbol := execution.result.symbol
    executedAt := aggregate.executedAt
    side := .sell
    regimeType := latestBuy.regimeType
    strategy := latestBuy.strategy
    requestedQuantity := execution.requestedQuantity
    executedQuantity := aggregate.executedQuantity
    executedAmount := aggregate.executedAmount
    averageFillPrice := aggregate.averageFillPrice
    marketPriceAtDecision := none
    feeAmount := aggregate.feeAmount
    feeAsset := aggregate.feeAsset
    feeQuoteAmount := aggregate.feeQuoteAmount
    allocatedCostBasis := some allocatedCost
    realizedPnl := some pnl
    realizedReturnRate := some (quantizeRate (ctx.mul (ctx.div pnl allocatedCost) 100))
    exitReason := some .externalManual
    schemaVersion := .v4
    feeFills := execution.result.fills }

/-- One round of the loop: the trade for an execution, applied to the candidate. -/
def externalExitTrade (latestBuy : Trade ctx) (candidate : ExitCandidate ctx)
    (execution : AccountExecution ctx) : Except TradingError (Trade ctx × ExitCandidate ctx) := do
  let result := execution.result
  Except.require (execution.side = .sell ∧
      result.status ∈ [.filled, .canceled, .expired, .expiredInMatch])
    (.valueError "external exit requires terminal SELL evidence")
  Except.require (isAppClientOrderId result.clientOrderId = false ∧
      candidate.latestTime ≤ execution.createdAt ∧
      candidate.latestTime < earliestExecution result.fills)
    (.valueError "external exit overlaps existing history")
  let aggregate ← aggregateFills result.fills
  Except.require (execution.requestedQuantity ≤
        ctx.add candidate.position.state.quantity candidate.residualQuantity ∧
      ∀ fill ∈ result.fills, ¬ (fill.feeAsset = .eth ∧ 0 < fill.feeAmount))
    (.valueError "external exit quantity or base commission is ambiguous")
  let consumed ← allocateExternalResidual ctx candidate.position.state.quantity
    aggregate.executedQuantity candidate.residualQuantity candidate.residualCost
  let positionCost ← candidate.position.getCostBasis
    (ctx.sub aggregate.executedQuantity consumed.1)
  let allocatedCost := ctx.add positionCost consumed.2
  Except.require (allocatedCost ≠ 0) .divisionByZero
  let trade ← (exitTradeFields latestBuy execution aggregate allocatedCost).create
  let position ← candidate.position.applyHistoricalTrade trade consumed.1 consumed.2
  .ok (trade, {
    position
    residualQuantity := ctx.sub candidate.residualQuantity consumed.1
    residualCost := ctx.sub candidate.residualCost consumed.2
    latestTime := aggregate.executedAt })

/-- The loop over the sorted executions. -/
def externalExitTrades (latestBuy : Trade ctx) (candidate : ExitCandidate ctx) :
    List (AccountExecution ctx) → Except TradingError (List (Trade ctx) × ExitCandidate ctx)
  | [] => .ok ([], candidate)
  | execution :: executions => do
      let (trade, next) ← externalExitTrade latestBuy candidate execution
      let (trades, last) ← externalExitTrades latestBuy next executions
      .ok (trade :: trades, last)

/-- `build_external_exit_trades`. -/
def buildExternalExitTrades (history : List (Trade ctx)) (position : Position ctx)
    (executions : List (AccountExecution ctx)) (ethBalance residualQuantity : ℚ)
    (residualCostBasis : ℚ := 0) : Except TradingError (List (Trade ctx)) := do
  Except.require (history ≠ [] ∧ 0 < position.state.quantity ∧ executions ≠ [])
    (.valueError "external exit requires an open durable position")
  position.requireHistoryAccountingCompatibility
  match history.reverse.find? (fun trade => decide (trade.side = .buy)), history.getLast? with
  | some latestBuy, some latest => do
      Except.require (position.state.owner = some latestBuy.strategy)
        (.valueError "external exit has ambiguous position ownership")
      let (trades, last) ← externalExitTrades latestBuy {
          position, residualQuantity, residualCost := residualCostBasis
          latestTime := latest.executedAt }
        (executions.insertionSort fun a b => a.sortLe b = true)
      Except.require (ctx.add last.position.state.quantity last.residualQuantity = ethBalance)
        (.valueError "external exits do not explain the complete ETH balance")
      .ok trades
  | _, _ => .error .stopIteration

/-! ## Applying the trades -/

/-- The loop of `_reconcile_external_exits_during_startup`: the trades take effect under the
positions they have in the history. -/
def ResidualSettlement.applyExternalTrades (settlement : ResidualSettlement)
    (position : Position ctx) (historyCount : ℕ) :
    List (Trade ctx) → Except TradingError (ResidualSettlement × Position ctx)
  | [] => .ok (settlement, position)
  | trade :: trades => do
      let (settlement, position) ← settlement.applyExternalTrade position trade historyCount
      applyExternalTrades settlement position (historyCount + 1) trades

section Applied

variable {latestBuy trade : Trade ctx} {candidate next : ExitCandidate ctx}
  {execution : AccountExecution ctx} {settlement after : ResidualSettlement}
  {position moved : Position ctx} {count : ℕ}

/-- A sale never opens legacy accounting. -/
theorem Position.applyHistoricalTrade_legacy {quantity cost : ℚ} (hside : trade.side = .sell)
    (hlegacy : position.legacyBaseFeeHistoryOpen = false)
    (h : position.applyHistoricalTrade trade quantity cost = .ok moved) :
    moved.legacyBaseFeeHistoryOpen = false := by
  simp only [Position.applyHistoricalTrade, Except.require_bind_eq_ok_iff, hside] at h
  obtain ⟨-, -, -, -, h⟩ := h
  simp only [Position.applyHistoricalSell, Except.require_bind_eq_ok_iff] at h
  obtain ⟨-, -, -, -, -, -, h⟩ := h
  obtain ⟨state, -, h⟩ := Except.bind_eq_ok_iff.mp h
  cases h
  simp only [hlegacy, ite_self]

/-- Nothing taken from the ledger costs nothing. -/
theorem allocateExternalResidual_zero {p e rq rc : ℚ} {taken : ℚ × ℚ}
    (h : allocateExternalResidual ctx p e rq rc = .ok taken) (hzero : taken.1 = 0) :
    taken.2 = 0 := by
  simp only [allocateExternalResidual, Except.require_bind_eq_ok_iff] at h
  obtain ⟨-, -, -, h⟩ := h
  cases h
  exact if_pos hzero

/-- The live ledger and the live position accept a trade the builder made, and are left with
the builder's amounts. -/
theorem externalExitTrade_applied
    (hlegacy : candidate.position.legacyBaseFeeHistoryOpen = false)
    (htotals : settlement.totals ctx = (candidate.residualQuantity, candidate.residualCost))
    (hrecorded : settlement.RecordedBy count)
    (h : externalExitTrade latestBuy candidate execution = .ok (trade, next)) :
    trade.exitReason = some .externalManual ∧ next.position.legacyBaseFeeHistoryOpen = false ∧
      ∃ after,
        settlement.applyExternalTrade candidate.position trade (count + 1) =
          .ok (after, next.position) ∧
        after.totals ctx = (next.residualQuantity, next.residualCost) ∧
        after.RecordedBy (count + 1) := by
  simp only [externalExitTrade, Except.require_bind_eq_ok_iff] at h
  obtain ⟨-, -, h⟩ := h
  obtain ⟨aggregate, -, h⟩ := Except.bind_eq_ok_iff.mp h
  obtain ⟨⟨hrequested, -⟩, h⟩ := Except.require_bind_eq_ok_iff.mp h
  obtain ⟨consumed, hconsumed, h⟩ := Except.bind_eq_ok_iff.mp h
  obtain ⟨positionCost, -, h⟩ := Except.bind_eq_ok_iff.mp h
  obtain ⟨-, h⟩ := Except.require_bind_eq_ok_iff.mp h
  obtain ⟨made, hmade, h⟩ := Except.bind_eq_ok_iff.mp h
  obtain ⟨position, hposition, h⟩ := Except.bind_eq_ok_iff.mp h
  cases h
  have hfields := TradeFields.create_eq_ok hmade
  have hreason : trade.exitReason = some .externalManual := congrArg (·.exitReason) hfields
  have hside : trade.side = .sell := congrArg (·.side) hfields
  have hschema : trade.schemaVersion = .v4 := congrArg (·.schemaVersion) hfields
  have hasked : trade.requestedQuantity = execution.requestedQuantity :=
    congrArg (·.requestedQuantity) hfields
  have hexecuted : trade.executedQuantity = aggregate.executedQuantity :=
    congrArg (·.executedQuantity) hfields
  refine ⟨hreason, Position.applyHistoricalTrade_legacy hside hlegacy hposition, ?_⟩
  have happlied : settlement.applyExternalTrade candidate.position trade (count + 1) =
      .ok (if consumed.1 = 0 then settlement
        else settlement.consume (count + 1, consumed.1, consumed.2), position) := by
    rw [ResidualSettlement.applyExternalTrade, Except.require_bind_eq_ok_iff]
    refine ⟨⟨hschema, hreason, hside⟩, ?_⟩
    rw [Except.require_bind_eq_ok_iff, htotals, hasked]
    refine ⟨hrequested, ?_⟩
    rw [hexecuted, hconsumed, Except.ok_bind]
    show (candidate.position.applyHistoricalTrade trade consumed.1 consumed.2 >>= _) = _
    rw [hposition]
    rfl
  refine ⟨_, happlied, ?_, ?_⟩
  · split
    · rename_i hzero
      have hsame := settlement.totals_sub_zero ctx
      rw [htotals] at hsame
      rw [hzero, allocateExternalResidual_zero hconsumed hzero, htotals, hsame]
    · rw [hrecorded.totals_consume, htotals]
  · split
    · exact ⟨fun entry hmem => (hrecorded.transfers entry hmem).trans (Nat.le_succ _),
        fun consumption hmem => (hrecorded.consumptions consumption hmem).trans (Nat.le_succ _)⟩
    · exact hrecorded.consume _ _

/-- The live ledger accepts all the trades. -/
theorem externalExitTrades_applied {trades : List (Trade ctx)}
    {executions : List (AccountExecution ctx)}
    (hlegacy : candidate.position.legacyBaseFeeHistoryOpen = false)
    (htotals : settlement.totals ctx = (candidate.residualQuantity, candidate.residualCost))
    (hrecorded : settlement.RecordedBy count)
    (h : externalExitTrades latestBuy candidate executions = .ok (trades, next)) :
    (∀ trade ∈ trades, trade.exitReason = some .externalManual) ∧
      next.position.legacyBaseFeeHistoryOpen = false ∧
      ∃ after,
        settlement.applyExternalTrades candidate.position (count + 1) trades =
          .ok (after, next.position) ∧
        after.totals ctx = (next.residualQuantity, next.residualCost) := by
  induction executions generalizing candidate settlement count trades with
  | nil =>
      cases h
      refine ⟨?_, hlegacy, settlement, rfl, htotals⟩
      intro other hmem
      exact absurd hmem List.not_mem_nil
  | cons execution executions ih =>
      obtain ⟨⟨trade, middle⟩, hmiddle, h⟩ := Except.bind_eq_ok_iff.mp h
      obtain ⟨⟨rest, last⟩, hrest, h⟩ := Except.bind_eq_ok_iff.mp h
      cases h
      obtain ⟨hreason, hlegacy', stepped, happlied, htotals', hrecorded'⟩ :=
        externalExitTrade_applied hlegacy htotals hrecorded hmiddle
      obtain ⟨hreasons, hlast, after, hafter, hend⟩ := ih hlegacy' htotals' hrecorded' hrest
      refine ⟨?_, hlast, after, ?_, hend⟩
      · intro other hmem
        rcases List.mem_cons.mp hmem with rfl | hmem
        · exact hreason
        · exact hreasons other hmem
      · rw [ResidualSettlement.applyExternalTrades, happlied]
        exact hafter

/-! ## Replaying the trades -/

/-- An external sale depends on the changes of the ledger only. -/
theorem ResidualSettlement.SameEvents.applyExternalTrade {other : ResidualSettlement}
    (hsame : settlement.SameEvents other)
    (h : settlement.applyExternalTrade position trade count = .ok (after, moved)) :
    ∃ after', other.applyExternalTrade position trade count = .ok (after', moved) ∧
      after.SameEvents after' := by
  simp only [ResidualSettlement.applyExternalTrade, Except.require_bind_eq_ok_iff] at h ⊢
  rw [← hsame.totals]
  obtain ⟨hexternal, hrequested, h⟩ := h
  obtain ⟨taken, htaken, h⟩ := Except.bind_eq_ok_iff.mp h
  obtain ⟨next, hnext, h⟩ := Except.bind_eq_ok_iff.mp h
  cases h
  refine ⟨_, ⟨hexternal, hrequested, Except.bind_eq_ok_iff.mpr ⟨taken, htaken,
    Except.bind_eq_ok_iff.mpr ⟨_, hnext, rfl⟩⟩⟩, ?_⟩
  split
  · exact hsame
  · exact ⟨hsame.transfers, congrArg (· ++ _) hsame.consumptions⟩

/-- A restart replays external sales after the last transfer as they were applied. -/
theorem replay_externalTrades {ledger : ResidualLedger ctx} {before trades : List (Trade ctx)}
    {state : ReplayState ctx}
    (hentry : ∀ count, before.length < count → ledger.entryAt count = none)
    (hexternal : ∀ trade ∈ trades, trade.exitReason = some .externalManual)
    (hsame : settlement.SameEvents state.settlement)
    (h : settlement.applyExternalTrades state.position (before.length + 1) trades =
      .ok (after, moved)) :
    ∃ next, replay ledger before state trades = .ok next ∧ next.position = moved ∧
      after.SameEvents next.settlement := by
  induction trades generalizing before state settlement with
  | nil =>
      cases h
      exact ⟨state, rfl, rfl, hsame⟩
  | cons trade trades ih =>
      obtain ⟨⟨stepped, position⟩, hstepped, h⟩ := Except.bind_eq_ok_iff.mp h
      obtain ⟨replayed, hreplayed, hsame'⟩ := hsame.applyExternalTrade hstepped
      obtain ⟨middle, hmiddle, hposition, hsettlement⟩ : ∃ middle,
          replayTrade ledger before state trade = .ok middle ∧ middle.position = position ∧
            middle.settlement = replayed := by
        have hnone := hentry (before.length + 1) (Nat.lt_succ_self _)
        have happlied : applyReplayedTrade state trade (before.length + 1) =
            .ok (replayed, position) := by
          rw [applyReplayedTrade, if_pos (hexternal trade List.mem_cons_self)]
          exact hreplayed
        have hround : ∃ eligible, replayTrade ledger before state trade =
            .ok ⟨position, replayed, nextFeeSeen state trade, eligible⟩ := by
          rw [replayTrade, happlied, hnone]
          exact ⟨_, rfl⟩
        obtain ⟨eligible, hround⟩ := hround
        exact ⟨_, hround, rfl, rfl⟩
      have hlength : (before ++ [trade]).length = before.length + 1 := by simp
      rw [← hsettlement] at hsame'
      have hlater : ∀ count, (before ++ [trade]).length < count → ledger.entryAt count = none :=
        fun count hlt => hentry count (by omega)
      obtain ⟨next, hnext, hmoved, hlast⟩ := ih hlater
        (fun other hmem => hexternal other (List.mem_cons_of_mem _ hmem)) hsame'
        (by rw [hlength, hposition]; exact h)
      refine ⟨next, ?_, hmoved, hlast⟩
      rw [replay, hmiddle]
      exact hnext

end Applied

/-! ## Consistency -/

/-- Whatever was restored and whatever executions the builder accepts: the live ledger and
position take the built trades and hold the balance together, and a restart over the
extended history holds the same. -/
theorem buildExternalExitTrades_consistent {ledger : ResidualLedger ctx}
    {history trades : List (Trade ctx)} {restored : Restored ctx}
    {executions : List (AccountExecution ctx)} {ethBalance : ℚ}
    (hrestored : restore ledger (.empty ctx) history = .ok restored)
    (hbuilt : buildExternalExitTrades history restored.position executions ethBalance
      (restored.settlement.totals ctx).1 (restored.settlement.totals ctx).2 = .ok trades) :
    ∃ settlement position,
      restored.settlement.applyExternalTrades restored.position (history.length + 1) trades =
        .ok (settlement, position) ∧
      ctx.add position.state.quantity (settlement.totals ctx).1 = ethBalance ∧
      ∃ extended, restore ledger (.empty ctx) (history ++ trades) = .ok extended ∧
        extended.position = position ∧
        extended.settlement.totals ctx = settlement.totals ctx := by
  obtain ⟨last, hlast, hposition, hlegacy, hsame, hrecorded⟩ := restore_eq_ok hrestored
  simp only [buildExternalExitTrades, Except.require_bind_eq_ok_iff] at hbuilt
  obtain ⟨-, hbuilt⟩ := hbuilt
  obtain ⟨_, -, hbuilt⟩ := Except.bind_eq_ok_iff.mp hbuilt
  split at hbuilt
  · obtain ⟨-, hbuilt⟩ := Except.require_bind_eq_ok_iff.mp hbuilt
    obtain ⟨⟨built, final⟩, hfinal, hbuilt⟩ := Except.bind_eq_ok_iff.mp hbuilt
    obtain ⟨hbalance, hbuilt⟩ := Except.require_bind_eq_ok_iff.mp hbuilt
    cases hbuilt
    have hstored : restored.settlement.RecordedBy history.length :=
      ⟨fun entry hmem => hrecorded.transfers entry (hsame.transfers.mem_iff.mp hmem),
        fun consumption hmem => hrecorded.consumptions consumption (hsame.consumptions ▸ hmem)⟩
    obtain ⟨hexternal, hclosed, settlement, happlied, htotals⟩ :=
      externalExitTrades_applied hlegacy rfl hstored hfinal
    refine ⟨settlement, final.position, happlied, by rw [htotals]; exact hbalance, ?_⟩
    obtain ⟨_, hvalid, -⟩ := Except.bind_eq_ok_iff.mp hrestored
    have hentry : ∀ count, history.length < count → ledger.entryAt count = none := by
      intro count hlt
      rw [ResidualLedger.entryAt, List.find?_eq_none]
      intro entry hmem
      have hle := (validateLedger_eq_ok hvalid).2 entry hmem
      rw [decide_eq_true_eq]
      omega
    rw [hposition] at happlied
    obtain ⟨next, hnext, hmoved, hafter⟩ := replay_externalTrades hentry hexternal hsame happlied
    have hreplay : replay ledger [] { position := .empty ctx } (history ++ built) = .ok next := by
      rw [replay_append_eq, hlast, Except.ok_bind]
      exact hnext
    have hcompatible : next.position.requireHistoryAccountingCompatibility = .ok () := by
      rw [Position.requireHistoryAccountingCompatibility, Except.require_eq_ok_iff, hmoved]
      exact hclosed
    obtain ⟨extended, hextended⟩ :
        ∃ extended, restore ledger (.empty ctx) (history ++ built) = .ok extended := by
      rw [restore, validateLedger_append built hvalid, Except.ok_bind, hreplay, Except.ok_bind,
        hcompatible]
      exact ⟨_, rfl⟩
    refine ⟨extended, hextended, ?_⟩
    obtain ⟨replayed, hreplayed, hsamePosition, -, hsameEvents, -⟩ := restore_eq_ok hextended
    rw [hreplay] at hreplayed
    cases hreplayed
    exact ⟨hsamePosition.trans hmoved, hsameEvents.totals.trans hafter.totals.symm⟩
  · cases hbuilt

/-! ## A sale of the lot and of a part of the ledger -/

/-- One more ETH, without a fee. -/
def secondBuy : Trade decimal128 where
  tradeId := "trade-3"
  orderId := "3"
  clientOrderId := "bat-3"
  executedAt := 2
  side := .buy
  regimeType := .type0
  strategy := .caseB
  requestedQuantity := 1
  executedQuantity := 1
  executedAmount := 100
  averageFillPrice := 100
  marketPriceAtDecision := some 100
  feeAmount := 0
  feeAsset := .single .usdt
  feeQuoteAmount := 0
  valid := by decide +kernel

theorem restLedger_history : 2 ≤ 2 := le_refl 2

theorem restLedger_below : (9 / 100 : ℚ) < 1 / 10 := by norm_num

/-- The rest of the first lot, transferred after the second trade. -/
def restLedger : ResidualLedger decimal128 where
  transfers := [{
    historyCount := 2
    historySha256 := "prefix"
    quantity := 9 / 100
    costBasis := 9
    stepSize := 1 / 10
    history_has_sale := restLedger_history
    values_pos := by norm_num
    below_step := restLedger_below }]
  historyDigest := fun _ => "prefix"
  currentStepSize := some (1 / 10)

/-- The lot and five hundredths of the ledger, sold by hand. -/
def manualSale : AccountExecution decimal128 where
  side := .sell
  requestedQuantity := 105 / 100
  createdAt := 2
  result := {
    clientOrderId := "manual"
    status := .filled
    processedAt := 4
    exchangeOrderId := some "4"
    fills := [{
      exchangeOrderId := "4"
      tradeId := "1"
      quantity := 105 / 100
      price := 100
      feeAmount := 0
      feeAsset := .usdt
      feeQuoteAmount := 0
      executedAt := 3
      valid := by decide +kernel }]
    valid := by decide +kernel }
  valid := by decide +kernel

/-- The history before the sale. -/
def lotHistory : List (Trade decimal128) := [lotBuy, lotSell, secondBuy]

/-- What the history before the sale restores to. -/
def restoredLot : Except TradingError (Restored decimal128) :=
  restore restLedger (.empty decimal128) lotHistory

/-- The trades built for the sale. -/
def manualTrades : Except TradingError (List (Trade decimal128)) := do
  let restored ← restoredLot
  buildExternalExitTrades lotHistory restored.position [manualSale] (4 / 100)
    (restored.settlement.totals decimal128).1 (restored.settlement.totals decimal128).2

/-- After this sale four hundredths are left, live and after a restart. -/
theorem buildExternalExitTrades_consistent_manualSale :
    ∃ restored trades settlement position,
      restore restLedger (.empty decimal128) lotHistory = .ok restored ∧ trades ≠ [] ∧
      restored.settlement.applyExternalTrades restored.position 4 trades =
        .ok (settlement, position) ∧
      decimal128.add position.state.quantity (settlement.totals decimal128).1 = 4 / 100 ∧
      ∃ extended, restore restLedger (.empty decimal128) (lotHistory ++ trades) = .ok extended ∧
        extended.position = position ∧
        extended.settlement.totals decimal128 = settlement.totals decimal128 := by
  have hsome : manualTrades.toOption.map List.length = some 1 := by decide +kernel
  cases htrades : manualTrades with
  | error error =>
      rw [htrades] at hsome
      cases hsome
  | ok trades =>
      rw [htrades] at hsome
      obtain ⟨restored, hrestored, hbuilt⟩ := Except.bind_eq_ok_iff.mp htrades
      obtain ⟨settlement, position, happlied, hbalance, hextended⟩ :=
        buildExternalExitTrades_consistent hrestored hbuilt
      refine ⟨restored, trades, settlement, position, hrestored, ?_, happlied, hbalance, hextended⟩
      rintro rfl
      cases hsome

end Trading
