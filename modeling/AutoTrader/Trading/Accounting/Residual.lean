import AutoTrader.Trading.Accounting.Position

/-!
# The residual ledger

ETH below one order step leaves the strategy position for a ledger of its own:
`domain/trading/residual.py` and `application/residual_settlement.py`.

* `allocateExternalResidual` — what an external sale beyond the lot takes from the ledger.
* `ResidualTransfer` — one durable transfer, bound to a prefix of the history.
* `ResidualSettlement` with `totals` and `applyExternalTrade`.
* `ReplayState`, `replayTrade`, `replay` — the loop of `restore` over the history.
* `restore` — the ledger and the history replayed together.

The SHA-256 of the history is a parameter: nothing here depends on which function binds
a transfer to its prefix.
-/

namespace Trading

open Arithmetic

variable {ctx : DecimalContext}

/-- `allocate_external_residual`: quantity and cost of the sold part beyond the lot. -/
def allocateExternalResidual (ctx : DecimalContext)
    (positionQuantity executedQuantity residualQuantity residualCost : ℚ) :
    Except TradingError (ℚ × ℚ) := do
  Except.require (0 ≤ positionQuantity ∧ 0 ≤ executedQuantity ∧ 0 ≤ residualQuantity ∧
      0 ≤ residualCost)
    (.valueError "invalid external residual allocation")
  Except.require (0 < positionQuantity ∧ 0 < executedQuantity ∧
      (residualQuantity = 0 ↔ residualCost = 0))
    (.valueError "external residual allocation requires an open lot and valid ledger")
  let consumed := max 0 (ctx.sub executedQuantity positionQuantity)
  Except.require (consumed ≤ residualQuantity)
    (.valueError "external sale exceeds position and residual principal")
  .ok (consumed,
    if consumed = 0 then 0
    else if consumed = residualQuantity then residualCost
    else ctx.div (ctx.mul residualCost consumed) residualQuantity)

/-- A durable transfer of a rest below one order step. -/
structure ResidualTransfer where
  historyCount : ℕ
  historySha256 : String
  quantity : ℚ
  costBasis : ℚ
  stepSize : ℚ
  history_has_sale : 2 ≤ historyCount
  values_pos : 0 < quantity ∧ 0 < costBasis ∧ 0 < stepSize
  below_step : quantity < stepSize
  deriving DecidableEq

/-- A change of the ledger: history position, quantity and cost. -/
abbrev ResidualEvent := ℕ × ℚ × ℚ

/-- A transfer adds to the ledger. -/
def ResidualTransfer.event (entry : ResidualTransfer) : ResidualEvent :=
  (entry.historyCount, entry.quantity, entry.costBasis)

/-- A consumption takes from the ledger. -/
def consumptionEvent (consumption : ResidualEvent) : ResidualEvent :=
  (consumption.1, -consumption.2.1, -consumption.2.2)

/-- The order of tuples, by which events are sorted. -/
def residualEventLe (a b : ResidualEvent) : Bool :=
  decide (a.1 < b.1 ∨ (a.1 = b.1 ∧ (a.2.1 < b.2.1 ∨ (a.2.1 = b.2.1 ∧ a.2.2 ≤ b.2.2))))

/-- The ledger next to the position: transfers into it and sales out of it. -/
structure ResidualSettlement where
  transfers : List ResidualTransfer := []
  externalConsumptions : List ResidualEvent := []
  openBaseFee : Bool := false

namespace ResidualSettlement

/-- The changes of the ledger in the sequence in which they count. -/
def events (settlement : ResidualSettlement) : List ResidualEvent :=
  (settlement.transfers.map ResidualTransfer.event ++
    settlement.externalConsumptions.map consumptionEvent).insertionSort
      fun a b => residualEventLe a b = true

/-- `totals`: the quantity and the cost that are left. -/
def totals (ctx : DecimalContext) (settlement : ResidualSettlement) : ℚ × ℚ :=
  (ctx.sum (settlement.events.map (·.2.1)), ctx.sum (settlement.events.map (·.2.2)))

/-- `apply_external_trade`: an external sale of the lot and, beyond it, of the ledger. -/
def applyExternalTrade (settlement : ResidualSettlement) (position : Position ctx)
    (trade : Trade ctx) (historyCount : ℕ) :
    Except TradingError (ResidualSettlement × Position ctx) := do
  Except.require (trade.schemaVersion = .v4 ∧ trade.exitReason = some .externalManual ∧
      trade.side = .sell)
    (.valueError "residual consumption requires an external SELL")
  let totals := settlement.totals ctx
  Except.require (trade.requestedQuantity ≤ ctx.add position.state.quantity totals.1)
    (.valueError "external requested quantity exceeds durable principal")
  let (quantity, cost) ← allocateExternalResidual ctx position.state.quantity
    trade.executedQuantity totals.1 totals.2
  let next ← position.applyHistoricalTrade trade quantity cost
  .ok (if quantity = 0 then settlement
    else { settlement with
      externalConsumptions := settlement.externalConsumptions ++ [(historyCount, quantity, cost)] },
    next)

end ResidualSettlement

/-! ## Replaying the history -/

/-- The local values of the loop of `restore`. -/
structure ReplayState (ctx : DecimalContext) where
  position : Position ctx
  settlement : ResidualSettlement := {}
  feeSeen : Bool := false
  eligible : Bool := false

/-- What a restart reads next to the history. -/
structure ResidualLedger (ctx : DecimalContext) where
  /-- The stored transfers. -/
  transfers : List ResidualTransfer
  /-- The digest that binds a transfer to a prefix of the history. -/
  historyDigest : List (Trade ctx) → String
  /-- The official order step, when it is known. -/
  currentStepSize : Option ℚ

/-- The transfer made after the first `count` trades. -/
def ResidualLedger.entryAt (ledger : ResidualLedger ctx) (count : ℕ) : Option ResidualTransfer :=
  ledger.transfers.find? fun entry => decide (entry.historyCount = count)

/-- An external sale of everything that whole order steps could sell. -/
def isExternalFullStep (trade : Trade ctx) (previousQuantity : ℚ) (step? : Option ℚ) : Bool :=
  match step? with
  | none => false
  | some step => decide (trade.exitReason = some .externalManual ∧ 0 < step ∧
      trade.requestedQuantity = trade.executedQuantity ∧
      trade.executedQuantity = ctx.mul ⌊previousQuantity / step⌋ step)

/-- Whether the open lot has paid a fee in ETH, after this trade has begun. -/
def nextFeeSeen (state : ReplayState ctx) (trade : Trade ctx) : Bool :=
  (decide (state.position.state.quantity ≠ 0) && state.feeSeen) ||
    decide (trade.side = .buy ∧ 0 < trade.baseFeeAmount)

/-- The transfer recorded at this trade leaves the position, if it proves where it is from. -/
def detachEntry (ledger : ResidualLedger ctx) (trades : List (Trade ctx)) (eligible : Bool)
    (settlement : ResidualSettlement) (position : Position ctx) (entry : ResidualTransfer) :
    Except TradingError (ResidualSettlement × Position ctx) := do
  Except.require (eligible = true ∧ entry.historySha256 = ledger.historyDigest trades)
    (.valueError "residual transfer provenance mismatch")
  let next ← position.detachResidual entry.quantity entry.costBasis entry.stepSize
  .ok ({ settlement with transfers := settlement.transfers ++ [entry] }, next)

/-- The trade takes effect on position and ledger. -/
def applyReplayedTrade (state : ReplayState ctx) (trade : Trade ctx) (count : ℕ) :
    Except TradingError (ResidualSettlement × Position ctx) :=
  if trade.exitReason = some .externalManual then
    state.settlement.applyExternalTrade state.position trade count
  else do
    let position ← state.position.applyHistoricalTrade trade
    .ok (state.settlement, position)

/-- One round of the loop of `restore`, for the trade after `before`. -/
def replayTrade (ledger : ResidualLedger ctx) (before : List (Trade ctx))
    (state : ReplayState ctx) (trade : Trade ctx) : Except TradingError (ReplayState ctx) := do
  let count := before.length + 1
  let previousQuantity := state.position.state.quantity
  let feeSeen := nextFeeSeen state trade
  let stored := ledger.entryAt count
  let step? := (stored.map (·.stepSize)).or ledger.currentStepSize
  let eligible := decide (trade.side = .sell) && feeSeen &&
    (decide (trade.requestedQuantity = previousQuantity) ||
      isExternalFullStep trade previousQuantity step?)
  let (settlement, position) ← applyReplayedTrade state trade count
  match stored with
  | none => .ok { position, settlement, feeSeen, eligible }
  | some entry => do
      let (settlement, position) ←
        detachEntry ledger (before ++ [trade]) eligible settlement position entry
      .ok { position, settlement, feeSeen, eligible := false }

/-- The loop of `restore` over the trades after `before`. -/
def replay (ledger : ResidualLedger ctx) (before : List (Trade ctx)) (state : ReplayState ctx) :
    List (Trade ctx) → Except TradingError (ReplayState ctx)
  | [] => .ok state
  | trade :: trades => do
      let next ← replayTrade ledger before state trade
      replay ledger (before ++ [trade]) next trades

/-- The stored transfers agree with the official step and with the history's length. -/
def validateLedger (ledger : ResidualLedger ctx) (trades : List (Trade ctx)) :
    Except TradingError Unit := do
  Except.require (ledger.transfers = [] ∨
      ∃ step ∈ ledger.currentStepSize, 0 < step ∧ ∀ entry ∈ ledger.transfers, entry.stepSize ≤ step)
    (.valueError "residual step requires current official filter reconciliation")
  Except.require ((ledger.transfers.map (·.historyCount)).Nodup ∧
      ∀ entry ∈ ledger.transfers, entry.historyCount ≤ trades.length)
    (.valueError "residual ledger has missing or duplicate history")

/-- What `restore` leaves: the position, the settlement, and its return value. -/
structure Restored (ctx : DecimalContext) where
  position : Position ctx
  settlement : ResidualSettlement
  eligible : Bool

/-- `restore`: the history and the transfers replayed on a position. -/
def restore (ledger : ResidualLedger ctx) (position : Position ctx) (trades : List (Trade ctx)) :
    Except TradingError (Restored ctx) := do
  validateLedger ledger trades
  let last ← replay ledger [] { position } trades
  last.position.requireHistoryAccountingCompatibility
  .ok {
    position := last.position
    settlement := {
      transfers := ledger.transfers
      externalConsumptions := last.settlement.externalConsumptions
      openBaseFee := last.feeSeen && decide (0 < last.position.state.quantity) }
    eligible := last.eligible }

end Trading
