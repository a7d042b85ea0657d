import AutoTrader.Trading.Accounting.Replay
import AutoTrader.Support.State

/-!
# Settling a residual

`ResidualSettlement.settle` of `application/residual_settlement.py`: the rest of a lot
below one order step is stored in the ledger first, and then leaves the position.

* `ResidualStore` — the stored transfers, one for a history at most.
* `SettlementProcess` — the position and the service of a running process, over the store.
* `settle`, `settleToSave` — the call, and its part up to the store.
* `SettlementAttempt` — a call, a call the process does not survive, and a restart.
* `ResidualStore.restored_of_saved` — the restart after a transfer was stored.
-/

namespace Trading

open Arithmetic

variable {ctx : DecimalContext}

/-! ## The store -/

/-- The transfers on disk, in the order of their histories. -/
@[ext] structure ResidualStore where
  transfers : List ResidualTransfer
  increasing : (transfers.map (·.historyCount)).Pairwise (· < ·)

/-- The constructor of a transfer. -/
def ResidualTransfer.create (historyCount : ℕ) (historySha256 : String)
    (quantity costBasis stepSize : ℚ) : Except TradingError ResidualTransfer :=
  if h₁ : 2 ≤ historyCount then
    if h₂ : 0 < quantity ∧ 0 < costBasis ∧ 0 < stepSize then
      if h₃ : quantity < stepSize then
        .ok ⟨historyCount, historySha256, quantity, costBasis, stepSize, h₁, h₂, h₃⟩
      else .error (.valueError "residual must be smaller than LOT_SIZE stepSize")
    else .error (.valueError "residual values must be positive finite Decimal")
  else .error (.valueError "residual requires BUY and SELL history")

/-- What `create` puts into a transfer. -/
theorem ResidualTransfer.create_eq_ok {historyCount : ℕ} {historySha256 : String}
    {quantity costBasis stepSize : ℚ} {entry : ResidualTransfer}
    (h : create historyCount historySha256 quantity costBasis stepSize = .ok entry) :
    entry.historyCount = historyCount ∧ entry.historySha256 = historySha256 ∧
      entry.quantity = quantity ∧ entry.costBasis = costBasis ∧ entry.stepSize = stepSize := by
  unfold create at h
  split at h
  · split at h
    · split at h
      · cases h
        exact ⟨rfl, rfl, rfl, rfl, rfl⟩
      · cases h
    · cases h
  · cases h

/-- `save`: one more transfer, if the store is what the caller read. -/
def ResidualStore.save (store : ResidualStore) (previous : List ResidualTransfer)
    (entry : ResidualTransfer) : Except TradingError ResidualStore :=
  if h : store.transfers = previous ∧ ∀ last ∈ previous, last.historyCount < entry.historyCount then
    .ok {
      transfers := previous ++ [entry]
      increasing := by
        rw [List.map_append, List.pairwise_append]
        refine ⟨h.1 ▸ store.increasing, List.pairwise_singleton _ _, ?_⟩
        intro a ha b hb
        obtain ⟨last, hlast, rfl⟩ := List.mem_map.mp ha
        obtain rfl : b = entry.historyCount := by simpa using hb
        exact h.2 last hlast }
  else .error (.valueError "residual ledger changed before commit")

theorem ResidualStore.save_eq_ok {store saved : ResidualStore} {previous : List ResidualTransfer}
    {entry : ResidualTransfer} (h : store.save previous entry = .ok saved) :
    store.transfers = previous ∧ saved.transfers = previous ++ [entry] ∧
      ∀ last ∈ previous, last.historyCount < entry.historyCount := by
  unfold save at h
  split at h
  · rename_i hsave
    cases h
    exact ⟨hsave.1, rfl, hsave.2⟩
  · cases h

/-! ## The process -/

/-- A running process: its position, its residual service, and the store on disk. -/
structure SettlementProcess (ctx : DecimalContext) where
  position : Position ctx
  settlement : ResidualSettlement := {}
  store : ResidualStore

/-- A method of the process. -/
abbrev SettlementM (ctx : DecimalContext) := EStateM TradingError (SettlementProcess ctx)

section Settle

variable (digest : List (Trade ctx) → String) (trades : List (Trade ctx)) (stepSize : ℚ)

/-- What `restore` reads from the store. -/
def ResidualStore.ledger (store : ResidualStore) : ResidualLedger ctx where
  transfers := store.transfers
  historyDigest := digest
  currentStepSize := some stepSize

/-- The history replayed on an empty position. -/
def ResidualStore.restored (store : ResidualStore) : Except TradingError (Restored ctx) :=
  restore (store.ledger digest stepSize) (.empty ctx) trades

/-- What is left to do after the replay. -/
inductive SettleDecision where
  | nothing
  | detach (entry : ResidualTransfer)
  | transfer (entry : ResidualTransfer)

/-- A rest of the last full sale becomes a new transfer. -/
def newTransfer (position : Position ctx) (restored : Restored ctx) :
    Except TradingError SettleDecision :=
  if restored.eligible = true ∧ 0 < position.state.quantity ∧ position.state.quantity < stepSize
  then do
    Except.require (position.state.quantity = restored.position.state.quantity ∧
        position.state.costBasis = restored.position.state.costBasis)
      (.valueError "live Position differs from durable residual replay")
    let entry ← ResidualTransfer.create trades.length (digest trades) position.state.quantity
      position.state.costBasis stepSize
    .ok (.transfer entry)
  else .ok .nothing

/-- A transfer that is stored already is carried out; else a new one may be due. -/
def decideSettlement (position : Position ctx) (restored : Restored ctx) :
    Except TradingError SettleDecision :=
  match restored.settlement.transfers.getLast? with
  | some entry =>
      if entry.historyCount = trades.length then
        .ok (if 0 < position.state.quantity then .detach entry else .nothing)
      else newTransfer digest trades stepSize position restored
  | none => newTransfer digest trades stepSize position restored

/-- How far a call is when no more writes to the store come. -/
inductive SettleStage where
  | done (settled : Bool)
  | saved (entry : ResidualTransfer)

/-- The position without its rest. -/
def detachStep (entry : ResidualTransfer) : SettlementM ctx PUnit := do
  let process ← get
  let position ← Stateful.raising
    (process.position.detachResidual entry.quantity entry.costBasis entry.stepSize)
  modify fun process => { process with position }

/-- `self.storage.save(self.transfers, entry)`. -/
def saveStep (entry : ResidualTransfer) : SettlementM ctx PUnit := do
  let process ← get
  let store ← Stateful.raising (process.store.save process.settlement.transfers entry)
  modify fun process => { process with store }

/-- `self.restore(Position(), trades, step_size)`. -/
def restoreStep : SettlementM ctx (Restored ctx) := do
  let process ← get
  let restored ← Stateful.raising (process.store.restored digest trades stepSize)
  modify fun process => { process with settlement := restored.settlement }
  pure restored

/-- What a decision does up to the store. -/
def carryOut : SettleDecision → SettlementM ctx SettleStage
  | .nothing => pure (.done false)
  | .detach entry => do
      detachStep entry
      pure (.done true)
  | .transfer entry => do
      saveStep entry
      pure (.saved entry)

/-- `settle` up to the point where a new transfer is stored. -/
def settleToSave : SettlementM ctx SettleStage := do
  let restored ← restoreStep digest trades stepSize
  let process ← get
  let decision ← Stateful.raising
    (decideSettlement digest trades stepSize process.position restored)
  carryOut decision

/-- The rest of `settle`: a stored transfer reaches the memory of the process. -/
def settleStored : SettleStage → SettlementM ctx Bool
  | .done settled => pure settled
  | .saved entry => do
      modify fun process => { process with
        settlement := { process.settlement with
          transfers := process.settlement.transfers ++ [entry] } }
      detachStep entry
      pure true

/-- `settle`. -/
def settle : SettlementM ctx Bool := do
  let stage ← settleToSave digest trades stepSize
  settleStored stage

/-- A new process over the store. -/
def restartProcess (store : ResidualStore) : Except TradingError (SettlementProcess ctx) := do
  let restored ← store.restored digest trades stepSize
  .ok { position := restored.position, settlement := restored.settlement, store }

/-- One attempt to settle: it completes, or the process stops right after the transfer is
stored, or it stops earlier.  A process that stopped is started again. -/
inductive SettlementAttempt where
  | complete
  | crashAfterSave
  | crashBeforeSave
  deriving DecidableEq

def SettlementAttempt.run (process : SettlementProcess ctx) :
    SettlementAttempt → Except TradingError (SettlementProcess ctx)
  | .complete =>
      match settle digest trades stepSize process with
      | .ok _ next => .ok next
      | .error error _ => .error error
  | .crashAfterSave =>
      match settleToSave digest trades stepSize process with
      | .ok (.saved _) next => restartProcess digest trades stepSize next.store
      | .ok (.done _) next => .ok next
      | .error error _ => .error error
  | .crashBeforeSave => restartProcess digest trades stepSize process.store

/-- Attempts one after the other. -/
def runAttempts (process : SettlementProcess ctx) (attempts : List SettlementAttempt) :
    Except TradingError (SettlementProcess ctx) :=
  attempts.foldlM (SettlementAttempt.run digest trades stepSize) process

end Settle

/-! ## Replays over a longer ledger -/

section Replay

variable {ledger longer : ResidualLedger ctx} {before trades : List (Trade ctx)}
  {state next : ReplayState ctx}

/-- Two ledgers that differ in their transfers only. -/
structure SameRules (ledger longer : ResidualLedger ctx) : Prop where
  digest : longer.historyDigest = ledger.historyDigest
  step : longer.currentStepSize = ledger.currentStepSize

/-- A round depends on the transfer recorded at its trade only. -/
theorem replayTrade_congr {trade : Trade ctx} (hrules : SameRules ledger longer)
    (hentry : longer.entryAt (before.length + 1) = ledger.entryAt (before.length + 1)) :
    replayTrade longer before state trade = replayTrade ledger before state trade := by
  simp only [replayTrade, hentry, detachEntry, hrules.digest, hrules.step]

theorem replay_congr (hrules : SameRules ledger longer)
    (hentry : ∀ count, before.length < count → count ≤ before.length + trades.length →
      longer.entryAt count = ledger.entryAt count) :
    replay longer before state trades = replay ledger before state trades := by
  induction trades generalizing before state with
  | nil => rfl
  | cons trade trades ih =>
      have hlength : (before ++ [trade]).length = before.length + 1 := by simp
      have hround : replayTrade longer before state trade = replayTrade ledger before state trade :=
        replayTrade_congr hrules (hentry (before.length + 1) (by omega) (by simp))
      simp only [replay, hround]
      cases replayTrade ledger before state trade with
      | error error => rfl
      | ok middle =>
          simp only [Except.ok_bind]
          apply ih
          intro count hlt hle
          rw [hlength] at hlt hle
          exact hentry count (by omega) (by simp only [List.length_cons]; omega)

/-- The whole rest below one step leaves a position. -/
theorem Position.detachResidual_eq_ok_iff {position after : Position ctx}
    {quantity costBasis stepSize : ℚ} :
    position.detachResidual quantity costBasis stepSize = .ok after ↔
      (0 < quantity ∧ 0 < costBasis ∧ 0 < stepSize) ∧
      (quantity < stepSize ∧ position.state.quantity = quantity ∧
        position.state.costBasis = costBasis) ∧
      position.legacyBaseFeeHistoryOpen = false ∧
      after = { position with state := closedState ctx position.state.exitReason } := by
  unfold Position.detachResidual Position.requireHistoryAccountingCompatibility
  rw [Except.require_bind_eq_ok_iff, Except.require_bind_eq_ok_iff, Except.require_bind_eq_ok_iff,
    Except.ok.injEq, eq_comm (a := after)]

/-- A last round without a transfer, repeated with one that takes its rest. -/
theorem replayTrade_of_transfer {trade : Trade ctx} {entry : ResidualTransfer}
    {after : Position ctx} (hrules : SameRules ledger longer)
    (hnone : ledger.entryAt (before.length + 1) = none)
    (hsome : longer.entryAt (before.length + 1) = some entry)
    (hstep : ledger.currentStepSize = some entry.stepSize)
    (hdigest : entry.historySha256 = ledger.historyDigest (before ++ [trade]))
    (hround : replayTrade ledger before state trade = .ok next) (heligible : next.eligible = true)
    (hdetach : next.position.detachResidual entry.quantity entry.costBasis entry.stepSize =
      .ok after) :
    replayTrade longer before state trade = .ok {
      position := after
      settlement := { next.settlement with transfers := next.settlement.transfers ++ [entry] }
      feeSeen := next.feeSeen
      eligible := false } := by
  simp only [replayTrade, hnone, hsome, Option.map_none, Option.none_or, Option.map_some,
    Option.some_or, hstep] at hround ⊢
  obtain ⟨⟨settlement, position⟩, happlied, hround⟩ := Except.bind_eq_ok_iff.mp hround
  cases hround
  rw [happlied]
  simp only [Except.ok_bind, detachEntry, hrules.digest]
  simp only at heligible hdetach
  rw [heligible, Except.require, if_pos ⟨rfl, hdigest⟩, hdetach]
  rfl

/-- A round with a transfer leaves nothing in the position. -/
theorem replayTrade_quantity {trade : Trade ctx} {entry : ResidualTransfer}
    (hsome : ledger.entryAt (before.length + 1) = some entry)
    (hround : replayTrade ledger before state trade = .ok next) :
    next.position.state = closedState ctx next.position.state.exitReason := by
  simp only [replayTrade, hsome] at hround
  obtain ⟨⟨settlement, position⟩, -, hround⟩ := Except.bind_eq_ok_iff.mp hround
  obtain ⟨⟨detached, after⟩, hdetached, hround⟩ := Except.bind_eq_ok_iff.mp hround
  cases hround
  unfold detachEntry at hdetached
  obtain ⟨-, hdetached⟩ := Except.require_bind_eq_ok_iff.mp hdetached
  obtain ⟨position', hposition, hdetached⟩ := Except.bind_eq_ok_iff.mp hdetached
  cases hdetached
  obtain ⟨-, -, -, rfl⟩ := Position.detachResidual_eq_ok_iff.mp hposition
  rfl

end Replay

/-! ## Restarts over the store -/

section Store

variable {digest : List (Trade ctx) → String} {trades : List (Trade ctx)} {stepSize : ℚ}
  {store stored : ResidualStore} {restored : Restored ctx} {entry : ResidualTransfer}

/-- What a successful `restore` has checked and computed. -/
theorem ResidualStore.restored_eq_ok (h : store.restored digest trades stepSize = .ok restored) :
    ∃ last, replay (store.ledger digest stepSize) [] { position := .empty ctx } trades = .ok last ∧
      validateLedger (store.ledger digest stepSize) trades = .ok () ∧
      last.position.legacyBaseFeeHistoryOpen = false ∧ restored.position = last.position ∧
      restored.eligible = last.eligible ∧ restored.settlement.transfers = store.transfers ∧
      restored.settlement.externalConsumptions = last.settlement.externalConsumptions := by
  obtain ⟨⟨⟩, hvalid, h⟩ := Except.bind_eq_ok_iff.mp h
  obtain ⟨last, hlast, h⟩ := Except.bind_eq_ok_iff.mp h
  obtain ⟨hlegacy, h⟩ := Except.require_bind_eq_ok_iff.mp h
  cases h
  exact ⟨last, hlast, hvalid, hlegacy, rfl, rfl, rfl, rfl⟩

/-- A transfer of another history does not change what is found for this one. -/
theorem ResidualStore.entryAt_of_ne (hstored : stored.transfers = store.transfers ++ [entry])
    {count : ℕ} (hne : entry.historyCount ≠ count) :
    (stored.ledger digest stepSize).entryAt count = (store.ledger digest stepSize).entryAt count := by
  simp [ResidualLedger.entryAt, ResidualStore.ledger, hstored, List.find?_append, hne]

theorem ResidualStore.entryAt_eq_none {count : ℕ}
    (hnone : ∀ other ∈ store.transfers, other.historyCount ≠ count) :
    (store.ledger digest stepSize).entryAt count = none := by
  simpa [ResidualLedger.entryAt, ResidualStore.ledger, List.find?_eq_none] using hnone

theorem ResidualStore.entryAt_eq_some (hentry : entry ∈ store.transfers) :
    (store.ledger digest stepSize).entryAt entry.historyCount = some entry := by
  have hnodup : (store.transfers.map (·.historyCount)).Nodup :=
    store.increasing.imp fun h => h.ne
  obtain ⟨found, hfound⟩ : ∃ found,
      (store.ledger digest stepSize).entryAt entry.historyCount = some found := by
    refine Option.isSome_iff_exists.mp (List.find?_isSome.mpr ⟨entry, hentry, ?_⟩)
    simp
  have hmem : found ∈ store.transfers := List.mem_of_find?_eq_some hfound
  have hcount : found.historyCount = entry.historyCount := by
    simpa using List.find?_some hfound
  rw [hfound, List.inj_on_of_nodup_map hnodup hmem hentry hcount]

/-- A restart over a transfer of the whole history leaves nothing in the position. -/
theorem ResidualStore.restored_closed (h : store.restored digest trades stepSize = .ok restored)
    (hentry : entry ∈ store.transfers) (hcount : entry.historyCount = trades.length) :
    restored.position.state = closedState ctx restored.position.state.exitReason := by
  obtain ⟨last, hlast, -, -, hposition, -⟩ := restored_eq_ok h
  rcases List.eq_nil_or_concat trades with rfl | ⟨earlier, trade, rfl⟩
  · have := entry.history_has_sale
    simp only [List.length_nil] at hcount
    omega
  · rw [List.concat_eq_append, replay_append_eq] at hlast
    obtain ⟨middle, -, hlast⟩ := Except.bind_eq_ok_iff.mp hlast
    obtain ⟨next, hround, hlast⟩ := Except.bind_eq_ok_iff.mp hlast
    cases hlast
    have hsome : (store.ledger digest stepSize).entryAt entry.historyCount = some entry :=
      entryAt_eq_some hentry
    rw [hcount] at hsome
    rw [hposition]
    exact replayTrade_quantity (by simpa using hsome) hround

/-- The restart after a transfer of the replayed rest was stored. -/
theorem ResidualStore.restored_of_saved (h : store.restored digest trades stepSize = .ok restored)
    (heligible : restored.eligible = true)
    (hnone : ∀ other ∈ store.transfers, other.historyCount ≠ trades.length)
    (hstored : stored.transfers = store.transfers ++ [entry])
    (hcount : entry.historyCount = trades.length) (hsha : entry.historySha256 = digest trades)
    (hstep : entry.stepSize = stepSize)
    (hquantity : restored.position.state.quantity = entry.quantity)
    (hcost : restored.position.state.costBasis = entry.costBasis) :
    ∃ after, stored.restored digest trades stepSize = .ok after ∧
      after.position =
        ⟨closedState ctx restored.position.state.exitReason, false⟩ ∧
      after.settlement.transfers = stored.transfers ∧
      after.settlement.externalConsumptions = restored.settlement.externalConsumptions := by
  obtain ⟨last, hlast, hvalid, hlegacy, hposition, hlastEligible, -, hconsumptions⟩ :=
    restored_eq_ok h
  have hrules : SameRules (store.ledger digest stepSize) (stored.ledger digest stepSize) := ⟨rfl, rfl⟩
  have hdetach : last.position.detachResidual entry.quantity entry.costBasis entry.stepSize =
      .ok { last.position with state := closedState ctx last.position.state.exitReason } := by
    rw [Position.detachResidual_eq_ok_iff]
    refine ⟨entry.values_pos, ⟨entry.below_step, ?_, ?_⟩, hlegacy, rfl⟩
    · rw [← hposition]
      exact hquantity
    · rw [← hposition]
      exact hcost
  have hreplay : replay (stored.ledger digest stepSize) [] { position := .empty ctx } trades = .ok {
      position := { last.position with state := closedState ctx last.position.state.exitReason }
      settlement := { last.settlement with transfers := last.settlement.transfers ++ [entry] }
      feeSeen := last.feeSeen
      eligible := false } := by
    rcases List.eq_nil_or_concat trades with rfl | ⟨earlier, trade, rfl⟩
    · have := entry.history_has_sale
      simp only [List.length_nil] at hcount
      omega
    · rw [List.concat_eq_append] at hlast hcount hsha hnone ⊢
      rw [List.length_append, List.length_singleton] at hcount hnone
      rw [replay_append_eq] at hlast ⊢
      have hearlier : replay (stored.ledger digest stepSize) [] { position := .empty ctx } earlier =
          replay (store.ledger digest stepSize) [] { position := .empty ctx } earlier := by
        apply replay_congr hrules
        intro count _ hle
        simp only [List.length_nil, Nat.zero_add] at hle
        exact entryAt_of_ne hstored (by omega)
      rw [hearlier]
      obtain ⟨middle, hmiddle, hlast⟩ := Except.bind_eq_ok_iff.mp hlast
      obtain ⟨next, hround, hlast⟩ := Except.bind_eq_ok_iff.mp hlast
      cases hlast
      have hsome : (stored.ledger digest stepSize).entryAt (earlier.length + 1) = some entry := by
        rw [← hcount]
        exact entryAt_eq_some (by rw [hstored]; simp)
      rw [List.nil_append] at hround ⊢
      rw [hmiddle, Except.ok_bind, replay, replayTrade_of_transfer hrules (entryAt_eq_none hnone)
        hsome (by rw [hstep]; rfl) hsha hround (by rw [← hlastEligible]; exact heligible) hdetach]
      rfl
  have hvalidStored : validateLedger (stored.ledger digest stepSize) trades = .ok () := by
    unfold validateLedger at hvalid ⊢
    obtain ⟨hsteps, hvalid⟩ := Except.require_bind_eq_ok_iff.mp hvalid
    obtain ⟨-, hlengths⟩ := Except.require_eq_ok_iff.mp hvalid
    rw [Except.require_bind_eq_ok_iff, Except.require_eq_ok_iff]
    refine ⟨.inr ⟨stepSize, rfl, hstep ▸ entry.values_pos.2.2, ?_⟩,
      stored.increasing.imp fun h => h.ne, ?_⟩
    · intro other hother
      have hother' : other ∈ store.transfers ++ [entry] := hstored ▸ hother
      rcases List.mem_append.mp hother' with hold | hnew
      · rcases hsteps with hnil | ⟨step, hcurrent, -, hle⟩
        · have hempty : store.transfers = [] := hnil
          rw [hempty] at hold
          exact absurd hold List.not_mem_nil
        · have hequal : stepSize = step := by simpa [ledger] using hcurrent
          rw [hequal]
          exact hle other hold
      · rw [List.mem_singleton.mp hnew, hstep]
    · intro other hother
      have hother' : other ∈ store.transfers ++ [entry] := hstored ▸ hother
      rcases List.mem_append.mp hother' with hold | hnew
      · exact hlengths other hold
      · rw [List.mem_singleton.mp hnew, hcount]
  refine ⟨{
    position := { last.position with state := closedState ctx last.position.state.exitReason }
    settlement := {
      transfers := stored.transfers
      externalConsumptions := last.settlement.externalConsumptions
      openBaseFee := last.feeSeen && decide ((0 : ℚ) < 0) }
    eligible := false }, ?_, ?_, rfl, hconsumptions.symm⟩
  · unfold ResidualStore.restored restore
    rw [hvalidStored, Except.ok_bind, hreplay, Except.ok_bind]
    simp only [Position.requireHistoryAccountingCompatibility, Except.require, hlegacy, if_true]
    rfl
  · rw [hposition]
    simp only [hlegacy]

end Store

end Trading
