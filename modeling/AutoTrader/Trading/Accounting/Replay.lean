import AutoTrader.Trading.Accounting.Residual

/-!
# Replays of the history

What the loop of `restore` keeps, however its arithmetic rounds.

* `ResidualSettlement.SameEvents` — two ledgers with the same changes have the same totals.
* `ResidualSettlement.RecordedBy.totals_consume` — a consumption after everything recorded is
  subtracted from the totals.
* `replayTrade_eq_ok`, `replay_append_eq` — one round of a replay, and a replay in two parts.
* `TransfersReplayed`, `replay_transfers` — the replayed transfers are the stored ones.
* `replay_recordedBy` — nothing in the ledger is later than the history.
* `restore_eq_ok` — what a restart leaves, from the last state of its replay.
-/

namespace Trading

open Arithmetic

/-! ## The changes of a ledger in their sequence -/

section Events

/-- The order of events is the lexicographic one. -/
def eventKey (event : ResidualEvent) : ℕ ×ₗ ℚ ×ₗ ℚ := toLex (event.1, toLex event.2)

theorem residualEventLe_iff {a b : ResidualEvent} :
    residualEventLe a b = true ↔ eventKey a ≤ eventKey b := by
  simp only [residualEventLe, decide_eq_true_eq, eventKey, Prod.Lex.toLex_le_toLex]

/-- Events sorted by their sequence. -/
abbrev sortEvents (events : List ResidualEvent) : List ResidualEvent :=
  events.insertionSort fun a b => residualEventLe a b = true

theorem pairwise_sortEvents (events : List ResidualEvent) :
    (sortEvents events).Pairwise fun a b => residualEventLe a b = true := by
  have htotal : Std.Total fun a b : ResidualEvent => residualEventLe a b = true := by
    refine ⟨fun a b => ?_⟩
    rw [residualEventLe_iff, residualEventLe_iff]
    exact le_total _ _
  have htrans : IsTrans ResidualEvent fun a b => residualEventLe a b = true := by
    refine ⟨fun a b c => ?_⟩
    rw [residualEventLe_iff, residualEventLe_iff, residualEventLe_iff]
    exact le_trans
  exact List.pairwise_insertionSort _ _

/-- A list in sequence is what sorting any rearrangement of it gives. -/
theorem sortEvents_eq {events sorted : List ResidualEvent} (hperm : events.Perm sorted)
    (hsorted : sorted.Pairwise fun a b => residualEventLe a b = true) :
    sortEvents events = sorted := by
  refine ((List.perm_insertionSort _ _).trans hperm).eq_of_pairwise ?_
    (pairwise_sortEvents _) hsorted
  intro a b _ _ hab hba
  have hkey := le_antisymm (residualEventLe_iff.mp hab) (residualEventLe_iff.mp hba)
  exact Prod.ext (congrArg (·.1) (toLex.injective hkey))
    (toLex.injective (congrArg (·.2) (toLex.injective hkey)))

end Events

namespace ResidualSettlement

/-- The same transfers in some order, and the same consumptions. -/
structure SameEvents (a b : ResidualSettlement) : Prop where
  transfers : a.transfers.Perm b.transfers
  consumptions : a.externalConsumptions = b.externalConsumptions

theorem SameEvents.totals {ctx : DecimalContext} {a b : ResidualSettlement}
    (h : SameEvents a b) : a.totals ctx = b.totals ctx := by
  have hevents : a.events = b.events := by
    refine sortEvents_eq ?_ (pairwise_sortEvents _)
    rw [h.consumptions]
    exact ((h.transfers.map _).append_right _).trans (List.perm_insertionSort _ _).symm
  rw [ResidualSettlement.totals, ResidualSettlement.totals, hevents]

/-- Everything in the ledger happened within the first `count` trades. -/
structure RecordedBy (settlement : ResidualSettlement) (count : ℕ) : Prop where
  transfers : ∀ entry ∈ settlement.transfers, entry.historyCount ≤ count
  consumptions : ∀ consumption ∈ settlement.externalConsumptions, consumption.1 ≤ count

/-- The ledger after one more consumption. -/
def consume (settlement : ResidualSettlement) (consumption : ResidualEvent) :
    ResidualSettlement :=
  { settlement with externalConsumptions := settlement.externalConsumptions ++ [consumption] }

theorem RecordedBy.consume {settlement : ResidualSettlement} {count : ℕ}
    (h : settlement.RecordedBy count) (quantity cost : ℚ) :
    (settlement.consume (count + 1, quantity, cost)).RecordedBy (count + 1) := by
  refine ⟨fun entry hmem => (h.transfers entry hmem).trans (Nat.le_succ _), ?_⟩
  intro consumption hmem
  rcases List.mem_append.mp hmem with hmem | hmem
  · exact (h.consumptions consumption hmem).trans (Nat.le_succ _)
  · rw [List.mem_singleton.mp hmem]

/-- A consumption at a later trade is the last of the changes. -/
theorem RecordedBy.events_consume {settlement : ResidualSettlement} {count : ℕ}
    (h : settlement.RecordedBy count) (quantity cost : ℚ) :
    (settlement.consume (count + 1, quantity, cost)).events =
      settlement.events ++ [(count + 1, -quantity, -cost)] := by
  refine sortEvents_eq ?_ ?_
  · simp only [ResidualSettlement.consume, List.map_append, List.map_cons, List.map_nil,
      consumptionEvent]
    rw [← List.append_assoc]
    exact (List.perm_insertionSort _ _).symm.append_right _
  · refine List.pairwise_append.mpr ⟨pairwise_sortEvents _, List.pairwise_singleton _ _, ?_⟩
    intro event hevent last hlast
    have hcount : event.1 ≤ count := by
      rcases List.mem_append.mp ((List.perm_insertionSort _ _).mem_iff.mp hevent) with hmem | hmem
      · obtain ⟨entry, hentry, rfl⟩ := List.mem_map.mp hmem
        exact h.transfers entry hentry
      · obtain ⟨consumption, hconsumption, rfl⟩ := List.mem_map.mp hmem
        exact h.consumptions consumption hconsumption
    rw [List.mem_singleton.mp hlast]
    simp only [residualEventLe, decide_eq_true_eq]
    exact .inl (Nat.lt_succ_of_le hcount)

/-- A consumption at a later trade is subtracted from the totals. -/
theorem RecordedBy.totals_consume {ctx : DecimalContext} {settlement : ResidualSettlement}
    {count : ℕ} (h : settlement.RecordedBy count) (quantity cost : ℚ) :
    (settlement.consume (count + 1, quantity, cost)).totals ctx =
      (ctx.sub (settlement.totals ctx).1 quantity, ctx.sub (settlement.totals ctx).2 cost) := by
  simp only [ResidualSettlement.totals, h.events_consume, List.map_append, List.map_cons,
    List.map_nil, DecimalContext.sum_append_singleton, DecimalContext.add, DecimalContext.sub,
    sub_eq_add_neg]

/-- Nothing subtracted, nothing changed: totals are rounded already. -/
theorem totals_sub_zero (ctx : DecimalContext) (settlement : ResidualSettlement) :
    (ctx.sub (settlement.totals ctx).1 0, ctx.sub (settlement.totals ctx).2 0) =
      settlement.totals ctx := by
  simp only [DecimalContext.sub, sub_zero]
  exact Prod.ext (ctx.sum_representable _) (ctx.sum_representable _)

end ResidualSettlement

/-! ## One round -/

section Replay

variable {ctx : DecimalContext} {ledger : ResidualLedger ctx} {state next : ReplayState ctx}
  {trade : Trade ctx} {before : List (Trade ctx)}

/-- What a trade does to the ledger's transfers when it takes effect: nothing. -/
theorem applyReplayedTrade_transfers {settlement : ResidualSettlement}
    {position : Position ctx} {count : ℕ}
    (h : applyReplayedTrade state trade count = .ok (settlement, position)) :
    settlement.transfers = state.settlement.transfers := by
  unfold applyReplayedTrade at h
  split at h
  · simp only [ResidualSettlement.applyExternalTrade, Except.require_bind_eq_ok_iff] at h
    obtain ⟨-, -, h⟩ := h
    obtain ⟨_, -, h⟩ := Except.bind_eq_ok_iff.mp h
    obtain ⟨_, -, h⟩ := Except.bind_eq_ok_iff.mp h
    simp only [Except.ok.injEq, Prod.mk.injEq] at h
    rw [← h.1]
    split <;> rfl
  · obtain ⟨_, -, h⟩ := Except.bind_eq_ok_iff.mp h
    cases h
    rfl

/-- One round of the replay: a trade takes effect, and then the transfer recorded at it. -/
theorem replayTrade_eq_ok (h : replayTrade ledger before state trade = .ok next) :
    ∃ settlement position,
      applyReplayedTrade state trade (before.length + 1) = .ok (settlement, position) ∧
      ((ledger.entryAt (before.length + 1) = none ∧ next.position = position ∧
          next.settlement = settlement) ∨
        ∃ entry eligible, ledger.entryAt (before.length + 1) = some entry ∧
          detachEntry ledger (before ++ [trade]) eligible settlement position entry =
            .ok (next.settlement, next.position)) := by
  unfold replayTrade at h
  obtain ⟨⟨settlement, position⟩, happlied, h⟩ := Except.bind_eq_ok_iff.mp h
  refine ⟨settlement, position, happlied, ?_⟩
  cases hentry : ledger.entryAt (before.length + 1) with
  | none =>
      simp only [hentry] at h
      cases h
      exact .inl ⟨rfl, rfl, rfl⟩
  | some entry =>
      simp only [hentry] at h
      obtain ⟨⟨detached, after⟩, hdetached, h⟩ := Except.bind_eq_ok_iff.mp h
      cases h
      exact .inr ⟨entry, _, rfl, hdetached⟩

/-- A replay in two parts. -/
theorem replay_append_eq (earlier later : List (Trade ctx)) :
    replay ledger before state (earlier ++ later) =
      (replay ledger before state earlier >>= fun middle =>
        replay ledger (before ++ earlier) middle later) := by
  induction earlier generalizing before state with
  | nil => simp [replay]
  | cons trade earlier ih =>
      simp only [List.cons_append, replay]
      cases replayTrade ledger before state trade with
      | error error => rfl
      | ok middle =>
          simp only [Except.ok_bind, ih, List.append_assoc, List.singleton_append]

/-! ## The replayed ledger is the stored one -/

theorem ResidualLedger.entryAt_eq_some {count : ℕ} {entry : ResidualTransfer}
    (h : ledger.entryAt count = some entry) :
    entry ∈ ledger.transfers ∧ entry.historyCount = count := by
  refine ⟨List.mem_of_find?_eq_some h, ?_⟩
  have hcount := List.find?_some h
  simpa using hcount

theorem ResidualLedger.entryAt_eq_none {count : ℕ} (h : ledger.entryAt count = none) :
    ∀ entry ∈ ledger.transfers, entry.historyCount ≠ count := by
  simpa [entryAt] using h

/-- The replayed transfers are the stored ones of the first `count` trades. -/
structure TransfersReplayed (ledger : ResidualLedger ctx) (count : ℕ)
    (transfers : List ResidualTransfer) : Prop where
  nodup : transfers.Nodup
  mem_iff : ∀ entry, entry ∈ transfers ↔ entry ∈ ledger.transfers ∧ entry.historyCount ≤ count

theorem replayTrade_transfers (hnodup : (ledger.transfers.map (·.historyCount)).Nodup)
    (hbefore : TransfersReplayed ledger before.length state.settlement.transfers)
    (h : replayTrade ledger before state trade = .ok next) :
    TransfersReplayed ledger (before.length + 1) next.settlement.transfers := by
  obtain ⟨settlement, position, happlied, hrest⟩ := replayTrade_eq_ok h
  have hsame := applyReplayedTrade_transfers happlied
  rcases hrest with ⟨hnone, -, hsettlement⟩ | ⟨entry, eligible, hsome, hdetached⟩
  · rw [hsettlement, hsame]
    refine ⟨hbefore.nodup, fun other => ?_⟩
    rw [hbefore.mem_iff]
    constructor
    · rintro ⟨hmem, hle⟩
      exact ⟨hmem, by omega⟩
    · rintro ⟨hmem, hle⟩
      have hne := ResidualLedger.entryAt_eq_none hnone other hmem
      exact ⟨hmem, by omega⟩
  · obtain ⟨hmem, hcount⟩ := ResidualLedger.entryAt_eq_some hsome
    simp only [detachEntry, Except.require_bind_eq_ok_iff] at hdetached
    obtain ⟨-, hdetached⟩ := hdetached
    obtain ⟨_, -, hdetached⟩ := Except.bind_eq_ok_iff.mp hdetached
    simp only [Except.ok.injEq, Prod.mk.injEq] at hdetached
    rw [← hdetached.1]
    have hnew : entry ∉ state.settlement.transfers := by
      rw [hbefore.mem_iff]
      rintro ⟨-, hle⟩
      omega
    refine ⟨?_, fun other => ?_⟩
    · rw [hsame, List.nodup_append]
      refine ⟨hbefore.nodup, List.nodup_singleton _, ?_⟩
      rintro a ha b hb rfl
      rw [List.mem_singleton.mp hb] at ha
      exact hnew ha
    · rw [List.mem_append, List.mem_singleton, hsame, hbefore.mem_iff]
      constructor
      · rintro (⟨hother, hle⟩ | rfl)
        · exact ⟨hother, by omega⟩
        · exact ⟨hmem, by omega⟩
      · rintro ⟨hother, hle⟩
        rcases Nat.lt_or_ge other.historyCount (before.length + 1) with hlt | hge
        · exact .inl ⟨hother, by omega⟩
        · have hequal : other.historyCount = entry.historyCount := by omega
          exact .inr (List.inj_on_of_nodup_map hnodup hother hmem hequal)

theorem replay_transfers {trades : List (Trade ctx)}
    (hnodup : (ledger.transfers.map (·.historyCount)).Nodup)
    (hbefore : TransfersReplayed ledger before.length state.settlement.transfers)
    (h : replay ledger before state trades = .ok next) :
    TransfersReplayed ledger (before.length + trades.length) next.settlement.transfers := by
  induction trades generalizing before state with
  | nil =>
      cases h
      exact hbefore
  | cons trade trades ih =>
      obtain ⟨middle, hmiddle, hrest⟩ := Except.bind_eq_ok_iff.mp h
      have hnext := replayTrade_transfers hnodup hbefore hmiddle
      have hlength : (before ++ [trade]).length = before.length + 1 := by simp
      have hlast := ih (by rw [hlength]; exact hnext) hrest
      rw [hlength, Nat.add_assoc, Nat.add_comm 1] at hlast
      exact hlast

/-- The start of a replay, with an empty ledger, is recorded before every trade. -/
theorem recordedBy_nil : ({} : ResidualSettlement).RecordedBy 0 := ⟨nofun, nofun⟩

/-- An external sale leaves the ledger alone or adds one consumption to it. -/
theorem applyExternalTrade_settlement {settlement after : ResidualSettlement}
    {position moved : Position ctx} {count : ℕ}
    (h : settlement.applyExternalTrade position trade count = .ok (after, moved)) :
    after = settlement ∨ ∃ quantity cost, after = settlement.consume (count, quantity, cost) := by
  simp only [ResidualSettlement.applyExternalTrade, Except.require_bind_eq_ok_iff] at h
  obtain ⟨-, -, h⟩ := h
  obtain ⟨taken, -, h⟩ := Except.bind_eq_ok_iff.mp h
  obtain ⟨_, -, h⟩ := Except.bind_eq_ok_iff.mp h
  simp only [Except.ok.injEq, Prod.mk.injEq] at h
  rw [← h.1]
  split
  · exact .inl rfl
  · exact .inr ⟨taken.1, taken.2, rfl⟩

theorem replayTrade_recordedBy (hbefore : state.settlement.RecordedBy before.length)
    (h : replayTrade ledger before state trade = .ok next) :
    next.settlement.RecordedBy (before.length + 1) := by
  obtain ⟨settlement, position, happlied, hrest⟩ := replayTrade_eq_ok h
  have hlater : state.settlement.RecordedBy (before.length + 1) :=
    ⟨fun entry hmem => (hbefore.transfers entry hmem).trans (Nat.le_succ _),
      fun consumption hmem => (hbefore.consumptions consumption hmem).trans (Nat.le_succ _)⟩
  have hmiddle : settlement.RecordedBy (before.length + 1) := by
    unfold applyReplayedTrade at happlied
    split at happlied
    · rcases applyExternalTrade_settlement happlied with rfl | ⟨quantity, cost, rfl⟩
      · exact hlater
      · exact hbefore.consume quantity cost
    · obtain ⟨_, -, happlied⟩ := Except.bind_eq_ok_iff.mp happlied
      cases happlied
      exact hlater
  rcases hrest with ⟨-, -, hsettlement⟩ | ⟨entry, eligible, hsome, hdetached⟩
  · rw [hsettlement]
    exact hmiddle
  · simp only [detachEntry, Except.require_bind_eq_ok_iff] at hdetached
    obtain ⟨-, hdetached⟩ := hdetached
    obtain ⟨_, -, hdetached⟩ := Except.bind_eq_ok_iff.mp hdetached
    simp only [Except.ok.injEq, Prod.mk.injEq] at hdetached
    rw [← hdetached.1]
    refine ⟨fun other hmem => ?_, hmiddle.consumptions⟩
    rcases List.mem_append.mp hmem with hmem | hmem
    · exact hmiddle.transfers other hmem
    · rw [List.mem_singleton.mp hmem, (ResidualLedger.entryAt_eq_some hsome).2]

/-- Nothing in a replayed ledger is later than the history. -/
theorem replay_recordedBy {trades : List (Trade ctx)}
    (hbefore : state.settlement.RecordedBy before.length)
    (h : replay ledger before state trades = .ok next) :
    next.settlement.RecordedBy (before.length + trades.length) := by
  induction trades generalizing before state with
  | nil =>
      cases h
      exact hbefore
  | cons trade trades ih =>
      obtain ⟨middle, hmiddle, hrest⟩ := Except.bind_eq_ok_iff.mp h
      have hlength : (before ++ [trade]).length = before.length + 1 := by simp
      have hnext := replayTrade_recordedBy hbefore hmiddle
      have hlast := ih (by rw [hlength]; exact hnext) hrest
      rw [hlength, Nat.add_assoc, Nat.add_comm 1] at hlast
      exact hlast

/-! ## What a restart leaves -/

theorem validateLedger_eq_ok {trades : List (Trade ctx)}
    (h : validateLedger ledger trades = .ok ()) :
    (ledger.transfers.map (·.historyCount)).Nodup ∧
      ∀ entry ∈ ledger.transfers, entry.historyCount ≤ trades.length := by
  obtain ⟨-, h⟩ := Except.require_bind_eq_ok_iff.mp h
  exact Except.require_eq_ok_iff.mp h

/-- A stored ledger that fits a history fits every longer one. -/
theorem validateLedger_append {trades : List (Trade ctx)} (more : List (Trade ctx))
    (h : validateLedger ledger trades = .ok ()) :
    validateLedger ledger (trades ++ more) = .ok () := by
  obtain ⟨hstep, hrest⟩ := Except.require_bind_eq_ok_iff.mp h
  obtain ⟨hnodup, hlength⟩ := Except.require_eq_ok_iff.mp hrest
  refine Except.require_bind_eq_ok_iff.mpr ⟨hstep, Except.require_eq_ok_iff.mpr ⟨hnodup, ?_⟩⟩
  intro entry hmem
  rw [List.length_append]
  exact (hlength entry hmem).trans (Nat.le_add_right _ _)

/-- What a restart leaves: the last position of the replay, and a ledger with the same
changes. -/
theorem restore_eq_ok {trades : List (Trade ctx)} {restored : Restored ctx}
    (h : restore ledger (.empty ctx) trades = .ok restored) :
    ∃ last, replay ledger [] { position := .empty ctx } trades = .ok last ∧
      restored.position = last.position ∧
      restored.position.legacyBaseFeeHistoryOpen = false ∧
      restored.settlement.SameEvents last.settlement ∧
      last.settlement.RecordedBy trades.length := by
  obtain ⟨_, hvalid, h⟩ := Except.bind_eq_ok_iff.mp h
  obtain ⟨last, hlast, h⟩ := Except.bind_eq_ok_iff.mp h
  obtain ⟨_, hcompatible, h⟩ := Except.bind_eq_ok_iff.mp h
  cases h
  obtain ⟨hnodup, hlength⟩ := validateLedger_eq_ok hvalid
  have hstart : TransfersReplayed ledger ([] : List (Trade ctx)).length
      ({ position := .empty ctx } : ReplayState ctx).settlement.transfers := by
    refine ⟨List.nodup_nil, fun entry => ?_⟩
    have := entry.history_has_sale
    simp only [List.not_mem_nil, List.length_nil, false_iff, not_and, not_le]
    intro
    omega
  have hreplayed := replay_transfers hnodup hstart hlast
  have hperm : ledger.transfers.Perm last.settlement.transfers := by
    refine (List.perm_ext_iff_of_nodup hnodup.of_map hreplayed.nodup).mpr fun entry => ?_
    rw [hreplayed.mem_iff]
    constructor
    · intro hmem
      exact ⟨hmem, by simpa using hlength entry hmem⟩
    · exact And.left
  have hrecorded := replay_recordedBy recordedBy_nil hlast
  rw [List.length_nil, Nat.zero_add] at hrecorded
  exact ⟨last, hlast, rfl, Except.require_eq_ok_iff.mp hcompatible, ⟨hperm, rfl⟩, hrecorded⟩

end Replay

/-! ## A lot sold but for a rest -/

/-- One ETH bought with a fee of a hundredth in ETH. -/
def lotBuy : Trade decimal128 where
  tradeId := "trade-1"
  orderId := "1"
  clientOrderId := "bat-1"
  executedAt := 0
  side := .buy
  regimeType := .type0
  strategy := .caseB
  requestedQuantity := 1
  executedQuantity := 1
  executedAmount := 99
  averageFillPrice := 99
  marketPriceAtDecision := some 99
  feeAmount := 1 / 100
  feeAsset := .single .eth
  feeQuoteAmount := 99 / 100
  valid := by decide +kernel

/-- The whole lot asked for, but sold in steps of a tenth. -/
def lotSell : Trade decimal128 where
  tradeId := "trade-2"
  orderId := "2"
  clientOrderId := "bat-2"
  executedAt := 1
  side := .sell
  regimeType := .type0
  strategy := .caseB
  requestedQuantity := 99 / 100
  executedQuantity := 9 / 10
  executedAmount := 90
  averageFillPrice := 100
  marketPriceAtDecision := some 100
  feeAmount := 0
  feeAsset := .single .usdt
  feeQuoteAmount := 0
  allocatedCostBasis := some 90
  realizedPnl := some 0
  realizedReturnRate := some 0
  exitReason := some .stop
  valid := by decide +kernel

end Trading
