import AutoTrader.Trading.Accounting.Conservation

/-!
# The provenance of a recovered position

Before a recovered position is liquidated, the controller replays the history once more to find
the REGIME and the strategy of the open lot.

* `resolveRecoveredPositionProvenance` — the second replay, with its rules about lots.
* `lots` — the lots of a history, by the positions of the first replay.
* `resolve_eq_ok_iff` — the second replay accepts a restored history exactly when every lot has
  one REGIME.
* `resolve_mixed_lot` — a history with a closed lot of two REGIMEs.
-/

namespace Trading

open Arithmetic

variable {ctx : DecimalContext}

/-! ## The second replay -/

/-- The REGIME and the strategy of a trade. -/
def Trade.provenance (trade : Trade ctx) : RegimeType × StrategyType :=
  (trade.regimeType, trade.strategy)

/-- The local values of the second replay. -/
structure ProvenanceReplay (ctx : DecimalContext) where
  position : Position ctx
  settlement : ResidualSettlement := {}
  openLot : Option (RegimeType × StrategyType) := none

/-- The lot a trade belongs to: a new one begins with a purchase, an open one keeps its
provenance. -/
def lotOfTrade (position : Position ctx) (openLot : Option (RegimeType × StrategyType))
    (trade : Trade ctx) : Except TradingError (Option (RegimeType × StrategyType)) :=
  if position.state.quantity = 0 then do
    Except.require (trade.side = .buy) (.valueError "A recovered open lot must begin with BUY")
    .ok (some trade.provenance)
  else do
    Except.require (openLot = some trade.provenance)
      (.valueError "A recovered open lot cannot mix REGIME or owner")
    .ok openLot

/-- The transfer recorded at a trade leaves the replayed position. -/
def detachRecorded (recordedEntry : Option ResidualTransfer) (settlement : ResidualSettlement)
    (position : Position ctx) : Except TradingError (ResidualSettlement × Position ctx) :=
  match recordedEntry with
  | none => .ok (settlement, position)
  | some entry => do
      let next ← position.detachResidual entry.quantity entry.costBasis entry.stepSize
      .ok ({ settlement with transfers := settlement.transfers ++ [entry] }, next)

/-- One round of the second replay. -/
def provenanceRound (ledger : ResidualLedger ctx) (state : ProvenanceReplay ctx)
    (trade : Trade ctx) (count : ℕ) : Except TradingError (ProvenanceReplay ctx) := do
  let openLot ← lotOfTrade state.position state.openLot trade
  let (settlement, position) ← applyReplayedTrade
    { position := state.position, settlement := state.settlement } trade count
  let (settlement, position) ← detachRecorded (ledger.entryAt count) settlement position
  .ok { position, settlement, openLot := if position.state.quantity = 0 then none else openLot }

/-- The second replay over the trades after `count` others. -/
def provenanceReplay (ledger : ResidualLedger ctx) (state : ProvenanceReplay ctx) (count : ℕ) :
    List (Trade ctx) → Except TradingError (ProvenanceReplay ctx)
  | [] => .ok state
  | trade :: trades => do
      let next ← provenanceRound ledger state trade (count + 1)
      provenanceReplay ledger next (count + 1) trades

/-- `_resolve_recovered_position_provenance`. -/
def resolveRecoveredPositionProvenance (ledger : ResidualLedger ctx) (trades : List (Trade ctx))
    (authoritative : PositionStateSnapshot ctx) :
    Except TradingError (RegimeType × StrategyType) := do
  let last ← provenanceReplay ledger { position := .empty ctx } 0 trades
  Except.require (last.position.state = authoritative)
    (.valueError "Durable history does not reproduce Position state")
  match last.openLot with
  | none => .error (.valueError "Durable history does not contain an open lot")
  | some provenance => .ok provenance

/-! ## Lots -/

/-- A trade before other lots: it leaves nothing of its own lot, or the first of them is its lot. -/
def joinLot (trade : Trade ctx) (closed : Prop) [Decidable closed] (rest : List (List (Trade ctx))) :
    List (List (Trade ctx)) :=
  if closed then [trade] :: rest
  else
    match rest with
    | [] => [[trade]]
    | lot :: more => (trade :: lot) :: more

/-- The lots of a history, each one from the purchase that opens a position to the trade that
leaves nothing of it; the first one goes on with an open position. -/
def lots (ledger : ResidualLedger ctx) (before : List (Trade ctx)) (state : ReplayState ctx) :
    List (Trade ctx) → List (List (Trade ctx))
  | [] => []
  | trade :: trades =>
      match replayTrade ledger before state trade with
      | .error _ => []
      | .ok next =>
          joinLot trade (next.position.state.quantity = 0)
            (lots ledger (before ++ [trade]) next trades)

/-- All trades of a lot have one REGIME and one strategy. -/
def HasProvenance (provenance : RegimeType × StrategyType) (lot : List (Trade ctx)) : Prop :=
  ∀ trade ∈ lot, trade.provenance = provenance

/-- The lots of a history continue the open one, and each of them has one provenance. -/
def Continues : Option (RegimeType × StrategyType) → List (List (Trade ctx)) → Prop
  | none, lots => ∀ lot ∈ lots, ∃ provenance, HasProvenance provenance lot
  | some _, [] => True
  | some provenance, lot :: more =>
      HasProvenance provenance lot ∧ ∀ lot ∈ more, ∃ provenance, HasProvenance provenance lot

/-! ## Both replays -/

section

variable {ledger : ResidualLedger ctx} {before : List (Trade ctx)} {trade : Trade ctx}

/-- A sale needs an open position. -/
theorem side_of_applied {state : ReplayState ctx} {count : ℕ}
    {after : ResidualSettlement × Position ctx}
    (h : applyReplayedTrade state trade count = .ok after)
    (hclosed : state.position.state.quantity = 0) : trade.side = .buy := by
  cases hside : trade.side with
  | buy => rfl
  | sell =>
      have hsale : ∀ {quantity cost : ℚ} {next : Position ctx},
          state.position.applyHistoricalTrade trade quantity cost = .ok next → False := by
        intro quantity cost next happlied
        simp only [Position.applyHistoricalTrade, Position.applyHistoricalSell, hside,
          Except.require_bind_eq_ok_iff] at happlied
        obtain ⟨-, -, -, -, -, hopen, -⟩ := happlied
        exact (PositionStateSnapshot.open_facts hopen).1.ne' hclosed
      unfold applyReplayedTrade at h
      split at h
      · simp only [ResidualSettlement.applyExternalTrade, Except.require_bind_eq_ok_iff] at h
        obtain ⟨-, -, h⟩ := h
        obtain ⟨_, -, h⟩ := Except.bind_eq_ok_iff.mp h
        obtain ⟨next, hnext, -⟩ := Except.bind_eq_ok_iff.mp h
        exact (hsale hnext).elim
      · obtain ⟨next, hnext, -⟩ := Except.bind_eq_ok_iff.mp h
        exact (hsale hnext).elim

/-- A round of the first replay moves the second one along. -/
theorem round_of_replayTrade {state next : ReplayState ctx}
    (h : replayTrade ledger before state trade = .ok next)
    (openLot : Option (RegimeType × StrategyType)) :
    (state.position.state.quantity = 0 → trade.side = .buy) ∧
      provenanceRound ledger ⟨state.position, state.settlement, openLot⟩ trade
          (before.length + 1) =
        (lotOfTrade state.position openLot trade >>= fun lot =>
          .ok ⟨next.position, next.settlement,
            if next.position.state.quantity = 0 then none else lot⟩) := by
  obtain ⟨settlement, position, happlied, hcase⟩ := replayTrade_eq_ok h
  have happly : applyReplayedTrade ({ position := state.position, settlement := state.settlement } :
      ReplayState ctx) trade (before.length + 1) = .ok (settlement, position) := happlied
  refine ⟨side_of_applied happlied, ?_⟩
  unfold provenanceRound
  rw [happly]
  rcases hcase with ⟨hentry, hposition, hsettlement⟩ | ⟨entry, eligible, hentry, hdetached⟩
  · rw [hentry, hposition, hsettlement]
    rfl
  · obtain ⟨-, hdetached⟩ := Except.require_bind_eq_ok_iff.mp hdetached
    obtain ⟨detached, hdetach, hdetached⟩ := Except.bind_eq_ok_iff.mp hdetached
    simp only [Except.ok.injEq, Prod.mk.injEq] at hdetached
    obtain ⟨hsettlement, hposition⟩ := hdetached
    rw [hentry, ← hsettlement, ← hposition]
    simp only [Except.ok_bind, detachRecorded, hdetach]

theorem ne_nil_of_mem_joinLot {closed : Prop} [Decidable closed]
    {rest : List (List (Trade ctx))} (hrest : ∀ lot ∈ rest, lot ≠ []) :
    ∀ lot ∈ joinLot trade closed rest, lot ≠ [] := by
  unfold joinLot
  split
  · simpa using hrest
  · cases rest with
    | nil => simp
    | cons lot more =>
        intro other hother
        rcases List.mem_cons.mp hother with rfl | hmem
        · exact List.cons_ne_nil _ _
        · exact hrest other (List.mem_cons_of_mem _ hmem)

theorem ne_nil_of_mem_lots {trades : List (Trade ctx)} {state : ReplayState ctx} :
    ∀ lot ∈ lots ledger before state trades, lot ≠ [] := by
  induction trades generalizing before state with
  | nil => simp [lots]
  | cons trade trades ih =>
      unfold lots
      split
      · simp
      · exact ne_nil_of_mem_joinLot ih

theorem hasProvenance_cons {provenance : RegimeType × StrategyType} {lot : List (Trade ctx)} :
    HasProvenance provenance (trade :: lot) ↔
      trade.provenance = provenance ∧ HasProvenance provenance lot :=
  List.forall_mem_cons

theorem exists_hasProvenance_cons {lot : List (Trade ctx)} :
    (∃ provenance, HasProvenance provenance (trade :: lot)) ↔
      HasProvenance trade.provenance lot := by
  constructor
  · rintro ⟨provenance, h⟩
    obtain ⟨rfl, hlot⟩ := hasProvenance_cons.mp h
    exact hlot
  · intro hlot
    exact ⟨trade.provenance, hasProvenance_cons.mpr ⟨rfl, hlot⟩⟩

/-- One more trade in front: it has the provenance of the open lot, and what follows goes on
with it. -/
theorem continues_joinLot {closed : Prop} [Decidable closed] {rest : List (List (Trade ctx))}
    (openLot : Option (RegimeType × StrategyType)) :
    Continues openLot (joinLot trade closed rest) ↔
      (∀ provenance ∈ openLot, trade.provenance = provenance) ∧
        Continues (if closed then none else some trade.provenance) rest := by
  have hnil (provenance : RegimeType × StrategyType) :
      HasProvenance provenance ([] : List (Trade ctx)) := List.forall_mem_nil _
  unfold joinLot
  by_cases hclosed : closed
  · rw [if_pos hclosed, if_pos hclosed]
    cases openLot with
    | none => simp only [Continues, List.forall_mem_cons, exists_hasProvenance_cons, hnil]; simp
    | some provenance => simp only [Continues, hasProvenance_cons, hnil]; simp
  · rw [if_neg hclosed, if_neg hclosed]
    cases rest with
    | nil =>
        cases openLot with
        | none => simp only [Continues, List.forall_mem_cons, exists_hasProvenance_cons, hnil]; simp
        | some provenance => simp only [Continues, hasProvenance_cons, hnil]; simp
    | cons lot more =>
        cases openLot with
        | none => simp only [Continues, List.forall_mem_cons, exists_hasProvenance_cons]; simp
        | some provenance =>
            simp only [Continues, hasProvenance_cons, Option.mem_some_iff, forall_eq']
            constructor
            · rintro ⟨⟨rfl, hlot⟩, hmore⟩
              exact ⟨rfl, hlot, hmore⟩
            · rintro ⟨rfl, hlot, hmore⟩
              exact ⟨⟨rfl, hlot⟩, hmore⟩

/-- The lot a replay ends in: the last one of the history, or still the open one. -/
def EndsIn (openLot : Option (RegimeType × StrategyType)) (lots : List (List (Trade ctx)))
    (provenance : RegimeType × StrategyType) : Prop :=
  (lots = [] → openLot = some provenance) ∧ ∀ lot ∈ lots.getLast?, HasProvenance provenance lot

theorem endsIn_joinLot {closed : Prop} [Decidable closed] {rest : List (List (Trade ctx))}
    {provenance : RegimeType × StrategyType} (openLot : Option (RegimeType × StrategyType))
    (hne : ∀ lot ∈ rest, lot ≠ [])
    (hcontinues : Continues (if closed then none else some trade.provenance) rest)
    (h : EndsIn (if closed then none else some trade.provenance) rest provenance) :
    EndsIn openLot (joinLot trade closed rest) provenance := by
  obtain ⟨hnil, hlast⟩ := h
  unfold joinLot
  by_cases hclosed : closed
  · simp only [if_pos hclosed] at hnil ⊢
    refine ⟨nofun, fun lot hlot => hlast lot ?_⟩
    cases rest with
    | nil => cases hnil rfl
    | cons first more => simpa using hlot
  · simp only [if_neg hclosed] at hnil hcontinues ⊢
    cases rest with
    | nil =>
        obtain rfl : trade.provenance = provenance := Option.some.inj (hnil rfl)
        exact ⟨nofun, by simp [HasProvenance]⟩
    | cons lot more =>
        refine ⟨nofun, fun other hother => ?_⟩
        cases more with
        | cons second more => exact hlast other (by simpa using hother)
        | nil =>
            -- The trade belongs to the last lot.
            obtain rfl : trade :: lot = other := by simpa using hother
            have hlot := hlast lot (by simp)
            obtain ⟨first, hfirst⟩ := List.exists_mem_of_ne_nil lot (hne lot (by simp))
            have hsame : trade.provenance = provenance :=
              (hcontinues.1 first hfirst).symm.trans (hlot first hfirst)
            exact List.forall_mem_cons.mpr ⟨hsame, hlot⟩

/-- The second replay succeeds exactly when the lots go on with the open one and have one
provenance each; it ends where the first one does. -/
theorem provenanceReplay_of_replay {trades : List (Trade ctx)} {state last : ReplayState ctx}
    {openLot : Option (RegimeType × StrategyType)}
    (h : replay ledger before state trades = .ok last)
    (hlot : openLot = none ↔ state.position.state.quantity = 0) :
    (Continues openLot (lots ledger before state trades) →
      ∃ final, provenanceReplay ledger ⟨state.position, state.settlement, openLot⟩ before.length
        trades = .ok final ∧ final.position = last.position ∧
        (last.position.state.quantity ≠ 0 → ∃ provenance, final.openLot = some provenance ∧
          EndsIn openLot (lots ledger before state trades) provenance)) ∧
    ((∃ final, provenanceReplay ledger ⟨state.position, state.settlement, openLot⟩ before.length
      trades = .ok final) → Continues openLot (lots ledger before state trades)) := by
  induction trades generalizing before state openLot with
  | nil =>
      cases h
      refine ⟨fun _ => ⟨_, rfl, rfl, fun hopen => ?_⟩, fun _ => ?_⟩
      · obtain ⟨provenance, hprovenance⟩ :=
          Option.ne_none_iff_exists'.mp fun hnone => hopen (hlot.mp hnone)
        exact ⟨provenance, hprovenance, fun _ => hprovenance, by simp [lots]⟩
      · cases openLot <;> simp [Continues, lots]
  | cons trade trades ih =>
      obtain ⟨next, hnext, hrest⟩ := Except.bind_eq_ok_iff.mp h
      obtain ⟨hbuy, hround⟩ := round_of_replayTrade hnext openLot
      have hlots : lots ledger before state (trade :: trades) =
          joinLot trade (next.position.state.quantity = 0)
            (lots ledger (before ++ [trade]) next trades) := by
        simp only [lots, hnext]
      have hnextLot : (if next.position.state.quantity = 0 then none
          else some trade.provenance) = none ↔ next.position.state.quantity = 0 := by
        split <;> simp_all
      obtain ⟨hforward, hbackward⟩ := ih hrest hnextLot
      rw [List.length_append, List.length_singleton] at hforward hbackward
      have hcheck : lotOfTrade state.position openLot trade =
          if ∀ provenance ∈ openLot, trade.provenance = provenance then
            .ok (some trade.provenance)
          else .error (.valueError "A recovered open lot cannot mix REGIME or owner") := by
        unfold lotOfTrade
        cases openLot with
        | none =>
            have hclosed := hlot.mp rfl
            simp [hclosed, hbuy hclosed, Except.require]
        | some provenance =>
            have hopen : state.position.state.quantity ≠ 0 := fun hzero => by
              cases hlot.mpr hzero
            simp only [if_neg hopen, Option.mem_some_iff, forall_eq', Option.some.injEq]
            by_cases hsame : provenance = trade.provenance
            · simp [Except.require, hsame]
            · have hsame' : ¬ trade.provenance = provenance := fun h => hsame h.symm
              simp [Except.require, hsame, hsame']
      rw [hlots, continues_joinLot]
      simp only [provenanceReplay, hround, hcheck]
      by_cases hsame : ∀ provenance ∈ openLot, trade.provenance = provenance
      · simp only [if_pos hsame, Except.ok_bind]
        refine ⟨fun hcontinues => ?_, fun hok => ⟨hsame, hbackward hok⟩⟩
        obtain ⟨final, hfinal, hposition, hends⟩ := hforward hcontinues.2
        refine ⟨final, hfinal, hposition, fun hopen => ?_⟩
        obtain ⟨provenance, hprovenance, hendsIn⟩ := hends hopen
        exact ⟨provenance, hprovenance,
          endsIn_joinLot openLot ne_nil_of_mem_lots hcontinues.2 hendsIn⟩
      · simp only [if_neg hsame, Except.error_bind]
        refine ⟨fun hcontinues => absurd hcontinues.1 hsame, ?_⟩
        rintro ⟨final, herror⟩
        cases herror

end

/-! ## What restore accepts -/

/-- The lots of a stored history. -/
def historyLots (ledger : ResidualLedger ctx) (trades : List (Trade ctx)) :
    List (List (Trade ctx)) :=
  lots ledger [] { position := .empty ctx } trades

/-- For a history that restores to an open position whose last lot has one REGIME and one
strategy, the second replay returns them exactly when every earlier lot has one of each as well. -/
theorem resolve_eq_ok_iff {ledger : ResidualLedger ctx} {trades : List (Trade ctx)}
    {restored : Restored ctx} {provenance : RegimeType × StrategyType}
    (hrestored : restore ledger (.empty ctx) trades = .ok restored)
    (hopen : restored.position.state.status = .open)
    (hlast : ∀ lot ∈ (historyLots ledger trades).getLast?, HasProvenance provenance lot) :
    resolveRecoveredPositionProvenance ledger trades restored.position.state = .ok provenance ↔
      ∀ lot ∈ historyLots ledger trades, ∃ provenance, HasProvenance provenance lot := by
  obtain ⟨last, hreplay, hposition, -, -, -⟩ := restore_eq_ok hrestored
  have hempty : (none : Option (RegimeType × StrategyType)) = none ↔
      (Position.empty ctx).state.quantity = 0 := ⟨fun _ => rfl, fun _ => rfl⟩
  obtain ⟨hforward, hbackward⟩ := provenanceReplay_of_replay hreplay hempty
  constructor
  · intro hresolved
    obtain ⟨final, hfinal, -⟩ := Except.bind_eq_ok_iff.mp hresolved
    exact hbackward ⟨final, hfinal⟩
  · intro huniform
    obtain ⟨final, hfinal, hsame, hends⟩ := hforward huniform
    have hquantity : last.position.state.quantity ≠ 0 := by
      rw [← hposition]
      exact (PositionStateSnapshot.open_facts hopen).1.ne'
    obtain ⟨found, hfound, hnil, hlot⟩ := hends hquantity
    have hne : historyLots ledger trades ≠ [] := fun h => by cases hnil h
    -- Both provenances are those of the last lot.
    have hmem := List.getLast?_eq_getLast_of_ne_nil hne
    have hcurrent := ne_nil_of_mem_lots _ (List.getLast_mem hne)
    obtain ⟨trade, htrade⟩ := List.exists_mem_of_ne_nil _ hcurrent
    have hequal : found = provenance :=
      (hlot _ hmem trade htrade).symm.trans (hlast _ hmem trade htrade)
    unfold resolveRecoveredPositionProvenance
    rw [show provenanceReplay ledger { position := .empty ctx } 0 trades = .ok final from hfinal,
      Except.ok_bind, hsame, hposition, hfound, hequal]
    simp [Except.require]

/-! ## A closed lot of two REGIMEs -/

/-- One ETH bought, without a fee. -/
def firstBuy : Trade exact where
  tradeId := "trade-1"
  orderId := "1"
  clientOrderId := "bat-1"
  executedAt := 0
  side := .buy
  regimeType := .type0
  strategy := .caseB
  requestedQuantity := 1
  executedQuantity := 1
  executedAmount := 100
  averageFillPrice := 100
  marketPriceAtDecision := some 100
  feeAmount := 0
  feeAsset := .single .usdt
  feeQuoteAmount := 0
  valid := by decide +kernel

/-- It is sold under another REGIME. -/
def otherRegimeSell : Trade exact where
  tradeId := "trade-2"
  orderId := "2"
  clientOrderId := "bat-2"
  executedAt := 1
  side := .sell
  regimeType := .type1
  strategy := .caseB
  requestedQuantity := 1
  executedQuantity := 1
  executedAmount := 100
  averageFillPrice := 100
  marketPriceAtDecision := some 100
  feeAmount := 0
  feeAsset := .single .usdt
  feeQuoteAmount := 0
  allocatedCostBasis := some 100
  realizedPnl := some 0
  realizedReturnRate := some 0
  exitReason := some .stop
  valid := by decide +kernel

/-- One more ETH bought. -/
def laterBuy : Trade exact :=
  { firstBuy with
    tradeId := "trade-3"
    orderId := "3"
    clientOrderId := "bat-3"
    executedAt := 2
    valid := by decide +kernel }

/-- A ledger without transfers. -/
def noTransfers : ResidualLedger exact where
  transfers := []
  historyDigest := fun _ => ""
  currentStepSize := none

/-- What a history restores to, and what the second replay says about it. -/
def restoredProvenance (trades : List (Trade exact)) :
    Except TradingError (PositionStatus × Except TradingError (RegimeType × StrategyType)) := do
  let restored ← restore noTransfers (.empty exact) trades
  .ok (restored.position.state.status,
    resolveRecoveredPositionProvenance noTransfers trades restored.position.state)

/-- One ETH bought after a sale outside the application. -/
def reopeningBuy : Trade exact :=
  { plainBuy with
    tradeId := "trade-5"
    orderId := "5"
    clientOrderId := "bat-5"
    executedAt := 4
    valid := by decide +kernel }

/-- A lot closed by the transfer of its rest, one closed outside the application together with a
part of that rest, and an open one. -/
def threeLots : List (Trade exact) := [feeBuy, stepSell, plainBuy, outsideSell, reopeningBuy]

theorem resolve_eq_ok_iff_threeLots :
    ∃ restored, restore stepLedger (.empty exact) threeLots = .ok restored ∧
      resolveRecoveredPositionProvenance stepLedger threeLots restored.position.state =
        .ok (.type0, .caseB) := by
  have hstatus : (restore stepLedger (.empty exact) threeLots).toOption.map
      (·.position.state.status) = some .open := by decide +kernel
  have hlots : historyLots stepLedger threeLots =
      [[feeBuy, stepSell], [plainBuy, outsideSell], [reopeningBuy]] := by decide +kernel
  have huniform : ∀ lot ∈ [[feeBuy, stepSell], [plainBuy, outsideSell], [reopeningBuy]],
      HasProvenance (.type0, .caseB) lot := by
    simp [HasProvenance, Trade.provenance, feeBuy, stepSell, plainBuy, outsideSell, reopeningBuy]
  cases hrestored : restore stepLedger (.empty exact) threeLots with
  | error error =>
      rw [hrestored] at hstatus
      cases hstatus
  | ok restored =>
      rw [hrestored] at hstatus
      refine ⟨restored, rfl, (resolve_eq_ok_iff hrestored (Option.some.inj hstatus) ?_).mpr ?_⟩
      · intro lot hlot
        exact huniform lot (hlots ▸ List.mem_of_getLast? hlot)
      · intro lot hlot
        exact ⟨_, huniform lot (hlots ▸ hlot)⟩

/-- The first lot was bought and sold under different REGIMEs. The open lot has one REGIME, and
the second replay refuses the history that the first one has restored. -/
theorem resolve_mixed_lot :
    restoredProvenance [firstBuy, otherRegimeSell, laterBuy] =
        .ok (.open, .error (.valueError "A recovered open lot cannot mix REGIME or owner")) ∧
      (historyLots noTransfers [firstBuy, otherRegimeSell, laterBuy]).getLast? =
        some [laterBuy] := by
  constructor <;> decide +kernel

end Trading
