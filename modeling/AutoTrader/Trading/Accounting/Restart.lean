import AutoTrader.Trading.Orders.Invariant
import AutoTrader.Trading.Accounting.Holding

/-!
# Live and restart accounting agree

While an order is live its fills reach the position in partial deltas; after a restart
the position is rebuilt from one stored trade an order.  In exact arithmetic both ways
lead to the same holding.

* `LiveState`, `LiveAction`, `LiveState.step` — an order while its results and its fills
  arrive, with the cost allocated to the fills of a sale.
* `OrderRun`, `liveOrder`, `liveSession` — whole orders, one after the other, with the
  trades recorded for them.
* `Delivered` — what the deltas of an order have done to the position so far.
* `liveOrder_restart` — the stored trade of one order does the same at once.
* `liveSession_restart` — live and restart agree for every session history.
-/

namespace Trading

open Arithmetic

/-! ## Live orders -/

/-- The position, one order, and the cost allocated to the order's fills so far. -/
structure LiveState (ctx : DecimalContext) where
  position : Position ctx
  order : Order ctx
  allocatedCostBasis : ℚ := 0

/-- A result arrives, or the unapplied fills reach the position. -/
inductive LiveAction (ctx : DecimalContext) where
  | result (call : Order.ResultCall ctx)
  | applyUnappliedFills

section Live

variable {ctx : DecimalContext}

/-- The cost a sale's delta takes with it, fixed before the position changes. -/
def deltaCost (position : Position ctx) (summary : ExecutionSummary ctx) :
    Except TradingError ℚ :=
  match summary.side with
  | .buy => .ok 0
  | .sell => position.getCostBasis summary.aggregate.executedQuantity

/-- `_apply_unapplied_fills`: the fills the position has not seen yet reach it as one
delta.  A step that raises leaves position and order as they were. -/
def LiveState.applyUnappliedFills (state : LiveState ctx) : Except TradingError (LiveState ctx) :=
  if state.order.unappliedFills = [] then .ok state
  else do
    let summary ← state.order.buildExecutionSummary (some state.order.unappliedFills) false
    let allocated ← deltaCost state.position summary
    let position ← state.position.applyExecution summary
    let order ← state.order.markFillsApplied state.order.unappliedFills
    .ok {
      position
      order
      allocatedCostBasis := ctx.add state.allocatedCostBasis allocated }

/-- One step of a live order. -/
def LiveState.step (state : LiveState ctx) : LiveAction ctx → Except TradingError (LiveState ctx)
  | .result call => .ok { state with order := Stateful.finalState (call.call state.order) }
  | .applyUnappliedFills => state.applyUnappliedFills

/-- An order with the steps of its life. -/
structure OrderRun (ctx : DecimalContext) where
  intent : OrderIntent
  actions : List (LiveAction ctx)

/-- The trade recorded for a finished order; without fills there is none. -/
def recordTerminal (state : LiveState ctx) : Except TradingError (List (Trade ctx)) :=
  if state.order.fills = [] then .ok []
  else do
    let summary ← state.order.buildExecutionSummary
    let trade ← recordOrderExecution state.order summary
      (if state.order.side = .sell then some state.allocatedCostBasis else none)
    .ok [trade]

/-- What a finished order leaves. -/
structure FinishedOrder (ctx : DecimalContext) where
  live : LiveState ctx
  trades : List (Trade ctx)

/-- A whole order: its steps, and when it is terminal and all its fills have reached the
position, its trade. -/
def liveOrder (position : Position ctx) (run : OrderRun ctx) :
    Except TradingError (FinishedOrder ctx) := do
  let live ← run.actions.foldlM LiveState.step { position, order := run.intent.order ctx }
  Except.require (live.order.isTerminal = true ∧ live.order.unappliedFills = [])
    (.runtimeError "order is not finished")
  let trades ← recordTerminal live
  .ok { live, trades }

/-- Orders one after the other, each finished before the next one begins. -/
def liveSession (position : Position ctx) : List (OrderRun ctx) →
    Except TradingError (List (FinishedOrder ctx))
  | [] => .ok []
  | run :: runs => do
      let finished ← liveOrder position run
      let rest ← liveSession finished.live.position runs
      .ok (finished :: rest)

/-- The position after the orders of a session. -/
def sessionPosition (position : Position ctx) (orders : List (FinishedOrder ctx)) : Position ctx :=
  orders.foldl (fun _ finished => finished.live.position) position

/-- The trades recorded in a session. -/
def sessionTrades (orders : List (FinishedOrder ctx)) : List (Trade ctx) :=
  orders.flatMap (·.trades)

/-- The restart: every stored trade in turn. -/
def restart (position : Position ctx) (trades : List (Trade ctx)) :
    Except TradingError (Position ctx) :=
  trades.foldlM (fun position trade => position.applyHistoricalTrade trade) position

end Live

/-! ## Summaries and trades carry the flow of the fills -/

variable {order : Order exact} {summary : ExecutionSummary exact} {fills : List (Fill exact)}

theorem aggregate_flow {aggregate : FillAggregate} (h : aggregateFills fills = .ok aggregate) :
    aggregate.executedQuantity = (flow fills).quantity ∧
      aggregate.executedAmount = (flow fills).amount := by
  obtain ⟨-, -, hquantity, hamount, -⟩ := aggregateFills_eq_ok h
  rw [hquantity, hamount, DecimalContext.exact_sum, DecimalContext.exact_sum]
  exact ⟨rfl, rfl⟩

/-- A summary of fills of an order. -/
theorem Order.summarize_eq_ok {id : String} (h : order.summarize id fills = .ok summary) :
    Summarizes summary fills ∧ summary.side = order.side ∧ summary.strategy = order.strategy ∧
      aggregateFills fills = .ok summary.aggregate := by
  obtain ⟨hne, h⟩ := Except.require_bind_eq_ok_iff.mp h
  obtain ⟨aggregate, haggregate, h⟩ := Except.bind_eq_ok_iff.mp h
  obtain ⟨_, -, h⟩ := Except.bind_eq_ok_iff.mp h
  cases h
  obtain ⟨hquantity, hamount⟩ := aggregate_flow haggregate
  exact ⟨⟨rfl, hne, hquantity, hamount⟩, rfl, rfl, haggregate⟩

theorem Order.buildExecutionSummary_eq_ok {fills? : Option (List (Fill exact))} {terminal : Bool}
    (h : order.buildExecutionSummary fills? terminal = .ok summary) :
    Summarizes summary (fills?.getD order.fills) ∧ summary.side = order.side ∧
      summary.strategy = order.strategy ∧
      aggregateFills (fills?.getD order.fills) = .ok summary.aggregate := by
  obtain ⟨-, h⟩ := Except.require_bind_eq_ok_iff.mp h
  cases hid : order.exchangeOrderId with
  | none =>
      rw [hid] at h
      cases h
  | some id =>
      rw [hid] at h
      cases fills? with
      | none => exact Order.summarize_eq_ok h
      | some fills =>
          obtain ⟨_, -, h⟩ := Except.bind_eq_ok_iff.mp h
          exact Order.summarize_eq_ok h

/-- Where every fee is in ETH, the nominal fees are the base fees. -/
theorem flow_of_eth (h : ∀ fill ∈ fills, fill.feeAsset = .eth) :
    (flow fills).baseFee = (fills.map (·.feeAmount)).sum ∧ (flow fills).otherFee = 0 := by
  have hall : (fills.filter fun fill => decide (fill.feeAsset = .eth)) = fills :=
    List.filter_eq_self.mpr fun fill hfill => by simp [h fill hfill]
  have hnone : (fills.filter fun fill => decide (fill.feeAsset ≠ .eth)) = [] :=
    List.filter_eq_nil_iff.mpr fun fill hfill => by simp [h fill hfill]
  simp only [flow, hall, hnone, List.map_nil, List.sum_nil, and_self]

/-- Where no fee is in ETH, the quote fees are all other fees. -/
theorem flow_of_not_eth (h : ∀ fill ∈ fills, fill.feeAsset ≠ .eth) :
    (flow fills).baseFee = 0 ∧
      (flow fills).otherFee = (fills.map (·.feeQuoteAmount)).sum := by
  have hnone : (fills.filter fun fill => decide (fill.feeAsset = .eth)) = [] :=
    List.filter_eq_nil_iff.mpr fun fill hfill => by simp [h fill hfill]
  have hall : (fills.filter fun fill => decide (fill.feeAsset ≠ .eth)) = fills :=
    List.filter_eq_self.mpr fun fill hfill => by simp [h fill hfill]
  simp only [flow, hall, hnone, List.map_nil, List.sum_nil, and_self]

/-- The fees of a stored trade are those of the order's fills: kept as evidence when BNB
is among them, else all in one asset. -/
theorem tradeFields_fees {realized : Option RealizedResult} {trade : Trade exact}
    (hsum : Summarizes summary fills) (haggregate : aggregateFills fills = .ok summary.aggregate)
    (htrade : trade.toTradeFields = tradeFieldsOf order summary realized) :
    trade.baseFeeAmount = (flow fills).baseFee ∧
      trade.nonBaseFeeQuoteAmount = (flow fills).otherFee := by
  obtain ⟨hne, -, -, -, -, hfee, hquote⟩ := aggregateFills_eq_ok haggregate
  unfold Trade.baseFeeAmount Trade.nonBaseFeeQuoteAmount
  rw [htrade]
  simp only [tradeFieldsOf, hsum.fills_eq]
  cases hbnb : summary.hasBnbFee with
  | true =>
      simp only [if_true, if_neg hne, ExecutionSummary.baseFees, ExecutionSummary.nonBaseFeeQuotes,
        DecimalContext.exact_sum]
      exact ⟨rfl, rfl⟩
  | false =>
      simp only [Bool.false_eq_true, if_false, if_true]
      have hnobnb : ∀ fill ∈ fills, fill.feeAsset ≠ .bnb := by
        intro fill hfill heq
        rw [ExecutionSummary.hasBnbFee, hsum.fills_eq, List.any_eq_false] at hbnb
        exact hbnb fill hfill (by simp [heq])
      rcases aggregateFills_feeAsset haggregate with ⟨asset, hasset, hall⟩ | ⟨-, -, fill, hfill, heq⟩
      · cases asset with
        | eth =>
            obtain ⟨hbase, hother⟩ := flow_of_eth hall
            rw [hasset, hbase, hother, hfee, hasset, DecimalContext.exact_sum]
            simp
        | usdt =>
            obtain ⟨hbase, hother⟩ := @flow_of_not_eth fills fun fill hfill => by
              simp [hall fill hfill]
            rw [hasset, hbase, hother, hquote, DecimalContext.exact_sum]
            simp
        | bnb =>
            obtain ⟨first, hfirst⟩ := List.exists_mem_of_ne_nil fills hne
            exact absurd (hall first hfirst) (hnobnb first hfirst)
      · exact absurd heq (hnobnb fill hfill)

/-- The trade recorded for a finished order carries the flow of its fills, and the cost
allocated to them when it is a sale. -/
theorem recordTerminal_eq_ok {state : LiveState exact} {trades : List (Trade exact)}
    (h : recordTerminal state = .ok trades) :
    (state.order.fills = [] ∧ trades = []) ∨
      ∃ trade, trades = [trade] ∧ state.order.fills ≠ [] ∧
        Position.Records trade (flow state.order.fills) ∧ trade.side = state.order.side ∧
        trade.strategy = state.order.strategy ∧
        (state.order.side = .sell → trade.allocatedCostBasis = some state.allocatedCostBasis) := by
  unfold recordTerminal at h
  split at h
  · rename_i hnil
    cases h
    exact .inl ⟨hnil, rfl⟩
  · rename_i hne
    obtain ⟨summary, hsummary, h⟩ := Except.bind_eq_ok_iff.mp h
    obtain ⟨trade, htrade, h⟩ := Except.bind_eq_ok_iff.mp h
    cases h
    obtain ⟨hsum, -, -, haggregate⟩ := Order.buildExecutionSummary_eq_ok hsummary
    rw [Option.getD_none] at hsum haggregate
    obtain ⟨realized, hfields, hallocated⟩ : ∃ realized,
        trade.toTradeFields = tradeFieldsOf state.order summary realized ∧
          (state.order.side = .sell →
            realized.map (·.allocatedCostBasis) = some state.allocatedCostBasis) := by
      unfold recordOrderExecution at htrade
      cases hside : state.order.side with
      | buy =>
          simp only [hside, reduceCtorEq, if_false] at htrade
          obtain ⟨_, -, htrade⟩ := Except.bind_eq_ok_iff.mp htrade
          exact ⟨none, TradeFields.create_eq_ok htrade, by simp⟩
      | sell =>
          simp only [hside, if_true] at htrade
          obtain ⟨realized, hrealized, htrade⟩ := Except.bind_eq_ok_iff.mp htrade
          obtain ⟨_, -, htrade⟩ := Except.bind_eq_ok_iff.mp htrade
          refine ⟨some realized, TradeFields.create_eq_ok htrade, fun _ => ?_⟩
          unfold calculateRealizedResult at hrealized
          split at hrealized
          · cases hrealized
          split at hrealized
          · cases hrealized
          split at hrealized
          · cases hrealized
            rfl
          · cases hrealized
    obtain ⟨hbase, hother⟩ := tradeFields_fees hsum haggregate hfields
    refine .inr ⟨trade, rfl, hne, ⟨?_, ?_, ?_, ?_, hbase, hother⟩, ?_, ?_, ?_⟩
    · have hvalid := trade.valid
      simp only [TradeFields.validate, Except.require_bind_eq_ok_iff] at hvalid
      exact hvalid.1
    · rw [hfields]
      simp only [tradeFieldsOf]
      split <;> decide
    · rw [hfields]
      exact hsum.quantity_eq
    · rw [hfields]
      exact hsum.amount_eq
    · rw [hfields]
      rfl
    · rw [hfields]
      rfl
    · intro hsell
      rw [hfields]
      exact hallocated hsell

/-! ## What the deltas of an order have done -/

namespace Order

local instance lawfulBEq_key : LawfulBEq (String × String) := inferInstance

/-- The fills the position has taken over. -/
def appliedFills {ctx : DecimalContext} (order : Order ctx) : List (Fill ctx) :=
  order.fills.filter fun fill => decide (fill.key ∈ order.positionAppliedFillKeys)

/-- Every applied key is the key of a stored fill. -/
def AppliedStored (order : Order exact) : Prop :=
  ∀ key ∈ order.positionAppliedFillKeys, key ∈ order.fills.map Fill.key

/-- Applied and unapplied fills together are the stored ones. -/
theorem applied_append_unapplied (order : Order exact) :
    (order.appliedFills ++ order.unappliedFills).Perm order.fills := by
  have h := List.filter_append_perm
    (fun fill : Fill exact => decide (fill.key ∈ order.positionAppliedFillKeys)) order.fills
  simpa only [appliedFills, unappliedFills, decide_not] using h

/-- New fills are not applied yet. -/
theorem appliedFills_of_movesTo {next : Order exact} (hstored : order.AppliedStored)
    (hnodup : (next.fills.map Fill.key).Nodup) (hfills : order.fills <+: next.fills)
    (hkeys : next.positionAppliedFillKeys = order.positionAppliedFillKeys) :
    next.appliedFills = order.appliedFills := by
  obtain ⟨more, hmore⟩ := hfills
  rw [appliedFills, appliedFills, hkeys, ← hmore, List.filter_append]
  have hnone : (more.filter fun fill =>
      decide (fill.key ∈ order.positionAppliedFillKeys)) = [] := by
    refine List.filter_eq_nil_iff.mpr fun fill hfill => ?_
    simp only [decide_eq_true_eq]
    intro hkey
    rw [← hmore, List.map_append, List.nodup_append] at hnodup
    exact hnodup.2.2 _ (hstored _ hkey) _ (List.mem_map_of_mem hfill) rfl
  rw [hnone, List.append_nil]

/-- After marking the unapplied fills, every fill is applied. -/
theorem markFillsApplied_eq_ok {next : Order exact}
    (h : order.markFillsApplied order.unappliedFills = .ok next) :
    next.toOrderIntent = order.toOrderIntent ∧ next.fills = order.fills ∧
      next.status = order.status ∧ next.appliedFills = order.fills ∧
      (order.AppliedStored → next.AppliedStored) ∧ (order.WellFormed → next.WellFormed) := by
  obtain ⟨_, -, h⟩ := Except.bind_eq_ok_iff.mp h
  cases h
  refine ⟨rfl, rfl, rfl, ?_, ?_, ?_⟩
  · refine List.filter_eq_self.mpr fun fill hfill => ?_
    simp only [decide_eq_true_eq, List.mem_append]
    by_cases hkey : fill.key ∈ order.positionAppliedFillKeys
    · exact .inl hkey
    · refine .inr (List.mem_map_of_mem ?_)
      exact List.mem_filter.mpr ⟨hfill, by simpa using hkey⟩
  · intro hstored key hkey
    rcases List.mem_append.mp hkey with hold | hnew
    · exact hstored key hold
    · obtain ⟨fill, hfill, rfl⟩ := List.mem_map.mp hnew
      exact List.mem_map_of_mem (List.mem_of_mem_filter hfill)
  · rintro ⟨h1, h2, h3, h4, h5⟩
    exact ⟨h1, h2, h3, h4, h5⟩

end Order

/-- What the fills `applied` of an order have done to the position `start` it began with. -/
inductive Delivered (start : Position exact) (side : OrderSide) (strategy : StrategyType)
    (applied : List (Fill exact)) (position : Position exact) (allocated : ℚ) : Prop where
  /-- Nothing has reached the position yet. -/
  | none (hnil : applied = []) (hposition : position = start) (hallocated : allocated = 0)
  /-- A purchase of the applied flow. -/
  | bought (hside : side = .buy) (hne : applied ≠ [])
      (hholding : position.state.holding = start.state.holding.buy strategy (flow applied))
      (howner : ∀ owner ∈ start.state.owner, owner = strategy)
      (hnet : 0 < (flow applied).quantity - (flow applied).baseFee)
      (hlegacy : position.legacyBaseFeeHistoryOpen = false)
  /-- A sale of the applied quantity, with its share of the cost allocated. -/
  | sold (hside : side = .sell) (hne : applied ≠ [])
      (hholding : position.state.holding = start.state.holding.sell (flow applied).quantity)
      (hopen : start.state.status = .open) (howner : start.state.owner = some strategy)
      (hle : (flow applied).quantity ≤ start.state.quantity) (hfee : (flow applied).baseFee ≤ 0)
      (hallocated :
        allocated = taken start.state.quantity (flow applied).quantity start.state.costBasis)
      (hlegacy : position.legacyBaseFeeHistoryOpen = false)

section Delivery

variable {start position next : Position exact} {side : OrderSide} {strategy : StrategyType}
  {applied delta : List (Fill exact)} {allocated cost : ℚ}

/-- Only the flow of the applied fills counts. -/
theorem Delivered.perm {applied' : List (Fill exact)} (hperm : applied.Perm applied')
    (h : Delivered start side strategy applied position allocated) :
    Delivered start side strategy applied' position allocated := by
  have hne : applied ≠ [] → applied' ≠ [] := by
    rintro happlied rfl
    exact happlied hperm.eq_nil
  cases h with
  | none hnil hposition hallocated =>
      subst hnil
      exact .none hperm.nil_eq.symm hposition hallocated
  | bought hside happlied hholding howner hnet hlegacy =>
      rw [flow_perm hperm] at hholding hnet
      exact .bought hside (hne happlied) hholding howner hnet hlegacy
  | sold hside happlied hholding hopen howner hle hfee hallocated hlegacy =>
      rw [flow_perm hperm] at hholding hle hfee hallocated
      exact .sold hside (hne happlied) hholding hopen howner hle hfee hallocated hlegacy

theorem deltaCost_sell {cost : ℚ} (hsum : Summarizes summary delta) (hside : summary.side = .sell)
    (h : deltaCost position summary = .ok cost) :
    cost = taken position.state.quantity (flow delta).quantity position.state.costBasis := by
  simp only [deltaCost, hside, Position.getCostBasis, Except.require_bind_eq_ok_iff] at h
  obtain ⟨-, hopen, -, h⟩ := h
  cases h
  rw [allocateCost_exact (PositionStateSnapshot.open_facts hopen).1.ne', hsum.quantity_eq]

/-- One more delta of a purchase. -/
theorem Delivered.step_buy (h : Delivered start .buy strategy applied position allocated)
    (hsum : Summarizes summary delta) (hside : summary.side = .buy)
    (hstrategy : summary.strategy = strategy)
    (hnext : position.applyExecution summary = .ok next) :
    Delivered start .buy strategy (applied ++ delta) next (allocated + cost) := by
  obtain ⟨hdelta, hlegacy, -, howner', hnet'⟩ := Position.applyExecution_buy hsum hside hnext
  have hne : applied ++ delta ≠ [] := by simp [hsum.fills_ne_nil]
  rw [hstrategy] at hdelta howner'
  cases h with
  | none hnil hposition _ =>
      subst hnil hposition
      exact .bought rfl hne hdelta howner' hnet' hlegacy
  | bought _ _ hholding howner hnet _ =>
      refine .bought rfl hne ?_ howner ?_ hlegacy
      · rw [hdelta, hholding, Holding.buy_buy, flow_append]
      · simp only [flow_append, FillFlow.add]
        linarith
  | sold hside' => cases hside'

/-- One more delta of a sale. -/
theorem Delivered.step_sell (h : Delivered start .sell strategy applied position allocated)
    (hsum : Summarizes summary delta) (hside : summary.side = .sell)
    (hstrategy : summary.strategy = strategy) (hcost : deltaCost position summary = .ok cost)
    (hnext : position.applyExecution summary = .ok next) :
    Delivered start .sell strategy (applied ++ delta) next (allocated + cost) := by
  obtain ⟨hdelta, hlegacy, -, hopen', howner', hle', hfee'⟩ :=
    Position.applyExecution_sell hsum hside hnext
  have hne : applied ++ delta ≠ [] := by simp [hsum.fills_ne_nil]
  have hshare := deltaCost_sell hsum hside hcost
  rw [hstrategy] at howner'
  cases h with
  | none hnil hposition hallocated =>
      subst hnil hposition hallocated
      exact .sold rfl hne hdelta hopen' howner' hle' hfee' (by rw [zero_add]; exact hshare) hlegacy
  | bought hside' => cases hside'
  | sold _ _ hholding hopen howner hle hfee hallocated _ =>
      have hq := (PositionStateSnapshot.open_facts hopen).1.ne'
      -- the position is still open, so the first part did not sell it out
      have hpart : (flow applied).quantity ≠ start.state.quantity := by
        intro hall
        have hclosed : position.state.holding.status = .closed := by
          rw [hholding, Holding.sell_all hall]
          rfl
        rw [show position.state.holding.status = position.state.status from rfl, hopen'] at hclosed
        cases hclosed
      have hrest : start.state.quantity - (flow applied).quantity ≠ 0 :=
        sub_ne_zero.mpr (Ne.symm hpart)
      have hsold := hholding
      rw [Holding.sell_part hpart] at hsold
      have hposq : position.state.quantity =
          start.state.quantity - (flow applied).quantity := congrArg Holding.quantity hsold
      have hposc : position.state.costBasis = kept start.state.quantity (flow applied).quantity
          start.state.costBasis := congrArg Holding.costBasis hsold
      refine .sold rfl hne ?_ hopen howner ?_ ?_ ?_ hlegacy
      · rw [hdelta, hholding, Holding.sell_sell _ hpart, flow_append]
        rfl
      · simp only [flow_append, FillFlow.add]
        linarith
      · simp only [flow_append, FillFlow.add]
        linarith
      · rw [hallocated, hshare, hposq, hposc, taken_add_taken hq hrest, flow_append]
        rfl

/-- One more delta of an order. -/
theorem Delivered.step (h : Delivered start side strategy applied position allocated)
    (hsum : Summarizes summary delta) (hside : summary.side = side)
    (hstrategy : summary.strategy = strategy) (hcost : deltaCost position summary = .ok cost)
    (hnext : position.applyExecution summary = .ok next) :
    Delivered start side strategy (applied ++ delta) next (allocated + cost) := by
  cases side with
  | buy => exact h.step_buy hsum hside hstrategy hnext
  | sell => exact h.step_sell hsum hside hstrategy hcost hnext

end Delivery

/-- An order in its life, against the position it began with. -/
structure Delivering (start : Position exact) (intent : OrderIntent) (state : LiveState exact) :
    Prop where
  intent_eq : state.order.toOrderIntent = intent
  wellFormed : state.order.WellFormed
  stored : state.order.AppliedStored
  delivered : Delivered start intent.side intent.strategy state.order.appliedFills state.position
    state.allocatedCostBasis

variable {start : Position exact} {intent : OrderIntent} {state next : LiveState exact}

theorem delivering_start (start : Position exact) (intent : OrderIntent) :
    Delivering start intent { position := start, order := intent.order exact } where
  intent_eq := rfl
  wellFormed := Order.wellFormed_order exact intent
  stored := by simp [Order.AppliedStored, OrderIntent.order]
  delivered := .none rfl rfl rfl

/-- Each step of a live order. -/
theorem Delivering.step (h : Delivering start intent state) {action : LiveAction exact}
    (hstep : state.step action = .ok next) : Delivering start intent next := by
  cases action with
  | result call =>
      cases hstep
      obtain ⟨hwell, hmoves⟩ := call.call_step h.wellFormed
      have hkeys := call.call_positionAppliedFillKeys state.order
      have happlied := Order.appliedFills_of_movesTo h.stored hwell.keys_nodup hmoves.fills_kept
        hkeys
      refine ⟨hmoves.intent_kept.trans h.intent_eq, hwell, ?_, ?_⟩
      · intro key hkey
        rw [hkeys] at hkey
        exact (hmoves.fills_kept.map Fill.key).subset (h.stored key hkey)
      · rw [happlied]
        exact h.delivered
  | applyUnappliedFills =>
      simp only [LiveState.step, LiveState.applyUnappliedFills] at hstep
      split at hstep
      · cases hstep
        exact h
      · obtain ⟨summary, hsummary, hstep⟩ := Except.bind_eq_ok_iff.mp hstep
        obtain ⟨cost, hcost, hstep⟩ := Except.bind_eq_ok_iff.mp hstep
        obtain ⟨position, hposition, hstep⟩ := Except.bind_eq_ok_iff.mp hstep
        obtain ⟨order, horder, hstep⟩ := Except.bind_eq_ok_iff.mp hstep
        cases hstep
        obtain ⟨hsum, hside, hstrategy, -⟩ := Order.buildExecutionSummary_eq_ok hsummary
        rw [Option.getD_some] at hsum
        rw [h.intent_eq] at hside hstrategy
        obtain ⟨hintent, hfills, -, happlied, hstored, hwell⟩ :=
          Order.markFillsApplied_eq_ok horder
        refine ⟨hintent.trans h.intent_eq, hwell h.wellFormed, hstored h.stored, ?_⟩
        rw [happlied]
        exact (h.delivered.step hsum hside hstrategy hcost hposition).perm
          (Order.applied_append_unapplied state.order)

/-- All steps of a live order. -/
theorem Delivering.run (h : Delivering start intent state) {actions : List (LiveAction exact)}
    (hrun : actions.foldlM LiveState.step state = .ok next) : Delivering start intent next := by
  induction actions generalizing state with
  | nil =>
      cases hrun
      exact h
  | cons action actions ih =>
      obtain ⟨middle, hmiddle, hrest⟩ := Except.bind_eq_ok_iff.mp hrun
      exact ih (h.step hmiddle) hrest

/-! ## Orders and sessions -/

/-- The costs a restart allocates to the sales it replays. -/
def restartCosts (position : Position exact) : List (Trade exact) → List ℚ
  | [] => []
  | trade :: trades =>
      (if trade.side = .sell then [allocateCost position.state trade.executedQuantity] else []) ++
        match position.applyHistoricalTrade trade with
        | .ok next => restartCosts next trades
        | .error _ => []

/-- The costs recorded with the sales of a history. -/
def recordedCosts (trades : List (Trade exact)) : List (Option ℚ) :=
  (trades.filter fun trade => decide (trade.side = .sell)).map (·.allocatedCostBasis)

/-- A position in which a restart and a live session may be at the same time. -/
structure Agrees (live restarted : Position exact) : Prop where
  holding_eq : restarted.state.holding = live.state.holding
  live_legacy : live.legacyBaseFeeHistoryOpen = false
  restarted_legacy : restarted.legacyBaseFeeHistoryOpen = false

/-- The trade of one order does at once what its deltas did, and allocates the same cost. -/
theorem liveOrder_restart {live restarted : Position exact} {run : OrderRun exact}
    {finished : FinishedOrder exact} (hagree : Agrees live restarted)
    (h : liveOrder live run = .ok finished) :
    ∃ after, restart restarted finished.trades = .ok after ∧
      Agrees finished.live.position after ∧
      (restartCosts restarted finished.trades).map some = recordedCosts finished.trades ∧
      ∀ trade ∈ finished.trades, trade.side = .sell →
        trade.allocatedCostBasis = some finished.live.allocatedCostBasis := by
  obtain ⟨last, hlast, h⟩ := Except.bind_eq_ok_iff.mp h
  obtain ⟨⟨-, hdone⟩, h⟩ := Except.require_bind_eq_ok_iff.mp h
  obtain ⟨trades, htrades, h⟩ := Except.bind_eq_ok_iff.mp h
  cases h
  have hlife := (delivering_start live run.intent).run hlast
  have hdelivered := hlife.delivered
  have hall := Order.applied_append_unapplied last.order
  rw [hdone, List.append_nil] at hall
  replace hdelivered := hdelivered.perm hall
  rcases recordTerminal_eq_ok htrades with
    ⟨hnil, rfl⟩ | ⟨trade, rfl, hne, hrec, hside, hstrategy, hcost⟩
  · rw [hnil] at hdelivered
    cases hdelivered with
    | none _ hposition _ =>
        refine ⟨restarted, rfl, ?_, rfl, by simp⟩
        rw [hposition]
        exact hagree
    | bought _ hne => exact absurd rfl hne
    | sold _ hne => exact absurd rfl hne
  · rw [hlife.intent_eq] at hside hstrategy hcost
    have hquantity : restarted.state.quantity = live.state.quantity :=
      congrArg Holding.quantity hagree.holding_eq
    have hcostBasis : restarted.state.costBasis = live.state.costBasis :=
      congrArg Holding.costBasis hagree.holding_eq
    have howners : restarted.state.owner = live.state.owner :=
      congrArg Holding.owner hagree.holding_eq
    have hstatus : restarted.state.status = live.state.status :=
      congrArg Holding.status hagree.holding_eq
    cases hdelivered with
    | none hnil => exact absurd hnil hne
    | bought hbuy _ hholding howner hnet hlegacy =>
        rw [hbuy] at hside
        obtain ⟨after, hafter, hsame, hafterLegacy⟩ :=
          Position.applyHistoricalTrade_eq_ok_of_buy last.position.state hrec hside
            hagree.restarted_legacy (by rw [howners, hstrategy]; exact howner) hnet
            (by rw [hagree.holding_eq, hstrategy]; exact hholding)
        refine ⟨after, ?_, ⟨hsame, hlegacy, hafterLegacy⟩, ?_, ?_⟩
        · exact Except.bind_eq_ok_iff.mpr ⟨after, hafter, rfl⟩
        · simp [restartCosts, recordedCosts, hside, hafter]
        · intro other hmem hsell
          rw [List.mem_singleton.mp hmem, hside] at hsell
          cases hsell
    | sold hsell _ hholding hopen howner hle hfee hallocated hlegacy =>
        rw [hsell] at hside
        obtain ⟨after, hafter, hsame, hafterLegacy⟩ :=
          Position.applyHistoricalTrade_eq_ok_of_sell last.position.state hrec hside
            hagree.restarted_legacy (hstatus.trans hopen) (by rw [howners, hstrategy]; exact howner)
            hfee (flow_quantity_pos hne) (by rw [hquantity]; exact hle)
            (by rw [hagree.holding_eq]; exact hholding)
        have hq : restarted.state.quantity ≠ 0 :=
          (PositionStateSnapshot.open_facts (hstatus.trans hopen)).1.ne'
        refine ⟨after, ?_, ⟨hsame, hlegacy, hafterLegacy⟩, ?_, ?_⟩
        · exact Except.bind_eq_ok_iff.mpr ⟨after, hafter, rfl⟩
        · simp [restartCosts, recordedCosts, hside, hafter, hcost hsell, hrec.quantity_eq,
            allocateCost_exact hq, hquantity, hcostBasis, hallocated]
        · intro other hmem _
          rw [List.mem_singleton.mp hmem]
          exact hcost hsell

theorem restart_append {position middle : Position exact} {first second : List (Trade exact)}
    (h : restart position first = .ok middle) :
    restart position (first ++ second) = restart middle second := by
  unfold restart at h ⊢
  rw [List.foldlM_append, h]
  rfl

theorem restartCosts_append {position middle : Position exact} {first second : List (Trade exact)}
    (h : restart position first = .ok middle) :
    restartCosts position (first ++ second) =
      restartCosts position first ++ restartCosts middle second := by
  induction first generalizing position with
  | nil =>
      cases h
      rfl
  | cons trade first ih =>
      obtain ⟨after, hafter, hrest⟩ := Except.bind_eq_ok_iff.mp h
      simp only [List.cons_append, restartCosts, hafter, ih hrest, List.append_assoc]

theorem recordedCosts_append (first second : List (Trade exact)) :
    recordedCosts (first ++ second) = recordedCosts first ++ recordedCosts second := by
  simp only [recordedCosts, List.filter_append, List.map_append]

/-- The session and the restart, from positions that agree. -/
theorem liveSession_agrees {live restarted : Position exact} {runs : List (OrderRun exact)}
    {orders : List (FinishedOrder exact)} (hagree : Agrees live restarted)
    (h : liveSession live runs = .ok orders) :
    ∃ after, restart restarted (sessionTrades orders) = .ok after ∧
      Agrees (sessionPosition live orders) after ∧
      (restartCosts restarted (sessionTrades orders)).map some =
        recordedCosts (sessionTrades orders) ∧
      ∀ finished ∈ orders, ∀ trade ∈ finished.trades, trade.side = .sell →
        trade.allocatedCostBasis = some finished.live.allocatedCostBasis := by
  induction runs generalizing live restarted orders with
  | nil =>
      cases h
      exact ⟨restarted, rfl, hagree, rfl, by simp⟩
  | cons run runs ih =>
      obtain ⟨finished, hfinished, h⟩ := Except.bind_eq_ok_iff.mp h
      obtain ⟨rest, hrest, h⟩ := Except.bind_eq_ok_iff.mp h
      cases h
      obtain ⟨middle, hmiddle, hagreeMiddle, hcosts, hallocated⟩ :=
        liveOrder_restart hagree hfinished
      obtain ⟨after, hafter, hagreeAfter, hcostsRest, hallocatedRest⟩ := ih hagreeMiddle hrest
      have htrades : sessionTrades (finished :: rest) = finished.trades ++ sessionTrades rest := by
        simp only [sessionTrades, List.flatMap_cons]
      refine ⟨after, ?_, hagreeAfter, ?_, ?_⟩
      · rw [htrades, restart_append hmiddle]
        exact hafter
      · rw [htrades, restartCosts_append hmiddle, recordedCosts_append, List.map_append, hcosts,
          hcostsRest]
      · intro other hmem
        rcases List.mem_cons.mp hmem with rfl | hmem
        · exact hallocated
        · exact hallocatedRest other hmem

/-- Live and restart accounting agree for every session history: the restart accepts the
recorded trades, ends with the same owner, quantity, cost, average price, entry values
and status, and allocates to every sale the cost its deltas summed up to, which is the
one its trade records. -/
theorem liveSession_restart {runs : List (OrderRun exact)} {orders : List (FinishedOrder exact)}
    (h : liveSession (.empty exact) runs = .ok orders) :
    ∃ after, restart (.empty exact) (sessionTrades orders) = .ok after ∧
      after.state.holding = (sessionPosition (.empty exact) orders).state.holding ∧
      (restartCosts (.empty exact) (sessionTrades orders)).map some =
        recordedCosts (sessionTrades orders) ∧
      ∀ finished ∈ orders, ∀ trade ∈ finished.trades, trade.side = .sell →
        trade.allocatedCostBasis = some finished.live.allocatedCostBasis := by
  have hempty : Agrees (.empty exact) (.empty exact) := ⟨rfl, rfl, rfl⟩
  obtain ⟨after, hafter, hagree, hcosts, hallocated⟩ := liveSession_agrees hempty h
  exact ⟨after, hafter, hagree.holding_eq, hcosts, hallocated⟩

/-! ## A session with partial deltas -/

/-- A report of one more fill at price one hundred. -/
def deltaResult (client exchange tradeId : String) (status : OrderStatus) (quantity : ℚ)
    (hq : 0 < quantity) (fee : ℚ) (hfee : 0 ≤ fee) : OrderResult exact where
  clientOrderId := client
  status
  processedAt := 0
  exchangeOrderId := some exchange
  fills := [{
    exchangeOrderId := exchange
    tradeId
    quantity
    price := 100
    feeAmount := fee
    feeAsset := .usdt
    feeQuoteAmount := fee
    executedAt := 0
    valid := by
      simp [FillFields.validate, FillFields.validateFee, Except.require, hq, hfee] }]
  valid := by simp [OrderResultFields.validate, OrderResultFields.validateFailure, Except.require]

/-- The intent of an order of `quantity` ETH. -/
def deltaIntent (client : String) (side : OrderSide) (reason : Option ExitReason)
    (hreason : reason ≠ some .externalManual ∧ (side = .buy → reason = none)) : OrderIntent where
  intentId := client
  clientOrderId := client
  submissionAttempt := 0
  side
  strategy := .caseC
  regimeType := .type0
  requestedQuantity := 3
  submittedQuantity := 3
  marketPriceAtDecision := 100
  exitReason := reason
  valid := by
    simp only [OrderIntentFields.validate, OrderIntentFields.validateExitPctB, Except.require,
      if_pos hreason.1, if_pos hreason.2]
    simp

/-- Three ETH bought in two deltas, and two of them sold in two deltas. -/
def deltaRuns : List (OrderRun exact) :=
  [{ intent := deltaIntent "bat-1" .buy none (by decide)
     actions := [
       .result (.apply
         (deltaResult "bat-1" "1" "1" .partiallyFilled 1 (by norm_num) 1 (by norm_num))),
       .applyUnappliedFills,
       .result (.reapply (deltaResult "bat-1" "1" "2" .filled 2 (by norm_num) 1 (by norm_num))),
       .applyUnappliedFills] },
   { intent := deltaIntent "bat-2" .sell (some .time) (by decide)
     actions := [
       .result (.apply (deltaResult "bat-2" "2" "3" .new (1 / 2) (by norm_num) 0 (by norm_num))),
       .applyUnappliedFills,
       .result (.reapply (deltaResult "bat-2" "2" "4" .canceled (3 / 2) (by norm_num) 0
         (by norm_num))),
       .applyUnappliedFills] }]

/-- The trades of this session restore the position the session left. -/
theorem liveSession_restart_deltaRuns :
    ∃ orders, liveSession (.empty exact) deltaRuns = .ok orders ∧
      (sessionTrades orders).map (·.allocatedCostBasis) = [none, some (604 / 3)] ∧
      ∃ after, restart (.empty exact) (sessionTrades orders) = .ok after ∧
        after.state.holding = (sessionPosition (.empty exact) orders).state.holding := by
  have hok : (liveSession (.empty exact) deltaRuns).isOk = true := by decide +kernel
  cases h : liveSession (.empty exact) deltaRuns with
  | error e =>
      rw [h] at hok
      cases hok
  | ok orders =>
      have hcosts : (liveSession (.empty exact) deltaRuns).toOption.map
          (fun orders => (sessionTrades orders).map (·.allocatedCostBasis)) =
            some [none, some (604 / 3)] := by decide +kernel
      rw [h] at hcosts
      obtain ⟨after, hafter, hholding, -⟩ := liveSession_restart h
      exact ⟨orders, rfl, Option.some.inj hcosts, after, hafter, hholding⟩

end Trading
