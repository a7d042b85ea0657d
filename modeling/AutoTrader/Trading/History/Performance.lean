import AutoTrader.Trading.Accounting.Trade

/-!
# Performance over the published trades

`TradeHistory` and `Performance` of `domain/history`: the finished trades of the
application by order, and what they earned altogether and on the current day in Seoul.

* `TradeHistory.addTrade` — a trade of a new order is appended; the same trade again is
  not; another trade of the same order raises.
* `aggregateTrades` — the fees, the realized results and the rates of a list of trades.
* `Performance.create`, `Performance.atDate` — the aggregate built from scratch, and moved
  to another day.
* `Performance.Aggregated` — the values are those of the trades on the current day; an
  aggregated performance is the one built from scratch.
-/

namespace Trading

open Arithmetic

variable {ctx : DecimalContext}

/-! ## The history -/

/-- The trades in the order of their publication, one for each order. -/
structure TradeHistory (ctx : DecimalContext) where
  trades : List (Trade ctx) := []
  orderIds_nodup : (trades.map (·.orderId)).Nodup := by exact List.nodup_nil

namespace TradeHistory

variable (history : TradeHistory ctx)

/-- The trade of an order. -/
def find (orderId : String) : Option (Trade ctx) :=
  history.trades.find? fun trade => trade.orderId = orderId

theorem find_eq_none_iff {orderId : String} :
    history.find orderId = none ↔ orderId ∉ history.trades.map (·.orderId) := by
  simp [find]

/-- `add_trade`. -/
def addTrade (trade : Trade ctx) : Except TradingError (TradeHistory ctx) :=
  match h : history.find trade.orderId with
  | some existing =>
      if existing = trade then .ok history
      else .error (.valueError s!"order_id {trade.orderId} has conflicting trade content")
  | none => .ok {
      trades := history.trades ++ [trade]
      orderIds_nodup := by
        have hnew := history.find_eq_none_iff.mp h
        rw [List.map_append, List.nodup_append]
        refine ⟨history.orderIds_nodup, List.nodup_singleton _, ?_⟩
        intro id hid other hother hsame
        rw [List.map_singleton, List.mem_singleton] at hother
        exact hnew (hother ▸ hsame ▸ hid) }

/-- `TradeHistory(trades)`. -/
def ofTrades (trades : List (Trade ctx)) : Except TradingError (TradeHistory ctx) :=
  trades.foldlM addTrade {}

variable {history}

/-- A trade is appended, or the order has it already. -/
theorem addTrade_eq_ok {trade : Trade ctx} {next : TradeHistory ctx}
    (h : history.addTrade trade = .ok next) :
    (next = history ∧ history.find trade.orderId = some trade) ∨
      (next.trades = history.trades ++ [trade] ∧ history.find trade.orderId = none) := by
  unfold addTrade at h
  split at h
  · rename_i existing hfind
    split at h
    · rename_i hsame
      cases h
      exact .inl ⟨rfl, hsame ▸ hfind⟩
    · cases h
  · rename_i hfind
    cases h
    exact .inr ⟨rfl, hfind⟩

/-- A trade of a new order is appended. -/
theorem addTrade_of_new {trade : Trade ctx} (h : history.find trade.orderId = none) :
    ∃ next, history.addTrade trade = .ok next ∧ next.trades = history.trades ++ [trade] := by
  unfold addTrade
  split
  · rename_i hfind
    rw [h] at hfind
    cases hfind
  · exact ⟨_, rfl, rfl⟩

/-- The same trade again changes nothing; another trade of the order raises. -/
theorem addTrade_of_find {trade existing : Trade ctx}
    (h : history.find trade.orderId = some existing) :
    history.addTrade trade = if existing = trade then .ok history
      else .error (.valueError s!"order_id {trade.orderId} has conflicting trade content") := by
  unfold addTrade
  split
  · rename_i found hfind
    cases h.symm.trans hfind
    rfl
  · rename_i hfind
    cases h.symm.trans hfind

theorem eq_of_trades {first second : TradeHistory ctx} (h : first.trades = second.trades) :
    first = second := by
  cases first
  cases second
  cases h
  rfl

theorem foldlM_addTrade {trades : List (Trade ctx)} {start : TradeHistory ctx}
    (hnodup : ((start.trades ++ trades).map (·.orderId)).Nodup) :
    ∃ next, trades.foldlM addTrade start = .ok next ∧ next.trades = start.trades ++ trades := by
  induction trades generalizing start with
  | nil => exact ⟨start, rfl, (List.append_nil _).symm⟩
  | cons trade rest ih =>
      have hnew : start.find trade.orderId = none := by
        rw [find_eq_none_iff]
        intro hmem
        rw [List.map_append, List.nodup_append] at hnodup
        exact hnodup.2.2 _ hmem trade.orderId (by simp) rfl
      obtain ⟨middle, hmiddle, htrades⟩ := addTrade_of_new hnew
      obtain ⟨next, hnext, hlast⟩ := @ih middle (by
        rw [htrades, List.append_assoc]
        exact hnodup)
      refine ⟨next, ?_, ?_⟩
      · rw [List.foldlM_cons, hmiddle]
        exact hnext
      · rw [hlast, htrades, List.append_assoc, List.singleton_append]

/-- The copy of a history is the history. -/
theorem ofTrades_trades (history : TradeHistory ctx) : ofTrades history.trades = .ok history := by
  obtain ⟨next, hnext, htrades⟩ := @foldlM_addTrade _ history.trades {}
    (by simpa using history.orderIds_nodup)
  rw [ofTrades, hnext, @eq_of_trades _ next history (by simpa using htrades)]

end TradeHistory

/-! ## The aggregate -/

/-- The running totals of `_aggregate_trades`. -/
structure TradeTotals where
  totalFee : ℚ := 0
  dailyFee : ℚ := 0
  totalRealizedPnl : ℚ := 0
  totalAllocatedCostBasis : ℚ := 0
  dailyRealizedPnl : ℚ := 0
  dailyAllocatedCostBasis : ℚ := 0
  sellReturnRateSum : ℚ := 0
  winningSellCount : ℕ := 0
  losingSellCount : ℕ := 0
  breakevenSellCount : ℕ := 0
  completedSellCount : ℕ := 0

namespace TradeTotals

/-- The fee of a trade. -/
def addFee (today : ℤ) (totals : TradeTotals) (trade : Trade ctx) : TradeTotals :=
  { totals with
    totalFee := ctx.add totals.totalFee trade.feeQuoteAmount
    dailyFee :=
      if kstDate trade.executedAt = today then ctx.add totals.dailyFee trade.feeQuoteAmount
      else totals.dailyFee }

/-- The realized result of a sale. -/
def addSale (ctx : DecimalContext) (isToday : Bool) (totals : TradeTotals)
    (allocated pnl rate : ℚ) : TradeTotals :=
  { totals with
    completedSellCount := totals.completedSellCount + 1
    totalAllocatedCostBasis := ctx.add totals.totalAllocatedCostBasis allocated
    totalRealizedPnl := ctx.add totals.totalRealizedPnl pnl
    sellReturnRateSum := ctx.add totals.sellReturnRateSum rate
    winningSellCount := totals.winningSellCount + if 0 < pnl then 1 else 0
    losingSellCount := totals.losingSellCount + if pnl < 0 then 1 else 0
    breakevenSellCount := totals.breakevenSellCount + if pnl = 0 then 1 else 0
    dailyAllocatedCostBasis :=
      if isToday then ctx.add totals.dailyAllocatedCostBasis allocated
      else totals.dailyAllocatedCostBasis
    dailyRealizedPnl :=
      if isToday then ctx.add totals.dailyRealizedPnl pnl else totals.dailyRealizedPnl }

/-- A purchase counts with its fee only. -/
def addTrade (today : ℤ) (totals : TradeTotals) (trade : Trade ctx) :
    Except TradingError TradeTotals :=
  let totals := totals.addFee today trade
  if trade.side ≠ .sell then .ok totals
  else match trade.allocatedCostBasis, trade.realizedPnl, trade.realizedReturnRate with
    | some allocated, some pnl, some rate =>
        .ok (totals.addSale ctx (kstDate trade.executedAt = today) allocated pnl rate)
    | _, _, _ => .error (.valueError "SELL Trade must contain realized result fields")

end TradeTotals

/-- `_calculate_weighted_return`. -/
def calculateWeightedReturn (ctx : DecimalContext) (realizedPnl allocatedCostBasis : ℚ) : ℚ :=
  if allocatedCostBasis = 0 then 0
  else quantizeRate (ctx.mul (ctx.div realizedPnl allocatedCostBasis) 100)

/-- The fields of a performance that others see. -/
structure PerformanceValues where
  dailyReturnRate : ℚ
  cumulativeReturnRate : ℚ
  realizedPnl : ℚ
  dailyFee : ℚ
  totalFee : ℚ
  averageSellReturnRate : ℚ
  totalProfit : ℚ
  winningSellCount : ℕ
  losingSellCount : ℕ
  breakevenSellCount : ℕ
  completedSellCount : ℕ
  winRate : Option ℚ
  deriving DecidableEq, Repr

/-- The values of the totals. -/
def TradeTotals.values (ctx : DecimalContext) (totals : TradeTotals) : PerformanceValues where
  dailyReturnRate :=
    calculateWeightedReturn ctx totals.dailyRealizedPnl totals.dailyAllocatedCostBasis
  cumulativeReturnRate :=
    calculateWeightedReturn ctx totals.totalRealizedPnl totals.totalAllocatedCostBasis
  realizedPnl := totals.totalRealizedPnl
  dailyFee := totals.dailyFee
  totalFee := totals.totalFee
  averageSellReturnRate :=
    if 0 < totals.completedSellCount then
      quantizeRate (ctx.div totals.sellReturnRateSum totals.completedSellCount)
    else 0
  totalProfit := totals.totalRealizedPnl
  winningSellCount := totals.winningSellCount
  losingSellCount := totals.losingSellCount
  breakevenSellCount := totals.breakevenSellCount
  completedSellCount := totals.completedSellCount
  winRate :=
    if 0 < totals.completedSellCount then
      some (quantizeRate (ctx.mul (ctx.div totals.winningSellCount totals.completedSellCount) 100))
    else none

/-- `_aggregate_trades`. -/
def aggregateTrades (trades : List (Trade ctx)) (today : ℤ) :
    Except TradingError PerformanceValues :=
  (trades.foldlM (TradeTotals.addTrade today) {}).map (TradeTotals.values ctx)

/-! ## Performance -/

/-- A performance: its values, the trades behind them and the day they are for. -/
structure Performance (ctx : DecimalContext) where
  values : PerformanceValues
  trades : List (Trade ctx)
  currentKstDate : ℤ

namespace Performance

/-- `Performance(trades, clock)`, with the day the clock gives. -/
def create (trades : List (Trade ctx)) (today : ℤ) : Except TradingError (Performance ctx) :=
  (aggregateTrades trades today).map fun values => ⟨values, trades, today⟩

variable (performance : Performance ctx)

/-- The trade of the order that the performance counts already. -/
def existing (trade : Trade ctx) : Option (Trade ctx) :=
  performance.trades.find? fun counted => counted.orderId = trade.orderId

/-- `get_performance`, with the day the clock gives. -/
def atDate (today : ℤ) : Except TradingError (Performance ctx) :=
  if today = performance.currentKstDate then .ok performance
  else create performance.trades today

/-- The values are those of the trades on the current day. -/
def Aggregated : Prop :=
  create performance.trades performance.currentKstDate = .ok performance

variable {performance}

theorem create_eq_ok {trades : List (Trade ctx)} {today : ℤ}
    (h : create trades today = .ok performance) :
    performance.trades = trades ∧ performance.currentKstDate = today ∧ performance.Aggregated := by
  have hcreate := h
  obtain ⟨values, -, rfl⟩ := Except.map_eq_ok_iff.mp h
  exact ⟨rfl, rfl, hcreate⟩

/-- An aggregated performance on any day is the one built from scratch on that day. -/
theorem Aggregated.atDate (h : performance.Aggregated) (today : ℤ) :
    performance.atDate today = create performance.trades today := by
  unfold Performance.atDate
  split
  · rename_i hday
    rw [hday]
    exact h.symm
  · rfl

/-- Moving to another day keeps the trades. -/
theorem Aggregated.of_atDate (h : performance.Aggregated) {today : ℤ} {next : Performance ctx}
    (hnext : performance.atDate today = .ok next) :
    next.trades = performance.trades ∧ next.Aggregated := by
  rw [h.atDate] at hnext
  obtain ⟨htrades, -, haggregated⟩ := create_eq_ok hnext
  exact ⟨htrades, haggregated⟩

end Performance

end Trading
