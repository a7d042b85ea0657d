import AutoTrader.Trading.Accounting.Restart
import AutoTrader.Trading.Orders.Convergence
import AutoTrader.Trading.Session.FreeBalance

/-!
# Fills reach the position once

`_apply_unapplied_fills` changes four stores one after another, and any of its steps may raise.

* `FillStores`, `applyUnappliedFillsOnce` — the stores, and a call that one of the steps
  interrupts.
* `DeltaMoves`, `DeltasApplied` — what a delta does to the values of a position, and what the
  deltas have done to it one after another.
* `AppliedOnce` — the deltas carry exactly the marked fills.
* `TotalsApplied` — without rounding the position has moved by the sums of the marked fills.
* `applied_once` — every run without an interruption between the position and the marks.
* `overlay_applies_twice` — one with such an interruption.
-/

namespace Trading

open Arithmetic Stateful

variable {ctx : DecimalContext}

/-! ## The call -/

/-- What `_apply_unapplied_fills` writes, with the summaries that have reached the position. -/
structure FillStores (ctx : DecimalContext) where
  position : Position ctx
  order : Order ctx
  balances : FreeBalances
  allocatedCostBasis : ℚ := 0
  deltas : List (ExecutionSummary ctx) := []

/-- The steps of a call at which an exception may be raised. -/
inductive FillPoint where
  | summary | costBasis | execution | overlay | mark | allocatedCost | publication | exitResult
  deriving DecidableEq, Repr

/-- A computation over the stores. -/
abbrev FillM (ctx : DecimalContext) := EStateM TradingError (FillStores ctx)

/-- The step at which a call is interrupted raises. -/
def interruptAt (interruption : Option FillPoint) (point : FillPoint) : FillM ctx PUnit :=
  if interruption = some point then throw (.runtimeError "interrupted") else pure ⟨⟩

/-- The stores after the position has taken a delta over. -/
def FillStores.takeDelta (stores : FillStores ctx) (summary : ExecutionSummary ctx)
    (position : Position ctx) : FillStores ctx :=
  { stores with position, deltas := stores.deltas ++ [summary] }

/-- The stores after the overlay has taken fills over. -/
def FillStores.overlayFills (stores : FillStores ctx) (fills : List (Fill ctx)) : FillStores ctx :=
  { stores with balances := stores.balances.applyAccountFillOverlay stores.order.side fills }

/-- The cost of a sale's delta joins the cost of the order. -/
def FillStores.allocate (stores : FillStores ctx) (cost : ℚ) : FillStores ctx :=
  { stores with
    allocatedCostBasis :=
      if stores.order.side = .sell then ctx.add stores.allocatedCostBasis cost
      else stores.allocatedCostBasis }

/-- The writes of `_apply_unapplied_fills`, once the position accepts the delta. -/
def accountDelta (interruption : Option FillPoint) (fills : List (Fill ctx))
    (summary : ExecutionSummary ctx) (cost : ℚ) (position : Position ctx) : FillM ctx PUnit := do
  modify fun stores => stores.takeDelta summary position
  interruptAt interruption .overlay
  modify fun stores => stores.overlayFills fills
  interruptAt interruption .mark
  let stores ← get
  let order ← raising (stores.order.markFillsApplied fills)
  modify fun stores => { stores with order }
  if order.side = .sell then interruptAt interruption .allocatedCost
  modify fun stores => stores.allocate cost
  interruptAt interruption .publication
  interruptAt interruption .exitResult

/-- The steps of `_apply_unapplied_fills` for some fills. -/
def deliverFills (interruption : Option FillPoint) (fills : List (Fill ctx)) :
    FillM ctx PUnit := do
  let stores ← get
  interruptAt interruption .summary
  let summary ← raising (stores.order.buildExecutionSummary (some fills) false)
  interruptAt interruption .costBasis
  let cost ← raising (deltaCost stores.position summary)
  interruptAt interruption .execution
  let position ← raising (stores.position.applyExecution summary)
  accountDelta interruption fills summary cost position

/-- `_apply_unapplied_fills`: its result, and what it leaves. -/
def applyUnappliedFillsOnce (interruption : Option FillPoint) (stores : FillStores ctx) :
    Bool × FillStores ctx :=
  if stores.order.unappliedFills = [] then (true, stores)
  else
    let result := deliverFills interruption stores.order.unappliedFills stores
    (returned result, finalState result)

/-- A result of the order, or a call with the step that interrupts it. -/
inductive FillStep (ctx : DecimalContext) where
  | result (call : Order.ResultCall ctx)
  | apply (interruption : Option FillPoint)

/-- One step. -/
def FillStores.step (stores : FillStores ctx) : FillStep ctx → FillStores ctx
  | .result call => { stores with order := finalState (call.call stores.order) }
  | .apply interruption => (applyUnappliedFillsOnce interruption stores).2

/-- A run for a new order. -/
def fillRun (intent : OrderIntent) (position : Position ctx) (balances : FreeBalances)
    (steps : List (FillStep ctx)) : FillStores ctx :=
  steps.foldl FillStores.step { position, order := intent.order ctx, balances }

/-- No exception between the change of the position and the accounting of it. -/
def FillStep.Uninterrupted : FillStep ctx → Prop
  | .result _ => True
  | .apply interruption =>
      interruption ≠ some .overlay ∧ interruption ≠ some .mark ∧
        interruption ≠ some .allocatedCost

/-! ## What the deltas have done -/

/-- What a delta does to the values of a position, and the cost that it takes out of it. -/
inductive DeltaMoves (position next : Position ctx) (summary : ExecutionSummary ctx) (cost : ℚ) :
    Prop
  /-- A purchase adds its amounts, and what it cost with its fees. -/
  | bought (hside : summary.side = .buy)
      (hquantity : next.state.quantity = ctx.add position.state.quantity
        (ctx.sub summary.aggregate.executedQuantity summary.baseFeeAmount))
      (hbasis : next.state.costBasis = ctx.add
        (ctx.add position.state.costBasis summary.aggregate.executedAmount)
        summary.nonBaseFeeQuoteAmount)
      (hentry : next.state.entryExecutedQuantity =
        ctx.add position.state.entryExecutedQuantity summary.aggregate.executedQuantity)
      (hamount : next.state.entryExecutedAmount =
        ctx.add position.state.entryExecutedAmount summary.aggregate.executedAmount)
      (hcost : cost = 0)
  /-- A sale takes its quantity and its share of the cost, or all that is left. -/
  | sold (hside : summary.side = .sell)
      (hquantity : next.state.quantity =
        ctx.sub position.state.quantity summary.aggregate.executedQuantity)
      (hcost : cost = allocateCost position.state summary.aggregate.executedQuantity)
      (hbasis : next.state.costBasis =
        if next.state.quantity = 0 then 0 else ctx.sub position.state.costBasis cost)

theorem buyState_eq_ok {state next : PositionStateSnapshot ctx} {strategy : StrategyType}
    {acquired quantity amount fee : ℚ} {time : Timestamp}
    (h : buyState state strategy acquired quantity amount fee time = .ok next) :
    next.quantity = ctx.add state.quantity acquired ∧
      next.costBasis = ctx.add (ctx.add state.costBasis amount) fee ∧
      next.entryExecutedQuantity = ctx.add state.entryExecutedQuantity quantity ∧
      next.entryExecutedAmount = ctx.add state.entryExecutedAmount amount := by
  obtain ⟨_, -, h⟩ := Except.bind_eq_ok_iff.mp h
  have hfields := PositionStateFields.create_eq_ok h
  exact ⟨by rw [hfields], by rw [hfields], by rw [hfields], by rw [hfields]⟩

theorem sellState_eq_ok {state next : PositionStateSnapshot ctx} {sold cost : ℚ}
    {reason : Option ExitReason} (h : sellState state sold cost reason = .ok next) :
    next.quantity = ctx.sub state.quantity sold ∧
      next.costBasis = if next.quantity = 0 then 0 else ctx.sub state.costBasis cost := by
  unfold sellState at h
  dsimp only at h
  split at h
  · rename_i hzero
    cases h
    exact ⟨hzero.symm, (if_pos rfl).symm⟩
  · rename_i hrest
    have hfields := PositionStateFields.create_eq_ok h
    have hquantity : next.quantity = ctx.sub state.quantity sold := by rw [hfields]
    exact ⟨hquantity, by rw [if_neg (hquantity ▸ hrest), hfields]⟩

/-- An execution that the position accepts moves it so. -/
theorem deltaMoves_applyExecution {position next : Position ctx} {summary : ExecutionSummary ctx}
    {cost : ℚ} (hcost : deltaCost position summary = .ok cost)
    (hnext : position.applyExecution summary = .ok next) :
    DeltaMoves position next summary cost := by
  simp only [Position.applyExecution, Except.require_bind_eq_ok_iff] at hnext
  obtain ⟨-, -, -, hnext⟩ := hnext
  obtain ⟨_, -, hnext⟩ := Except.bind_eq_ok_iff.mp hnext
  obtain ⟨-, hnext⟩ := Except.require_bind_eq_ok_iff.mp hnext
  cases hside : summary.side with
  | buy =>
      simp only [hside] at hnext
      obtain ⟨state, hstate, hnext⟩ := Except.bind_eq_ok_iff.mp hnext
      cases hnext
      obtain ⟨-, hstate⟩ := Except.require_bind_eq_ok_iff.mp hstate
      obtain ⟨acquired, hacquired, hstate⟩ := Except.bind_eq_ok_iff.mp hstate
      obtain ⟨-, hacquired⟩ := Except.require_bind_eq_ok_iff.mp hacquired
      cases hacquired
      obtain ⟨hquantity, hbasis, hentry, hamount⟩ := buyState_eq_ok hstate
      rw [deltaCost, hside] at hcost
      cases hcost
      exact .bought hside hquantity hbasis hentry hamount rfl
  | sell =>
      simp only [hside] at hnext
      obtain ⟨state, hstate, hnext⟩ := Except.bind_eq_ok_iff.mp hnext
      cases hnext
      simp only [Position.buildSellState, Except.require_bind_eq_ok_iff] at hstate
      obtain ⟨-, -, -, -, hstate⟩ := hstate
      obtain ⟨allocated, hallocated, hstate⟩ := Except.bind_eq_ok_iff.mp hstate
      have hsame : position.getCostBasis summary.aggregate.executedQuantity = .ok cost := by
        rw [← hcost, deltaCost, hside]
      cases hallocated.symm.trans hsame
      simp only [Position.getCostBasis, Except.require_bind_eq_ok_iff] at hsame
      obtain ⟨-, -, -, hshare⟩ := hsame
      obtain ⟨hquantity, hbasis⟩ := sellState_eq_ok hstate
      exact .sold hside hquantity (Except.ok.inj hshare).symm hbasis

/-- The deltas reach a position one after another; the costs of the sales among them add up. -/
inductive DeltasApplied (start : Position ctx) :
    List (ExecutionSummary ctx) → Position ctx → ℚ → Prop where
  | start : DeltasApplied start [] start 0
  | delta {deltas : List (ExecutionSummary ctx)} {position next : Position ctx} {removed cost : ℚ}
      {summary : ExecutionSummary ctx} (before : DeltasApplied start deltas position removed)
      (hcost : deltaCost position summary = .ok cost)
      (hnext : position.applyExecution summary = .ok next)
      (hmoves : DeltaMoves position next summary cost) :
      DeltasApplied start (deltas ++ [summary]) next
        (if summary.side = .sell then ctx.add removed cost else removed)

/-- The fills of some deltas. -/
def deltaFills (deltas : List (ExecutionSummary ctx)) : List (Fill ctx) := deltas.flatMap (·.fills)

/-- The position has taken over exactly the marked fills, each of them once, and the cost
allocated to the order is the cost that its sales took with them. -/
structure AppliedOnce (start : Position ctx) (stores : FillStores ctx) : Prop where
  applied : DeltasApplied start stores.deltas stores.position stores.allocatedCostBasis
  summarized : ∀ summary ∈ stores.deltas, summary.side = stores.order.side ∧
    aggregateFills summary.fills = .ok summary.aggregate
  marked : (deltaFills stores.deltas).map Fill.key = stores.order.positionAppliedFillKeys
  once : ((deltaFills stores.deltas).map Fill.key).Nodup
  stored : ∀ fill ∈ deltaFills stores.deltas, fill ∈ stores.order.fills

/-- Without rounding: the position has moved by the sums of the marked fills, and the cost
allocated to a sale is the cost of the position before it less the cost after it. -/
structure TotalsApplied (start : Position ctx) (stores : FillStores ctx) : Prop where
  bought : stores.order.side = .buy →
    stores.position.state.quantity = start.state.quantity +
      ((stores.order.appliedFills.map (·.quantity)).sum -
        ((stores.order.appliedFills.filter fun fill => decide (fill.feeAsset = .eth)).map
          (·.feeAmount)).sum) ∧
    stores.position.state.entryExecutedQuantity = start.state.entryExecutedQuantity +
      (stores.order.appliedFills.map (·.quantity)).sum ∧
    stores.position.state.entryExecutedAmount = start.state.entryExecutedAmount +
      (stores.order.appliedFills.map Fill.executedAmount).sum
  sold : stores.order.side = .sell →
    stores.position.state.quantity = start.state.quantity -
      (stores.order.appliedFills.map (·.quantity)).sum ∧
    stores.allocatedCostBasis = start.state.costBasis - stores.position.state.costBasis

/-! ## One call -/

section Call

variable {start : Position ctx} {stores : FillStores ctx} {interruption : Option FillPoint}
  {fills : List (Fill ctx)} {summary : ExecutionSummary ctx}

theorem interruptAt_run (point : FillPoint) (stores : FillStores ctx) :
    interruptAt interruption point stores =
      if interruption = some point then .error (.runtimeError "interrupted") stores
      else .ok ⟨⟩ stores := by
  unfold interruptAt
  split <;> rfl

/-- A call changes nothing before the position accepts the delta. -/
theorem deliverFills_cases (interruption : Option FillPoint) (fills : List (Fill ctx))
    (stores : FillStores ctx) :
    (∃ error, deliverFills interruption fills stores = .error error stores) ∨
      ∃ summary cost position,
        stores.order.buildExecutionSummary (some fills) false = .ok summary ∧
        deltaCost stores.position summary = .ok cost ∧
        stores.position.applyExecution summary = .ok position ∧
        deliverFills interruption fills stores =
          accountDelta interruption fills summary cost position stores := by
  simp only [deliverFills, bind_run, get_run, interruptAt_run]
  by_cases hsummary : interruption = some .summary
  · exact .inl ⟨_, by rw [if_pos hsummary]⟩
  rw [if_neg hsummary]
  cases hbuild : stores.order.buildExecutionSummary (some fills) false with
  | error error => exact .inl ⟨error, rfl⟩
  | ok summary =>
  simp only [raising_ok]
  by_cases hbasis : interruption = some .costBasis
  · exact .inl ⟨_, by rw [if_pos hbasis]⟩
  rw [if_neg hbasis]
  cases hcost : deltaCost stores.position summary with
  | error error => exact .inl ⟨error, by simp⟩
  | ok cost =>
  simp only [raising_ok]
  by_cases hexecution : interruption = some .execution
  · exact .inl ⟨_, by rw [if_pos hexecution]⟩
  rw [if_neg hexecution]
  cases hposition : stores.position.applyExecution summary with
  | error error => exact .inl ⟨error, by simp⟩
  | ok position =>
      exact .inr ⟨summary, cost, position, rfl, hcost, hposition, by simp⟩

/-- Without an interruption every store takes the delta over. -/
theorem accountDelta_final {order : Order ctx} {cost : ℚ} {position : Position ctx}
    (hoverlay : interruption ≠ some .overlay) (hmark : interruption ≠ some .mark)
    (hcost : interruption ≠ some .allocatedCost)
    (horder : stores.order.markFillsApplied fills = .ok order) :
    finalState (accountDelta interruption fills summary cost position stores) =
      ({ ((stores.takeDelta summary position).overlayFills fills) with order }).allocate cost := by
  have hmarked : (((stores.takeDelta summary position).overlayFills fills).order).markFillsApplied
      fills = .ok order := horder
  by_cases hside : order.side = .sell <;>
    simp only [accountDelta, bind_run, get_run, modify_run, interruptAt_run, hoverlay, hmark, hcost,
      if_false, hmarked, raising_ok, hside, if_true] <;>
    split_ifs <;> rfl

/-- A summary of some fills is their aggregate. -/
theorem buildExecutionSummary_some {order : Order ctx}
    (h : order.buildExecutionSummary (some fills) false = .ok summary) :
    summary.fills = fills ∧ summary.side = order.side ∧
      aggregateFills fills = .ok summary.aggregate ∧ order.validateFillSubset fills = .ok () := by
  obtain ⟨-, h⟩ := Except.require_bind_eq_ok_iff.mp h
  cases hid : order.exchangeOrderId with
  | none =>
      rw [hid] at h
      cases h
  | some id =>
      rw [hid] at h
      obtain ⟨⟨⟩, hsubset, h⟩ := Except.bind_eq_ok_iff.mp h
      obtain ⟨-, h⟩ := Except.require_bind_eq_ok_iff.mp h
      obtain ⟨aggregate, haggregate, h⟩ := Except.bind_eq_ok_iff.mp h
      obtain ⟨_, -, h⟩ := Except.bind_eq_ok_iff.mp h
      cases h
      exact ⟨rfl, rfl, haggregate, hsubset⟩

theorem applied_validFills {order : Order ctx} (h : order.validateFillSubset fills = .ok ()) :
    order.markFillsApplied fills = .ok { order with
      positionAppliedFillKeys := order.positionAppliedFillKeys ++ fills.map Fill.key } := by
  unfold Order.markFillsApplied
  rw [h]
  rfl

/-- The keys of the unapplied fills are new. -/
theorem unapplied_disjoint (order : Order ctx) :
    ∀ key ∈ order.unappliedFills.map Fill.key, key ∉ order.positionAppliedFillKeys := by
  intro key hkey
  obtain ⟨fill, hfill, rfl⟩ := List.mem_map.mp hkey
  simpa using (List.mem_filter.mp hfill).2

/-- After the unapplied fills are marked, none is left. -/
theorem unappliedFills_marked (order : Order ctx) :
    ({ order with
      positionAppliedFillKeys := order.positionAppliedFillKeys ++
        order.unappliedFills.map Fill.key } : Order ctx).unappliedFills = [] := by
  refine List.filter_eq_nil_iff.mpr fun fill hfill => ?_
  simp only [decide_eq_true_eq, List.mem_append, not_not]
  by_cases hkey : fill.key ∈ order.positionAppliedFillKeys
  · exact .inl hkey
  · exact .inr (List.mem_map_of_mem (List.mem_filter.mpr ⟨hfill, by simpa using hkey⟩))

theorem deltaFills_append_singleton (deltas : List (ExecutionSummary ctx))
    (summary : ExecutionSummary ctx) :
    deltaFills (deltas ++ [summary]) = deltaFills deltas ++ summary.fills := by
  simp [deltaFills]

/-- One call without an interruption between the position and the marks keeps the stores
together, and leaves nothing unapplied when it returns `True`. -/
theorem AppliedOnce.call (h : AppliedOnce start stores) (hwellFormed : stores.order.WellFormed)
    (hoverlay : interruption ≠ some .overlay) (hmark : interruption ≠ some .mark)
    (hallocated : interruption ≠ some .allocatedCost) :
    let outcome := applyUnappliedFillsOnce interruption stores
    AppliedOnce start outcome.2 ∧ outcome.2.order.WellFormed ∧
      (outcome.1 = true → outcome.2.order.unappliedFills = []) := by
  unfold applyUnappliedFillsOnce
  by_cases hnone : stores.order.unappliedFills = []
  · rw [if_pos hnone]
    exact ⟨h, hwellFormed, fun _ => hnone⟩
  rw [if_neg hnone]
  rcases deliverFills_cases interruption stores.order.unappliedFills stores with
    ⟨error, herror⟩ | ⟨summary, cost, position, hbuild, hcost, hposition, hrun⟩
  · rw [herror]
    exact ⟨h, hwellFormed, nofun⟩
  · obtain ⟨hfills, hside, haggregate, hvalid⟩ := buildExecutionSummary_some hbuild
    dsimp only
    rw [hrun, accountDelta_final hoverlay hmark hallocated (applied_validFills hvalid)]
    have hnodup : (stores.order.unappliedFills.map Fill.key).Nodup :=
      hwellFormed.keys_nodup.sublist (List.filter_sublist.map _)
    refine ⟨⟨?_, ?_, ?_, ?_, ?_⟩, ?_, fun _ => unappliedFills_marked stores.order⟩
    · have hdelta := h.applied.delta hcost hposition (deltaMoves_applyExecution hcost hposition)
      rw [hside] at hdelta
      exact hdelta
    · intro other hother
      rcases List.mem_append.mp hother with hmem | hmem
      · exact h.summarized other hmem
      · rw [List.mem_singleton.mp hmem, hfills]
        exact ⟨hside, haggregate⟩
    · show (deltaFills (stores.deltas ++ [summary])).map Fill.key = _
      rw [deltaFills_append_singleton, List.map_append, h.marked, hfills]
      rfl
    · show ((deltaFills (stores.deltas ++ [summary])).map Fill.key).Nodup
      rw [deltaFills_append_singleton, List.map_append, h.marked, hfills, List.nodup_append]
      have honce := h.once
      rw [h.marked] at honce
      refine ⟨honce, hnodup, ?_⟩
      rintro key hold _ hnew rfl
      exact unapplied_disjoint stores.order key hnew hold
    · show ∀ fill ∈ deltaFills (stores.deltas ++ [summary]), fill ∈ stores.order.fills
      intro fill hfill
      rw [deltaFills_append_singleton, hfills] at hfill
      rcases List.mem_append.mp hfill with hmem | hmem
      · exact h.stored fill hmem
      · exact List.mem_of_mem_filter hmem
    · obtain ⟨h1, h2, h3, h4, h5⟩ := hwellFormed
      exact ⟨h1, h2, h3, h4, h5⟩

end Call

/-! ## Runs -/

section Runs

variable {start : Position ctx} {stores : FillStores ctx}

/-- A result adds fills, and none of them is marked. -/
theorem AppliedOnce.result (h : AppliedOnce start stores) (hwellFormed : stores.order.WellFormed)
    (call : Order.ResultCall ctx) :
    AppliedOnce start (stores.step (.result call)) ∧
      (stores.step (.result call)).order.WellFormed := by
  obtain ⟨hnext, hmoves⟩ := call.call_step hwellFormed
  refine ⟨⟨h.applied, ?_, ?_, h.once, ?_⟩, hnext⟩
  · intro summary hsummary
    obtain ⟨hside, haggregate⟩ := h.summarized summary hsummary
    refine ⟨hside.trans ?_, haggregate⟩
    show _ = (finalState (call.call stores.order)).side
    rw [hmoves.intent_kept]
  · exact h.marked.trans (call.call_positionAppliedFillKeys stores.order).symm
  · exact fun fill hfill => hmoves.fills_kept.subset (h.stored fill hfill)

theorem AppliedOnce.step (h : AppliedOnce start stores) (hwellFormed : stores.order.WellFormed)
    {step : FillStep ctx} (hstep : step.Uninterrupted) :
    AppliedOnce start (stores.step step) ∧ (stores.step step).order.WellFormed := by
  cases step with
  | result call => exact h.result hwellFormed call
  | apply interruption =>
      obtain ⟨hnext, hnextWellFormed, -⟩ := h.call hwellFormed hstep.1 hstep.2.1 hstep.2.2
      exact ⟨hnext, hnextWellFormed⟩

theorem AppliedOnce.run (h : AppliedOnce start stores) (hwellFormed : stores.order.WellFormed)
    {steps : List (FillStep ctx)} (hsteps : ∀ step ∈ steps, step.Uninterrupted) :
    AppliedOnce start (steps.foldl FillStores.step stores) ∧
      (steps.foldl FillStores.step stores).order.WellFormed := by
  induction steps generalizing stores with
  | nil => exact ⟨h, hwellFormed⟩
  | cons step steps ih =>
      obtain ⟨hnext, hnextWellFormed⟩ := h.step hwellFormed (hsteps step (by simp))
      exact ih hnext hnextWellFormed fun other hother => hsteps other (by simp [hother])

/-- Nothing has reached the position of a new order. -/
theorem appliedOnce_start (intent : OrderIntent) (start : Position ctx) (balances : FreeBalances) :
    AppliedOnce start (fillRun intent start balances []) where
  applied := .start
  summarized := fun _ hsummary => absurd hsummary List.not_mem_nil
  marked := rfl
  once := List.nodup_nil
  stored := fun _ hfill => absurd hfill List.not_mem_nil

theorem appliedOnce_fillRun (intent : OrderIntent) (start : Position ctx)
    (balances : FreeBalances) {steps : List (FillStep ctx)}
    (hsteps : ∀ step ∈ steps, step.Uninterrupted) :
    AppliedOnce start (fillRun intent start balances steps) ∧
      (fillRun intent start balances steps).order.WellFormed :=
  (appliedOnce_start intent start balances).run (Order.wellFormed_order ctx intent) hsteps

/-! ### Without rounding -/

/-- The stores as a live order. -/
def FillStores.live (stores : FillStores ctx) : LiveState ctx where
  position := stores.position
  order := stores.order
  allocatedCostBasis := stores.allocatedCostBasis

/-- A call without such an interruption does nothing, or what a call that never raises does. -/
theorem live_applyUnappliedFillsOnce {stores : FillStores exact} {interruption : Option FillPoint}
    (hoverlay : interruption ≠ some .overlay) (hmark : interruption ≠ some .mark)
    (hallocated : interruption ≠ some .allocatedCost) :
    let next := (applyUnappliedFillsOnce interruption stores).2
    next.live = stores.live ∨ stores.live.applyUnappliedFills = .ok next.live := by
  unfold applyUnappliedFillsOnce
  by_cases hnone : stores.order.unappliedFills = []
  · exact .inl (by rw [if_pos hnone])
  rw [if_neg hnone]
  rcases deliverFills_cases interruption stores.order.unappliedFills stores with
    ⟨error, herror⟩ | ⟨summary, cost, position, hbuild, hcost, hposition, hrun⟩
  · exact .inl (by rw [herror]; rfl)
  · obtain ⟨-, hside, -, hvalid⟩ := buildExecutionSummary_some hbuild
    obtain ⟨order, hmarked⟩ : ∃ order,
        stores.order.markFillsApplied stores.order.unappliedFills = .ok order :=
      ⟨_, applied_validFills hvalid⟩
    have hkept : order.side = stores.order.side :=
      congrArg OrderIntentFields.side
        (congrArg OrderIntent.toOrderIntentFields (Order.markFillsApplied_eq_ok hmarked).1)
    -- the cost that a live order adds for a purchase is zero
    have hadded : (if order.side = .sell then exact.add stores.allocatedCostBasis cost
        else stores.allocatedCostBasis) = exact.add stores.allocatedCostBasis cost := by
      cases hbuy : order.side with
      | buy =>
          rw [deltaCost, hside, ← hkept, hbuy] at hcost
          cases hcost
          simp
      | sell => simp
    refine .inr ?_
    dsimp only
    rw [hrun, accountDelta_final hoverlay hmark hallocated hmarked]
    unfold LiveState.applyUnappliedFills
    simp only [FillStores.live, FillStores.allocate, FillStores.overlayFills,
      FillStores.takeDelta, if_neg hnone, hbuild, hcost, hposition, hmarked, Except.ok_bind, hadded]

/-- A run of a live order, as far as the calls go through. -/
theorem delivering_step {start : Position exact} {intent : OrderIntent} {stores : FillStores exact}
    (h : Delivering start intent stores.live) {step : FillStep exact}
    (hstep : step.Uninterrupted) : Delivering start intent (stores.step step).live := by
  cases step with
  | result call => exact @Delivering.step _ _ _ _ h (.result call) rfl
  | apply interruption =>
      obtain ⟨hoverlay, hmark, hallocated⟩ := hstep
      rcases @live_applyUnappliedFillsOnce stores interruption hoverlay hmark hallocated with
        hsame | hlive
      · exact hsame.symm ▸ h
      · exact @Delivering.step _ _ _ _ h .applyUnappliedFills hlive

theorem delivering_fillRun (intent : OrderIntent) (start : Position exact)
    (balances : FreeBalances) {steps : List (FillStep exact)}
    (hsteps : ∀ step ∈ steps, step.Uninterrupted) :
    Delivering start intent (fillRun intent start balances steps).live := by
  unfold fillRun
  have hstart : Delivering start intent
      (FillStores.live { position := start, order := intent.order exact, balances }) :=
    delivering_start start intent
  generalize ({ position := start, order := intent.order exact, balances } : FillStores exact) =
    stores at hstart
  induction steps generalizing stores with
  | nil => exact hstart
  | cons step steps ih =>
      exact ih (fun other hother => hsteps other (by simp [hother])) _
        (delivering_step hstart (hsteps step (by simp)))

/-- What the fills have done to the position is the sums of their amounts. -/
theorem totalsApplied_of_delivering {start : Position exact} {intent : OrderIntent}
    {stores : FillStores exact} (h : Delivering start intent stores.live) :
    TotalsApplied start stores := by
  have hside : stores.order.side = intent.side :=
    congrArg (fun intent : OrderIntent => intent.side) h.intent_eq
  obtain ⟨-, -, -, hdelivered⟩ := h
  cases hdelivered with
  | none hnil hposition hallocated =>
      change stores.order.appliedFills = [] at hnil
      change stores.position = start at hposition
      change stores.allocatedCostBasis = 0 at hallocated
      refine ⟨fun _ => ?_, fun _ => ?_⟩ <;> simp [hnil, hposition, hallocated]
  | bought hbuy _ hholding _ _ _ =>
      refine ⟨fun _ => ⟨?_, ?_, ?_⟩, fun hsell => ?_⟩
      · exact congrArg Holding.quantity hholding
      · exact congrArg Holding.entryExecutedQuantity hholding
      · exact congrArg Holding.entryExecutedAmount hholding
      · rw [hside, hbuy] at hsell
        cases hsell
  | sold hsell _ hholding hopen _ _ _ hallocated _ =>
      refine ⟨fun hbuy => ?_, fun _ => ?_⟩
      · rw [hside, hsell] at hbuy
        cases hbuy
      · have hq : start.state.quantity ≠ 0 := (PositionStateSnapshot.open_facts hopen).1.ne'
        obtain ⟨hquantity, hbasis⟩ := @Holding.sell_quantity_costBasis start.state.holding hq
          (flow stores.order.appliedFills).quantity
        refine ⟨(congrArg Holding.quantity hholding).trans hquantity, ?_⟩
        have hafter : stores.position.state.costBasis = start.state.costBasis -
            taken start.state.quantity (flow stores.order.appliedFills).quantity
              start.state.costBasis := (congrArg Holding.costBasis hholding).trans hbasis
        rw [hafter, sub_sub_cancel]
        exact hallocated

theorem exact_of_round {ctx : DecimalContext} (h : ∀ q, ctx.round q = q) : ctx = exact := by
  cases ctx
  cases funext h
  rfl


/-- In every run of results and calls in which no call is interrupted between the position and
the accounting of its delta, the position has taken over exactly the marked fills, each once, a
call that returns `True` leaves none unapplied, and the cost of a sale is kept.  Without
rounding the position differs from the first one by the sums of the marked fills, and the cost
of a sale is what it has lost of its cost. -/
theorem applied_once (intent : OrderIntent) (start : Position ctx) (balances : FreeBalances)
    {steps : List (FillStep ctx)} (hsteps : ∀ step ∈ steps, step.Uninterrupted) :
    AppliedOnce start (fillRun intent start balances steps) ∧
      ((∀ q, ctx.round q = q) → TotalsApplied start (fillRun intent start balances steps)) ∧
      ∀ interruption, (FillStep.apply interruption : FillStep ctx).Uninterrupted →
        (applyUnappliedFillsOnce interruption (fillRun intent start balances steps)).1 = true →
        (applyUnappliedFillsOnce interruption
          (fillRun intent start balances steps)).2.order.unappliedFills = [] := by
  obtain ⟨hrun, hwellFormed⟩ := appliedOnce_fillRun intent start balances hsteps
  refine ⟨hrun, fun hround => ?_, fun interruption hinterruption => ?_⟩
  · obtain rfl := exact_of_round hround
    exact totalsApplied_of_delivering (delivering_fillRun intent start balances hsteps)
  · obtain ⟨hoverlay, hmark, hallocated⟩ := hinterruption
    exact (hrun.call hwellFormed hoverlay hmark hallocated).2.2

end Runs

/-! ## An interruption before the marks -/

/-- No account, and no fills yet. -/
def noBalances : FreeBalances := { free := fun _ => none }

/-- A partial fill of one ETH. -/
def oneFill : FillStep decimal128 :=
  .result (.apply (Order.tickResult "1" 1 Order.tick_pos))

/-- Three ETH bought in two deltas; the publication of the first is interrupted. -/
def boughtSteps : List (FillStep exact) :=
  [.result (.apply (deltaResult "bat-1" "1" "1" .partiallyFilled 1 one_pos 1 zero_le_one)),
    .apply (some .publication),
    .result (.reapply (deltaResult "bat-1" "1" "2" .filled 2 two_pos 1 zero_le_one)),
    .apply none]

/-- Two of them sold in two deltas; the second is refused at first, and its end interrupted. -/
def soldSteps : List (FillStep exact) :=
  [.result (.apply (deltaResult "bat-2" "2" "3" .new (1 / 2) one_half_pos 0 le_rfl)),
    .apply none,
    .result (.reapply (deltaResult "bat-2" "2" "4" .canceled (3 / 2) (div_pos three_pos two_pos) 0
      le_rfl)),
    .apply (some .execution), .apply (some .exitResult)]

/-- Two thirds of the cost leave with the two ETH. -/
theorem applied_once_publication :
    let bought := fillRun (deltaIntent "bat-1" .buy none (by decide)) (.empty exact) noBalances
      boughtSteps
    let sold := fillRun (deltaIntent "bat-2" .sell (some .time) (by decide)) bought.position
      noBalances soldSteps
    bought.position.state.quantity = 3 ∧ bought.position.state.costBasis = 302 ∧
      sold.position.state.quantity = 1 ∧ sold.allocatedCostBasis = 604 / 3 ∧
      AppliedOnce (.empty exact) bought ∧ TotalsApplied (.empty exact) bought ∧
      AppliedOnce bought.position sold ∧ TotalsApplied bought.position sold := by
  intro bought sold
  have hbought := @applied_once _ (deltaIntent "bat-1" .buy none (by decide)) (.empty exact)
    noBalances boughtSteps (by simp [boughtSteps, FillStep.Uninterrupted])
  have hsold := @applied_once _ (deltaIntent "bat-2" .sell (some .time) (by decide)) bought.position
    noBalances soldSteps (by simp [soldSteps, FillStep.Uninterrupted])
  exact ⟨by decide +kernel, by decide +kernel, by decide +kernel, by decide +kernel, hbought.1,
    hbought.2.1 fun _ => rfl, hsold.1, hsold.2.1 fun _ => rfl⟩

/-- The overlay raises after the position has taken the fill over, and the retry applies it
again. -/
theorem overlay_applies_twice :
    let stores := fillRun Order.tickIntent (.empty decimal128) noBalances
      [oneFill, .apply (some .overlay), .apply none]
    stores.position.state.quantity = 2 ∧ stores.order.filledQuantity = 1 ∧
      stores.deltas.length = 2 ∧ stores.order.positionAppliedFillKeys.length = 1 := by
  decide +kernel

end Trading
