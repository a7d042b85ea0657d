import AutoTrader.Trading.Orders.Fill
import AutoTrader.Support.Except
import AutoTrader.Support.State

/-!
# Free balances between a fill and its account update

The overlay of the controller that adds confirmed fills to the free balances the account
stream last published.

* `getEffectiveFreeBalance`, `applyAccountFillOverlay` — the two methods.
* `TrueBalances` — the balances of the exchange, which change by the fills only.
* `Reaches` — the states after any order of applied fills, published updates and queries.
* `Safe` — the steps after which an effective balance is covered by the true one.
-/

namespace Trading

open Arithmetic

/-! ## The overlay -/

/-- `_AccountFreeOverlay`: the change that the observed balance does not contain yet. -/
structure AccountFreeOverlay where
  observedFree : ℚ
  adjustment : ℚ := 0
  deriving DecidableEq

/-- The free balances of the account, and the overlays of the session. -/
structure FreeBalances where
  free : FeeAsset → Option ℚ
  overlays : FeeAsset → Option AccountFreeOverlay := fun _ => none

namespace FreeBalances

variable (ctx : DecimalContext)

/-- The published balance; an asset the account does not list has none. -/
def observedFree (state : FreeBalances) (asset : FeeAsset) : ℚ := (state.free asset).getD 0

def dropOverlay (asset : FeeAsset) (state : FreeBalances) : FreeBalances :=
  { state with overlays := fun other => if other = asset then none else state.overlays other }

/-- `_get_effective_free_balance`. -/
def getEffectiveFreeBalance (asset : FeeAsset) : EStateM TradingError FreeBalances ℚ := do
  Stateful.raising (Except.require (asset = .eth ∨ asset = .usdt)
    (.valueError "effective free balance supports only ETH and USDT"))
  let state ← get
  match state.overlays asset with
  | none => pure (state.observedFree asset)
  | some overlay =>
      -- A changed raw balance is taken for one that contains every earlier fill.
      if state.observedFree asset ≠ overlay.observedFree then do
        modify (dropOverlay asset)
        pure (state.observedFree asset)
      else pure (max 0 (ctx.add (state.observedFree asset) overlay.adjustment))

variable {ctx}

/-- The change of an asset by the fills of one order, before fees. -/
def grossAdjustment (side : OrderSide) (fills : List (Fill ctx)) : FeeAsset → ℚ
  | .eth =>
      if side = .sell then -ctx.sum (fills.map (·.quantity)) else ctx.sum (fills.map (·.quantity))
  | .usdt =>
      if side = .sell then ctx.sum (fills.map Fill.executedAmount)
      else -ctx.sum (fills.map Fill.executedAmount)
  | .bnb => 0

/-- A fee is taken from the asset it was charged in. -/
def chargeFee (asset : FeeAsset) (adjustment : ℚ) (fill : Fill ctx) : ℚ :=
  if fill.feeAsset = asset then ctx.sub adjustment fill.feeAmount else adjustment

/-- The change of an asset by the fills of one order. -/
def fillAdjustment (side : OrderSide) (fills : List (Fill ctx)) (asset : FeeAsset) : ℚ :=
  fills.foldl (chargeFee asset) (grossAdjustment side fills asset)

/-- The assets with an entry in `adjustments`: base, quote, and those of the fees. -/
def isAdjusted (fills : List (Fill ctx)) (asset : FeeAsset) : Bool :=
  asset != .bnb || fills.any (·.feeAsset == asset)

/-- The overlay a change is added to: a new one when there is none for this balance. -/
def currentOverlay (state : FreeBalances) (asset : FeeAsset) : AccountFreeOverlay :=
  match state.overlays asset with
  | none => { observedFree := state.observedFree asset }
  | some overlay =>
      if overlay.observedFree ≠ state.observedFree asset then
        { observedFree := state.observedFree asset }
      else overlay

/-- `_apply_account_fill_overlay`. -/
def applyAccountFillOverlay (side : OrderSide) (fills : List (Fill ctx))
    (state : FreeBalances) : FreeBalances :=
  { state with
    overlays := fun asset =>
      if isAdjusted fills asset then
        some { state.currentOverlay asset with
          adjustment := ctx.add (state.currentOverlay asset).adjustment
            (fillAdjustment side fills asset) }
      else state.overlays asset }

/-- An account update with the given balances. -/
def publish (balances : FeeAsset → ℚ) (state : FreeBalances) : FreeBalances :=
  { state with free := fun asset => some (balances asset) }

/-! ### Lemmas -/

theorem currentOverlay_observedFree (state : FreeBalances) (asset : FeeAsset) :
    (state.currentOverlay asset).observedFree = state.observedFree asset := by
  unfold currentOverlay
  cases state.overlays asset with
  | none => rfl
  | some overlay =>
      by_cases h : overlay.observedFree = state.observedFree asset
      · simp [h]
      · simp [h]

/-- The balance an effective one is made of: the published one and what is added to it. -/
def extended (state : FreeBalances) (asset : FeeAsset) : ℚ :=
  state.observedFree asset + (state.currentOverlay asset).adjustment

section Query

variable {state : FreeBalances} {asset : FeeAsset}

/-- A query of a supported asset is decided by its overlay. -/
theorem getEffectiveFreeBalance_run (hasset : asset = .eth ∨ asset = .usdt) :
    getEffectiveFreeBalance ctx asset state =
      match state.overlays asset with
      | none => .ok (state.observedFree asset) state
      | some overlay =>
          if state.observedFree asset ≠ overlay.observedFree then
            .ok (state.observedFree asset) (state.dropOverlay asset)
          else .ok (max 0 (ctx.add (state.observedFree asset) overlay.adjustment)) state := by
  unfold getEffectiveFreeBalance
  rw [Stateful.bind_run, Except.require, if_pos hasset, Stateful.raising_ok]
  simp only [Stateful.bind_run, Stateful.get_run]
  cases state.overlays asset with
  | none => rfl
  | some overlay =>
      by_cases hsame : state.observedFree asset = overlay.observedFree
      · simp [hsame]
      · simp [hsame]

/-- Other assets have no effective balance. -/
theorem getEffectiveFreeBalance_unsupported (hasset : ¬ (asset = .eth ∨ asset = .usdt)) :
    getEffectiveFreeBalance ctx asset state =
      .error (.valueError "effective free balance supports only ETH and USDT") state := by
  unfold getEffectiveFreeBalance
  rw [Stateful.bind_run, Except.require, if_neg hasset, Stateful.raising_error]

/-- What a query returns: the published balance, or the extended one, rounded. -/
theorem getEffectiveFreeBalance_value {next : FreeBalances} {value : ℚ}
    (h : getEffectiveFreeBalance ctx asset state = .ok value next) :
    asset ≠ .bnb ∧
      (value = state.extended asset ∨
        (value = max 0 (ctx.round (state.extended asset)) ∧ state.overlays asset ≠ none)) := by
  by_cases hasset : asset = .eth ∨ asset = .usdt
  · refine ⟨by rcases hasset with rfl | rfl <;> simp, ?_⟩
    rw [getEffectiveFreeBalance_run hasset] at h
    cases hoverlay : state.overlays asset with
    | none =>
        rw [hoverlay] at h
        cases h
        exact .inl (by simp [extended, currentOverlay, hoverlay])
    | some overlay =>
        by_cases hsame : state.observedFree asset = overlay.observedFree
        · simp only [hoverlay, hsame, ne_eq, not_true_eq_false, if_false] at h
          cases h
          exact .inr (by simp [extended, currentOverlay, hoverlay, hsame, DecimalContext.add])
        · simp only [hoverlay, ne_eq, hsame, not_false_eq_true, if_true] at h
          cases h
          exact .inl (by simp [extended, currentOverlay, hoverlay, Ne.symm hsame])
  · rw [getEffectiveFreeBalance_unsupported hasset] at h
    cases h

end Query

theorem extended_congr {state other : FreeBalances} {asset : FeeAsset}
    (hfree : other.free asset = state.free asset)
    (hoverlay : other.overlays asset = state.overlays asset) :
    other.extended asset = state.extended asset := by
  have hobserved : other.observedFree asset = state.observedFree asset := by
    simp only [observedFree, hfree]
  simp only [extended, currentOverlay, hobserved, hoverlay]

/-- Dropping an overlay of another raw balance changes no extended balance. -/
theorem extended_dropOverlay {state : FreeBalances} {asked : FeeAsset}
    {overlay : AccountFreeOverlay} (hoverlay : state.overlays asked = some overlay)
    (hstale : state.observedFree asked ≠ overlay.observedFree) (asset : FeeAsset) :
    (state.dropOverlay asked).extended asset = state.extended asset := by
  by_cases heq : asset = asked
  · subst heq
    have hdropped : (state.dropOverlay asset).overlays asset = none := if_pos rfl
    have hobserved : (state.dropOverlay asset).observedFree asset = state.observedFree asset := rfl
    simp only [extended, currentOverlay, hdropped, hobserved, hoverlay, if_pos hstale.symm, ne_eq]
  · exact extended_congr rfl (if_neg heq)

/-- A query changes no extended balance. -/
theorem getEffectiveFreeBalance_state (state : FreeBalances) (asked asset : FeeAsset) :
    let next := Stateful.finalState (getEffectiveFreeBalance ctx asked state)
    next.extended asset = state.extended asset ∧
      (next.overlays asset ≠ none → state.overlays asset ≠ none) := by
  by_cases hasset : asked = .eth ∨ asked = .usdt
  · rw [getEffectiveFreeBalance_run hasset]
    cases hoverlay : state.overlays asked with
    | none => simp
    | some overlay =>
        by_cases hsame : state.observedFree asked = overlay.observedFree
        · simp [hsame]
        · simp only [ne_eq, hsame, not_false_eq_true, if_true, Stateful.finalState_ok]
          refine ⟨extended_dropOverlay hoverlay hsame asset, ?_⟩
          by_cases heq : asset = asked
          · simp [dropOverlay, heq]
          · simp [dropOverlay, heq]
  · rw [getEffectiveFreeBalance_unsupported hasset]
    simp

end FreeBalances

/-! ## The balances of the exchange -/

/-- What a fill changes on the exchange. -/
def trueChange {ctx : DecimalContext} (asset : FeeAsset) (execution : OrderSide × Fill ctx) : ℚ :=
  (match asset, execution.1 with
    | .eth, .buy => execution.2.quantity
    | .eth, .sell => -execution.2.quantity
    | .usdt, .buy => -(execution.2.quantity * execution.2.price)
    | .usdt, .sell => execution.2.quantity * execution.2.price
    | .bnb, _ => 0) -
    if execution.2.feeAsset = asset then execution.2.feeAmount else 0

/-- Free balances that change by the fills of the session, in this order, and are never
negative. -/
structure TrueBalances where
  initial : FeeAsset → ℚ
  executions : List (OrderSide × Fill decimal128)
  nonneg : ∀ count asset,
    0 ≤ initial asset + ((executions.take count).map (trueChange asset)).sum

namespace TrueBalances

/-- The balance after the first fills. -/
def balance (truth : TrueBalances) (count : ℕ) (asset : FeeAsset) : ℚ :=
  truth.initial asset + ((truth.executions.take count).map (trueChange asset)).sum

/-- Further fills add their changes. -/
theorem balance_add (truth : TrueBalances) {count : ℕ} {more : List (OrderSide × Fill decimal128)}
    (h : more <+: truth.executions.drop count) (asset : FeeAsset) :
    truth.balance (count + more.length) asset =
      truth.balance count asset + (more.map (trueChange asset)).sum := by
  have htake : (truth.executions.drop count).take more.length = more :=
    (List.prefix_iff_eq_take.mp h).symm
  unfold balance
  rw [List.take_add, htake, List.map_append, List.sum_append]
  ring

end TrueBalances

/-! ## Sums that lose nothing -/

/-- No addition over these fills is rounded. -/
structure SumsExact (side : OrderSide) (fills : List (Fill decimal128)) (asset : FeeAsset) :
    Prop where
  products : ∀ fill ∈ fills, decimal128.Representable (fill.quantity * fill.price)
  quantities : decimal128.SumExact (fills.map (·.quantity))
  amounts : decimal128.SumExact (fills.map fun fill => fill.quantity * fill.price)
  fees : ∀ charged, charged <+: fills → decimal128.Representable
    (FreeBalances.grossAdjustment side fills asset -
      (charged.map fun fill => if fill.feeAsset = asset then fill.feeAmount else 0).sum)

instance (q : ℚ) : Decidable (decimal128.Representable q) :=
  inferInstanceAs (Decidable (decimal128.round q = q))

instance (qs : List ℚ) : Decidable (decimal128.SumExact qs) :=
  decidable_of_iff (∀ rs ∈ qs.inits, decimal128.Representable rs.sum)
    (forall_congr' fun rs => by rw [List.mem_inits])

instance (side : OrderSide) (fills : List (Fill decimal128)) (asset : FeeAsset) :
    Decidable (SumsExact side fills asset) :=
  decidable_of_iff
    ((∀ fill ∈ fills, decimal128.Representable (fill.quantity * fill.price)) ∧
      decimal128.SumExact (fills.map (·.quantity)) ∧
      decimal128.SumExact (fills.map fun fill => fill.quantity * fill.price) ∧
      ∀ charged ∈ fills.inits, decimal128.Representable
        (FreeBalances.grossAdjustment side fills asset -
          (charged.map fun fill => if fill.feeAsset = asset then fill.feeAmount else 0).sum))
    ⟨fun h => ⟨h.1, h.2.1, h.2.2.1, fun charged hcharged =>
        h.2.2.2 charged (List.mem_inits charged fills |>.mpr hcharged)⟩,
      fun h => ⟨h.products, h.quantities, h.amounts, fun charged hcharged =>
        h.fees charged (List.mem_inits charged fills |>.mp hcharged)⟩⟩

/-- The fees of exact sums are subtracted exactly. -/
theorem SumsExact.foldl_chargeFee {side : OrderSide} {fills : List (Fill decimal128)}
    {asset : FeeAsset} (h : SumsExact side fills asset) (charged : List (Fill decimal128))
    (hcharged : charged <+: fills) :
    charged.foldl (FreeBalances.chargeFee asset) (FreeBalances.grossAdjustment side fills asset) =
      FreeBalances.grossAdjustment side fills asset -
        (charged.map fun fill => if fill.feeAsset = asset then fill.feeAmount else 0).sum := by
  induction charged using List.reverseRecOn with
  | nil => simp
  | append_singleton charged fill ih =>
      have hexact := h.fees _ hcharged
      rw [List.foldl_append, ih ((List.prefix_append _ _).trans hcharged)]
      rw [List.map_append, List.sum_append] at hexact ⊢
      simp only [List.foldl_cons, List.foldl_nil, List.map_cons, List.map_nil, List.sum_cons,
        List.sum_nil, FreeBalances.chargeFee] at hexact ⊢
      by_cases hasset : fill.feeAsset = asset
      · simp only [if_pos hasset, add_zero, ← sub_sub] at hexact ⊢
        exact hexact
      · simp [hasset]

/-- Exact sums give the change on the exchange. -/
theorem SumsExact.fillAdjustment_eq {side : OrderSide} {fills : List (Fill decimal128)}
    {asset : FeeAsset} (h : SumsExact side fills asset) :
    FreeBalances.fillAdjustment side fills asset =
      ((fills.map (side, ·)).map (trueChange asset)).sum := by
  have hamounts : fills.map Fill.executedAmount = fills.map fun fill => fill.quantity * fill.price :=
    List.map_congr_left h.products
  have hquantity := decimal128.sum_eq_of_sumExact h.quantities
  have hamount := decimal128.sum_eq_of_sumExact h.amounts
  unfold FreeBalances.fillAdjustment
  rw [h.foldl_chargeFee fills (List.prefix_refl _), List.map_map]
  have hsplit : ∀ gross : Fill decimal128 → ℚ,
      (fills.map fun fill => gross fill -
        if fill.feeAsset = asset then fill.feeAmount else 0).sum =
      (fills.map gross).sum -
        (fills.map fun fill => if fill.feeAsset = asset then fill.feeAmount else 0).sum := by
    intro gross
    simpa using Multiset.sum_map_sub (m := (fills : Multiset (Fill decimal128))) (f := gross)
  have hneg : ∀ gross : Fill decimal128 → ℚ,
      (fills.map fun fill => -gross fill).sum = -(fills.map gross).sum := by
    intro gross
    simpa using Multiset.sum_map_neg (m := (fills : Multiset (Fill decimal128))) (f := gross)
  cases asset <;> cases side <;>
    simp [FreeBalances.grossAdjustment, trueChange, Function.comp_def, hsplit, hneg, hamounts,
      hquantity, hamount]

/-! ## Interleavings -/

inductive BalanceCall where
  | applyFills (side : OrderSide) (fills : List (Fill decimal128))
  | publish (count : ℕ)
  | query (asset : FeeAsset)

/-- A session between two calls: how many fills it applied, and how many the last account
update contained. -/
structure BalanceRun where
  state : FreeBalances
  applied : ℕ := 0
  published : ℕ := 0

namespace BalanceRun

def start (truth : TrueBalances) : BalanceRun where
  state := { free := fun asset => some (truth.initial asset) }

/-- The fills that are confirmed: applied by the session, or published by the account. -/
def confirmed (run : BalanceRun) : ℕ := max run.applied run.published

/-- A call applies the next fills, or publishes no fewer fills than the last update. -/
def Legal (truth : TrueBalances) (run : BalanceRun) : BalanceCall → Prop
  | .applyFills side fills => fills.map (side, ·) <+: truth.executions.drop run.applied
  | .publish count => run.published ≤ count ∧ count ≤ truth.executions.length
  | .query _ => True

def next (truth : TrueBalances) (run : BalanceRun) : BalanceCall → BalanceRun
  | .applyFills side fills =>
      { run with
        state := run.state.applyAccountFillOverlay side fills
        applied := run.applied + fills.length }
  | .publish count =>
      { run with
        state := run.state.publish (truth.balance count)
        published := count }
  | .query asset =>
      { run with
        state := Stateful.finalState
          (FreeBalances.getEffectiveFreeBalance decimal128 asset run.state) }

/-- The states after any legal calls that all meet a condition. -/
inductive Reaches (truth : TrueBalances) (Meets : BalanceRun → BalanceCall → Prop) :
    BalanceRun → Prop
  | start : Reaches truth Meets (start truth)
  | step {run : BalanceRun} (call : BalanceCall) (h : Reaches truth Meets run)
      (hlegal : run.Legal truth call) (hmeets : Meets run call) :
      Reaches truth Meets (run.next truth call)

/-- When a call keeps the effective balance of an asset covered.

* Fills are applied: those that the account already published do not raise the balance, and
  no sum is rounded.
* A balance is published: it leaves out no applied fills that lower the balance, and it is
  not the raw value under which a positive adjustment is remembered.  An update that brings
  neither a new raw value nor new fills changes nothing. -/
def Safe (truth : TrueBalances) (asset : FeeAsset) (run : BalanceRun) : BalanceCall → Prop
  | .applyFills side fills =>
      (run.applied < run.published →
        truth.balance (min (run.applied + fills.length) run.published) asset ≤
          truth.balance run.applied asset) ∧
      SumsExact side fills asset ∧
      decimal128.Representable ((run.state.currentOverlay asset).adjustment +
        ((fills.map (side, ·)).map (trueChange asset)).sum) ∧
      decimal128.Representable
        (truth.balance (max (run.applied + fills.length) run.published) asset)
  | .publish count =>
      decimal128.Representable (truth.balance count asset) ∧
      (truth.balance count asset = run.state.observedFree asset ∧ count ≤ run.confirmed ∨
        truth.balance count asset ≤ truth.balance (max run.applied count) asset ∧
          ∀ overlay ∈ run.state.overlays asset,
            overlay.observedFree = truth.balance count asset → overlay.adjustment ≤ 0)
  | .query _ => True

/-- What holds between the calls: the extended balance is covered. -/
structure Covered (truth : TrueBalances) (asset : FeeAsset) (run : BalanceRun) : Prop where
  extended_le : run.state.extended asset ≤ truth.balance run.confirmed asset
  representable : run.state.overlays asset ≠ none →
    decimal128.Representable (truth.balance run.confirmed asset)

theorem covered_start (truth : TrueBalances) (asset : FeeAsset) :
    Covered truth asset (start truth) where
  extended_le := by
    simp [start, confirmed, FreeBalances.extended, FreeBalances.currentOverlay,
      FreeBalances.observedFree, TrueBalances.balance]
  representable := fun h => absurd rfl h

section Step

variable {truth : TrueBalances} {asset : FeeAsset} {run : BalanceRun}

/-- Applied fills extend a balance by their changes on the exchange. -/
theorem extended_applyFills {side : OrderSide} {fills : List (Fill decimal128)}
    (hasset : asset ≠ .bnb) (hexact : SumsExact side fills asset)
    (hrepresentable : decimal128.Representable ((run.state.currentOverlay asset).adjustment +
      ((fills.map (side, ·)).map (trueChange asset)).sum)) :
    (run.state.applyAccountFillOverlay side fills).extended asset =
      run.state.extended asset + ((fills.map (side, ·)).map (trueChange asset)).sum := by
  have hadjusted : FreeBalances.isAdjusted fills asset = true := by
    simp [FreeBalances.isAdjusted, hasset]
  have hoverlay : (run.state.applyAccountFillOverlay side fills).overlays asset =
      some { run.state.currentOverlay asset with
        adjustment := decimal128.add (run.state.currentOverlay asset).adjustment
          (FreeBalances.fillAdjustment side fills asset) } := if_pos hadjusted
  have hobserved : (run.state.applyAccountFillOverlay side fills).observedFree asset =
      run.state.observedFree asset := rfl
  unfold FreeBalances.extended
  conv_lhs => rw [FreeBalances.currentOverlay, hoverlay, hobserved]
  simp only [FreeBalances.currentOverlay_observedFree, ne_eq, not_true_eq_false, if_false,
    DecimalContext.add, hexact.fillAdjustment_eq]
  rw [show decimal128.round _ = _ from hrepresentable]
  ring

theorem Covered.applyFills (hasset : asset ≠ .bnb) (h : Covered truth asset run)
    {side : OrderSide} {fills : List (Fill decimal128)}
    (hlegal : run.Legal truth (.applyFills side fills))
    (hsafe : Safe truth asset run (.applyFills side fills)) :
    Covered truth asset (run.next truth (.applyFills side fills)) := by
  obtain ⟨hpublished, hexact, hadjustment, hbalance⟩ := hsafe
  refine ⟨?_, fun _ => hbalance⟩
  show (run.state.applyAccountFillOverlay side fills).extended asset ≤
    truth.balance (max (run.applied + fills.length) run.published) asset
  have hchange : truth.balance (run.applied + fills.length) asset =
      truth.balance run.applied asset + ((fills.map (side, ·)).map (trueChange asset)).sum := by
    simpa using truth.balance_add hlegal asset
  have hle : run.state.extended asset ≤ truth.balance (max run.applied run.published) asset :=
    h.extended_le
  rw [extended_applyFills hasset hexact hadjustment]
  by_cases hahead : run.applied < run.published
  · have hpart := hpublished hahead
    rw [max_eq_right hahead.le] at hle
    by_cases hbatch : run.applied + fills.length ≤ run.published
    · rw [min_eq_left hbatch] at hpart
      rw [max_eq_right hbatch]
      linarith
    · rw [min_eq_right (by omega)] at hpart
      rw [max_eq_left (by omega)]
      linarith
  · rw [max_eq_left (by omega)] at hle ⊢
    linarith

theorem Covered.publish (h : Covered truth asset run) {count : ℕ}
    (hlegal : run.Legal truth (.publish count)) (hsafe : Safe truth asset run (.publish count)) :
    Covered truth asset (run.next truth (.publish count)) := by
  obtain ⟨hrepresentable, hsafe⟩ := hsafe
  have hconfirmed : max run.applied count = run.confirmed ∨ max run.applied count = count := by
    unfold confirmed
    have := hlegal.1
    omega
  have hobserved : (run.state.publish (truth.balance count)).observedFree asset =
      truth.balance count asset := rfl
  have hoverlays : (run.state.publish (truth.balance count)).overlays = run.state.overlays := rfl
  refine ⟨?_, ?_⟩
  · show (run.state.publish (truth.balance count)).extended asset ≤
      truth.balance (max run.applied count) asset
    rcases hsafe with ⟨hsame, hknown⟩ | ⟨hcovers, hremembered⟩
    · have hkept : (run.state.publish (truth.balance count)).extended asset =
          run.state.extended asset := by
        simp only [FreeBalances.extended, FreeBalances.currentOverlay, hobserved, hoverlays, hsame]
      have hmax : max run.applied count = run.confirmed := by
        unfold confirmed at hknown ⊢
        have := hlegal.1
        omega
      rw [hkept, hmax]
      exact h.extended_le
    · have hadjustment :
          ((run.state.publish (truth.balance count)).currentOverlay asset).adjustment ≤ 0 := by
        simp only [FreeBalances.currentOverlay, hobserved, hoverlays]
        cases hoverlay : run.state.overlays asset with
        | none => exact le_refl 0
        | some overlay =>
            by_cases heq : overlay.observedFree = truth.balance count asset
            · simpa [heq] using hremembered overlay hoverlay heq
            · simp [heq]
      unfold FreeBalances.extended
      rw [hobserved]
      linarith
  · intro hoverlay
    show decimal128.Representable (truth.balance (max run.applied count) asset)
    rcases hconfirmed with hmax | hmax
    · rw [hmax]
      exact h.representable hoverlay
    · rw [hmax]
      exact hrepresentable

theorem Covered.query (h : Covered truth asset run) (asked : FeeAsset) :
    Covered truth asset (run.next truth (.query asked)) := by
  obtain ⟨hextended, hoverlays⟩ :=
    @FreeBalances.getEffectiveFreeBalance_state decimal128 run.state asked asset
  exact ⟨hextended.le.trans h.extended_le, fun hne => h.representable (hoverlays hne)⟩

end Step

/-- Safe calls keep an asset covered in every state they reach. -/
theorem covered_of_reaches {truth : TrueBalances} {asset : FeeAsset} (hasset : asset ≠ .bnb)
    {run : BalanceRun} (h : Reaches truth (Safe truth asset) run) : Covered truth asset run := by
  induction h with
  | start => exact covered_start truth asset
  | step call _ hlegal hsafe ih =>
      cases call with
      | applyFills side fills => exact ih.applyFills hasset hlegal hsafe
      | publish count => exact ih.publish hlegal hsafe
      | query asked => exact ih.query asked

/-- After safe calls no effective balance exceeds the true one. -/
theorem effectiveFreeBalance_le {truth : TrueBalances} {asset : FeeAsset} {run : BalanceRun}
    (h : Reaches truth (Safe truth asset) run) {value : ℚ} {next : FreeBalances}
    (hget : FreeBalances.getEffectiveFreeBalance decimal128 asset run.state = .ok value next) :
    value ≤ truth.balance run.confirmed asset := by
  obtain ⟨hasset, hvalue⟩ := FreeBalances.getEffectiveFreeBalance_value hget
  have hcovered := covered_of_reaches hasset h
  rcases hvalue with rfl | ⟨rfl, hoverlay⟩
  · exact hcovered.extended_le
  · apply max_le (truth.nonneg run.confirmed asset)
    have hmono := decimal128.round_mono hcovered.extended_le
    rwa [show decimal128.round (truth.balance run.confirmed asset) = _ from
      hcovered.representable hoverlay] at hmono

/-! ### Two fills of one order -/

/-- One ether at 100, with a fee of a tenth of a quote unit. -/
def sampleFill (tradeId : String) : Fill decimal128 where
  exchangeOrderId := "1"
  tradeId := tradeId
  quantity := 1
  price := 100
  feeAmount := 1 / 10
  feeAsset := .usdt
  feeQuoteAmount := 1 / 10
  executedAt := 0
  valid := FillFields.validate_eq_ok_iff.mpr ⟨by norm_num, by norm_num, by norm_num, by norm_num,
    by simp [FillFields.validateFee, Except.require]⟩

/-- An account that buys twice. -/
def sampleBalances : TrueBalances where
  initial
    | .usdt => 1000
    | _ => 0
  executions := [(.buy, sampleFill "1"), (.buy, sampleFill "2")]
  nonneg := by
    intro count asset
    rcases count with _ | _ | count <;> cases asset <;>
      simp [trueChange, sampleFill] <;> norm_num

/-- The update that contains the first of two applied fills only. -/
def sampleRun : BalanceRun :=
  ((start sampleBalances).next sampleBalances
    (.applyFills .buy [sampleFill "1", sampleFill "2"])).next sampleBalances (.publish 1)

/-- Without the condition an effective balance exceeds the true one: the overlay of two
fills is dropped when an update brings the first of them. -/
theorem effectiveFreeBalance_exceeds :
    ¬ ∀ (truth : TrueBalances) (asset : FeeAsset) (run : BalanceRun),
      Reaches truth (fun _ _ => True) run → ∀ (value : ℚ) (next : FreeBalances),
        FreeBalances.getEffectiveFreeBalance decimal128 asset run.state = .ok value next →
          value ≤ truth.balance run.confirmed asset := by
  intro hclaim
  have hreaches : Reaches sampleBalances (fun _ _ => True) sampleRun := by
    refine .step _ (.step _ .start ?_ trivial) ?_ trivial
    · exact List.prefix_refl _
    · exact ⟨Nat.zero_le 1, by decide⟩
  have hvalue : FreeBalances.getEffectiveFreeBalance decimal128 .usdt sampleRun.state =
      .ok (sampleRun.state.observedFree .usdt) (sampleRun.state.dropOverlay .usdt) := by
    rw [FreeBalances.getEffectiveFreeBalance_run (.inr rfl)]
    exact if_pos (by decide +kernel)
  have hle := hclaim sampleBalances .usdt sampleRun hreaches _ _ hvalue
  revert hle
  decide +kernel

/-- The order of calls the overlay is made for: a fill, a query, and the fill's update. -/
def updatedRun : BalanceRun :=
  (((start sampleBalances).next sampleBalances (.applyFills .buy [sampleFill "1"])).next
    sampleBalances (.query .usdt)).next sampleBalances (.publish 1)

theorem effectiveFreeBalance_le_of_applied :
    FreeBalances.getEffectiveFreeBalance decimal128 .usdt updatedRun.state =
      .ok (8999 / 10) (updatedRun.state.dropOverlay .usdt) ∧
      (8999 / 10 : ℚ) ≤ sampleBalances.balance updatedRun.confirmed .usdt := by
  have hvalue : FreeBalances.getEffectiveFreeBalance decimal128 .usdt updatedRun.state =
      .ok (8999 / 10) (updatedRun.state.dropOverlay .usdt) := by
    rw [FreeBalances.getEffectiveFreeBalance_run (.inr rfl)]
    refine (if_pos (by decide +kernel)).trans ?_
    congr 1
    decide +kernel
  have hreaches : Reaches sampleBalances (Safe sampleBalances .usdt) updatedRun := by
    refine .step _ (.step _ (.step _ .start ?_ ⟨?_, ?_, ?_, ?_⟩) trivial trivial) ?_
      ⟨?_, .inr ⟨?_, ?_⟩⟩
    · exact ⟨[(.buy, sampleFill "2")], rfl⟩
    · exact fun h => absurd h (by decide)
    · decide +kernel
    · decide +kernel
    · decide +kernel
    · exact ⟨Nat.zero_le 1, by decide⟩
    · decide +kernel
    · decide +kernel
    · decide +kernel
  exact ⟨hvalue, effectiveFreeBalance_le hreaches hvalue⟩

end BalanceRun

end Trading
