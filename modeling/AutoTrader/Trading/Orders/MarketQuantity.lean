import AutoTrader.Arithmetic.CommonStep
import AutoTrader.Trading.Orders.Order

/-!
# Market quantities

How a requested quantity becomes a quantity the exchange accepts: the quantity filters of a
symbol, the rounding down to their common grid, and the preparation of a market order.

* `QuantityFilter`, `NotionalFilter`, `SymbolTradingRules` — the rules of a symbol.
* `floorMarketQuantity` — the quantity on the common grid of the precision and the lot steps.
* `OnGrid`, `Violates` — what the grid is, and what the limits forbid.
* `floorMarketQuantity_exact` — it returns the greatest grid point, and raises exactly when
  that point is zero or beyond a limit.

The arithmetic is exact.
-/

namespace Trading

open Arithmetic

/-! ## The rules of a symbol -/

/-- `QuantityFilter`; a zero switches a rule off. -/
structure QuantityFilter where
  filterType : String
  minimumQuantity : ℚ
  maximumQuantity : ℚ
  stepSize : PlainDecimal
  type_known : filterType = "LOT_SIZE" ∨ filterType = "MARKET_LOT_SIZE" := by decide
  minimum_nonneg : 0 ≤ minimumQuantity := by decide
  maximum_nonneg : 0 ≤ maximumQuantity := by decide
  step_nonneg : 0 ≤ stepSize.value := by decide
  minimum_le_maximum : 0 < maximumQuantity → minimumQuantity ≤ maximumQuantity := by decide

/-- `NotionalFilter`. -/
structure NotionalFilter where
  filterType : String
  minimumNotional : Option ℚ
  maximumNotional : Option ℚ
  applyMinimumToMarket : Bool
  applyMaximumToMarket : Bool

/-- `SymbolTradingRules`. -/
structure SymbolTradingRules where
  symbol : String
  status : String
  baseAssetPrecision : ℕ
  orderTypes : List String
  isSpotTradingAllowed : Bool
  lotSize : QuantityFilter
  marketLotSize : QuantityFilter
  notionalFilters : List NotionalFilter
  maximumPosition : Option ℚ := none
  lot_type : lotSize.filterType = "LOT_SIZE" := by decide
  market_lot_type : marketLotSize.filterType = "MARKET_LOT_SIZE" := by decide

/-- `_validate_positive_decimal`. -/
def validatePositiveDecimal (value : ℚ) (fieldName : String) : Except TradingError Unit :=
  Except.require (0 < value) (.valueError s!"{fieldName} must be a finite positive Decimal")

/-! ## The quantity -/

/-- `_least_common_decimal_step`. -/
def leastCommonDecimalStep (stepSizes : List PlainDecimal) : Except TradingError ℚ :=
  match stepSizes with
  | [] => .error (.valueError "step_sizes must not be empty")
  | first :: others => do
      stepSizes.forM fun stepSize => validatePositiveDecimal stepSize.value "step_size"
      .ok (commonStep first others)

/-- The checks of a quantity filter on a quantity. -/
def QuantityFilter.check (filter : QuantityFilter) (quantity : ℚ) : Except TradingError Unit := do
  Except.require (¬ (0 < filter.minimumQuantity ∧ quantity < filter.minimumQuantity))
    (.valueError s!"FILTER_{filter.filterType}_MINIMUM")
  Except.require (¬ (0 < filter.maximumQuantity ∧ filter.maximumQuantity < quantity))
    (.valueError s!"FILTER_{filter.filterType}_MAXIMUM")
  Except.require
    (¬ (0 < filter.stepSize.value ∧ remainder quantity filter.stepSize.value ≠ 0))
    (.valueError s!"FILTER_{filter.filterType}_STEP")

namespace SymbolTradingRules

variable (rules : SymbolTradingRules)

/-- The two quantity filters, in the order in which they are checked. -/
def quantityFilters : List QuantityFilter := [rules.lotSize, rules.marketLotSize]

/-- The quantum of the precision. -/
def precisionStep : PlainDecimal := ⟨false, 1, -(rules.baseAssetPrecision : ℤ)⟩

/-- The lot steps that are switched on. -/
def lotSteps : List PlainDecimal :=
  (rules.quantityFilters.map (·.stepSize)).filter fun step => decide (0 < step.value)

/-- The steps of the grid. -/
def activeSteps : List PlainDecimal := rules.precisionStep :: rules.lotSteps

end SymbolTradingRules

/-- `floor_market_quantity`. -/
def floorMarketQuantity (quantity : ℚ) (rules : SymbolTradingRules) : Except TradingError ℚ := do
  validatePositiveDecimal quantity "quantity"
  let step ← leastCommonDecimalStep rules.activeSteps
  let floored : ℚ := truncate (quantity / step) * step
  Except.require (0 < floored) (.valueError "FILTER_MARKET_QUANTITY_ZERO")
  rules.quantityFilters.forM (·.check floored)
  .ok floored

/-- The checks of a notional filter. -/
def NotionalFilter.check (filter : NotionalFilter) (notional : ℚ) : Except TradingError Unit := do
  Except.require
    (¬ (filter.applyMinimumToMarket = true ∧ ∃ bound ∈ filter.minimumNotional, notional < bound))
    (.valueError s!"FILTER_{filter.filterType}_MINIMUM")
  Except.require
    (¬ (filter.applyMaximumToMarket = true ∧ ∃ bound ∈ filter.maximumNotional, bound < notional))
    (.valueError s!"FILTER_{filter.filterType}_MAXIMUM")

/-- `validate_market_notional`. -/
def validateMarketNotional (quantity referencePrice : ℚ) (rules : SymbolTradingRules) :
    Except TradingError Unit := do
  validatePositiveDecimal quantity "quantity"
  validatePositiveDecimal referencePrice "reference_price"
  rules.notionalFilters.forM (·.check (quantity * referencePrice))

/-- `prepare_market_order`. -/
def prepareMarketOrder (order : OrderIntentFields) (rules : SymbolTradingRules)
    (referencePrice : ℚ) : Except TradingError OrderIntentFields := do
  validatePositiveDecimal referencePrice "reference_price"
  Except.require (order.symbol = rules.symbol) (.valueError "FILTER_SYMBOL_MISMATCH")
  Except.require (rules.status = "TRADING")
    (.valueError s!"FILTER_SYMBOL_STATUS_{rules.status}")
  Except.require ("MARKET" ∈ rules.orderTypes) (.valueError "FILTER_MARKET_ORDER_UNSUPPORTED")
  Except.require (rules.isSpotTradingAllowed = true)
    (.valueError "FILTER_SPOT_TRADING_DISABLED")
  Except.require (¬ (order.side = .buy ∧ rules.maximumPosition.isSome = true))
    (.valueError "FILTER_MAX_POSITION_REQUIRES_ACCOUNT_EXPOSURE")
  let preparedQuantity ← floorMarketQuantity order.submittedQuantity rules
  validateMarketNotional preparedQuantity referencePrice rules
  Except.require (preparedQuantity ≤ order.requestedQuantity)
    (.valueError "FILTER_PREPARED_QUANTITY_EXCEEDS_REQUESTED")
  .ok { order with submittedQuantity := preparedQuantity }

/-! ## The grid and the limits -/

/-- A common multiple of the precision quantum and of the lot steps that are switched on. -/
def SymbolTradingRules.OnGrid (rules : SymbolTradingRules) (x : ℚ) : Prop :=
  ∀ step ∈ rules.activeSteps, IsMultiple step.value x

/-- The grid points that are not above a quantity. -/
def SymbolTradingRules.gridBelow (rules : SymbolTradingRules) (quantity : ℚ) : Set ℚ :=
  {x | x ≤ quantity ∧ rules.OnGrid x}

/-- A quantity beyond a limit that is switched on. -/
def QuantityFilter.Violates (filter : QuantityFilter) (x : ℚ) : Prop :=
  0 < filter.minimumQuantity ∧ x < filter.minimumQuantity ∨
    0 < filter.maximumQuantity ∧ filter.maximumQuantity < x

/-- A quantity that satisfies every rule of a filter that is switched on. -/
structure QuantityFilter.Satisfied (filter : QuantityFilter) (x : ℚ) : Prop where
  minimum : 0 < filter.minimumQuantity → filter.minimumQuantity ≤ x
  maximum : 0 < filter.maximumQuantity → x ≤ filter.maximumQuantity
  step : 0 < filter.stepSize.value → IsMultiple filter.stepSize.value x

section

variable (rules : SymbolTradingRules)

theorem activeSteps_pos : ∀ step ∈ rules.activeSteps, 0 < step.value := by
  intro step hstep
  rcases List.mem_cons.mp hstep with rfl | hstep
  · have h : (0 : ℚ) < 10 ^ (-(rules.baseAssetPrecision : ℤ)) := zpow_pos (by norm_num) _
    simp [SymbolTradingRules.precisionStep, PlainDecimal.value]
  · simpa using (List.mem_filter.mp hstep).2

/-- The common step of the active steps, which always exists. -/
def SymbolTradingRules.step : ℚ := commonStep rules.precisionStep rules.lotSteps

theorem step_pos : 0 < rules.step := commonStep_pos (activeSteps_pos rules)

theorem isMultiple_step (x : ℚ) : IsMultiple rules.step x ↔ rules.OnGrid x :=
  isMultiple_commonStep (activeSteps_pos rules) x

theorem leastCommonDecimalStep_activeSteps :
    leastCommonDecimalStep rules.activeSteps = .ok rules.step := by
  have hchecks : rules.activeSteps.forM
      (fun stepSize => validatePositiveDecimal stepSize.value "step_size") = .ok ⟨⟩ :=
    Except.forM_eq_ok_iff.mpr fun step hstep =>
      Except.require_eq_ok_iff.mpr (activeSteps_pos rules step hstep)
  show (rules.activeSteps.forM _ >>= fun _ => Except.ok rules.step) = _
  rw [hchecks]
  rfl

/-- The greatest grid point that is not above a quantity. -/
def SymbolTradingRules.greatest (quantity : ℚ) : ℚ := truncate (quantity / rules.step) * rules.step

variable {rules}

variable (rules) in
theorem isGreatest_greatest {quantity : ℚ} (hquantity : 0 ≤ quantity) :
    IsGreatest (rules.gridBelow quantity) (rules.greatest quantity) := by
  have h := isGreatest_truncate (step_pos rules) hquantity
  simp only [isMultiple_step] at h
  exact h

variable (rules) in
theorem greatest_nonneg {quantity : ℚ} (hquantity : 0 ≤ quantity) :
    0 ≤ rules.greatest quantity :=
  (isGreatest_greatest _ hquantity).2 ⟨hquantity, fun step _ => isMultiple_zero step.value⟩

/-- On the grid the check of a filter is the check of its limits. -/
theorem check_eq_ok_iff {filter : QuantityFilter} (hfilter : filter ∈ rules.quantityFilters)
    {x : ℚ} (hgrid : rules.OnGrid x) : filter.check x = .ok ⟨⟩ ↔ ¬ filter.Violates x := by
  have hstep : ¬ (0 < filter.stepSize.value ∧ remainder x filter.stepSize.value ≠ 0) := by
    rintro ⟨hpos, hremainder⟩
    have hactive : filter.stepSize ∈ rules.activeSteps := by
      refine List.mem_cons_of_mem _ (List.mem_filter.mpr ⟨?_, by simpa using hpos⟩)
      exact List.mem_map_of_mem hfilter
    exact hremainder (remainder_eq_zero hpos.ne' (hgrid _ hactive))
  simp only [QuantityFilter.check, Except.require_bind_eq_ok_iff, Except.require_eq_ok_iff,
    QuantityFilter.Violates, not_or]
  tauto

/-- A grid point without a violated limit satisfies the filters. -/
theorem satisfied_of_not_violates {filter : QuantityFilter}
    (hfilter : filter ∈ rules.quantityFilters) {x : ℚ} (hgrid : rules.OnGrid x)
    (h : ¬ filter.Violates x) : filter.Satisfied x where
  minimum hpos := not_lt.mp fun hlt => h (.inl ⟨hpos, hlt⟩)
  maximum hpos := not_lt.mp fun hlt => h (.inr ⟨hpos, hlt⟩)
  step hpos := by
    refine hgrid _ (List.mem_cons_of_mem _ (List.mem_filter.mpr ⟨?_, by simpa using hpos⟩))
    exact List.mem_map_of_mem hfilter

/-- The rounded quantity is the greatest grid point, when it is allowed. -/
theorem floorMarketQuantity_eq_ok_iff {quantity r : ℚ} (hquantity : 0 < quantity) :
    floorMarketQuantity quantity rules = .ok r ↔
      r = rules.greatest quantity ∧ 0 < rules.greatest quantity ∧
        ∀ filter ∈ rules.quantityFilters, ¬ filter.Violates (rules.greatest quantity) := by
  have hgrid := (isGreatest_greatest rules hquantity.le).1.2
  rw [floorMarketQuantity, leastCommonDecimalStep_activeSteps, validatePositiveDecimal,
    Except.require_bind_eq_ok_iff, Except.ok_bind]
  show _ ∧ (Except.require (0 < rules.greatest quantity) _ >>= fun _ =>
    rules.quantityFilters.forM (·.check (rules.greatest quantity)) >>= fun _ =>
      Except.ok (rules.greatest quantity)) = _ ↔ _
  rw [Except.require_bind_eq_ok_iff, Except.bind_eq_ok_iff]
  constructor
  · rintro ⟨-, hpos, ⟨⟩, hchecks, hr⟩
    exact ⟨(Except.ok.inj hr).symm, hpos, fun filter hfilter =>
      (check_eq_ok_iff hfilter hgrid).mp (Except.forM_eq_ok_iff.mp hchecks filter hfilter)⟩
  · rintro ⟨rfl, hpos, hlimits⟩
    exact ⟨hquantity, hpos, ⟨⟩, Except.forM_eq_ok_iff.mpr fun filter hfilter =>
      (check_eq_ok_iff hfilter hgrid).mpr (hlimits filter hfilter), rfl⟩

/-- The greatest grid points follow the quantities. -/
theorem greatest_mono {first second : ℚ} (hfirst : 0 ≤ first) (h : first ≤ second) :
    rules.greatest first ≤ rules.greatest second := by
  have hleast := (isGreatest_greatest rules hfirst).1
  exact (isGreatest_greatest _ (hfirst.trans h)).2 ⟨hleast.1.trans h, hleast.2⟩

/-- The greatest grid point is its own greatest grid point. -/
theorem greatest_greatest {quantity : ℚ} (hquantity : 0 ≤ quantity) :
    rules.greatest (rules.greatest quantity) = rules.greatest quantity := by
  have hgrid := (isGreatest_greatest rules hquantity).1.2
  have h := isGreatest_greatest rules (greatest_nonneg rules hquantity)
  exact le_antisymm h.1.1 (h.2 ⟨le_refl _, hgrid⟩)

/-- A prepared order keeps everything but its submitted quantity, which only went down. -/
theorem prepareMarketOrder_le {order prepared : OrderIntentFields} {referencePrice : ℚ}
    (h : prepareMarketOrder order rules referencePrice = .ok prepared) :
    prepared = { order with submittedQuantity := prepared.submittedQuantity } ∧
      prepared.submittedQuantity ≤ order.requestedQuantity ∧
      prepared.submittedQuantity ≤ order.submittedQuantity := by
  simp only [prepareMarketOrder, validatePositiveDecimal, Except.require_bind_eq_ok_iff] at h
  obtain ⟨-, -, -, -, -, -, h⟩ := h
  obtain ⟨quantity, hfloor, h⟩ := Except.bind_eq_ok_iff.mp h
  obtain ⟨_, -, h⟩ := Except.bind_eq_ok_iff.mp h
  rw [Except.require_bind_eq_ok_iff] at h
  obtain ⟨hle, hprepared⟩ := h
  obtain rfl := Except.ok.inj hprepared
  refine ⟨rfl, hle, ?_⟩
  have hpos : 0 < order.submittedQuantity := by
    rw [floorMarketQuantity, validatePositiveDecimal, Except.require_bind_eq_ok_iff] at hfloor
    exact hfloor.1
  obtain ⟨rfl, -⟩ := (floorMarketQuantity_eq_ok_iff hpos).mp hfloor
  exact (isGreatest_greatest _ hpos.le).1.1

end

/-! ## Exactness -/

/-- The rounding to the rules of a symbol is exact: there is a greatest grid point below
the quantity, which is returned when it is positive and within the limits, and otherwise
the call raises; what is returned satisfies every rule, is a fixed point, and follows the
quantity; and a prepared order never submits more than was requested. -/
theorem floorMarketQuantity_exact (rules : SymbolTradingRules) :
    (∀ quantity : ℚ, 0 < quantity → ∃ greatest,
      IsGreatest (rules.gridBelow quantity) greatest ∧
      (∀ r, floorMarketQuantity quantity rules = .ok r →
        r = greatest ∧ 0 < r ∧ ∀ filter ∈ rules.quantityFilters, filter.Satisfied r) ∧
      ((∃ error, floorMarketQuantity quantity rules = .error error) ↔
        greatest = 0 ∨ ∃ filter ∈ rules.quantityFilters, filter.Violates greatest)) ∧
    (∀ quantity r : ℚ, floorMarketQuantity quantity rules = .ok r →
      floorMarketQuantity r rules = .ok r) ∧
    (∀ first second r s : ℚ, first ≤ second → floorMarketQuantity first rules = .ok r →
      floorMarketQuantity second rules = .ok s → r ≤ s) ∧
    (∀ order prepared referencePrice,
      prepareMarketOrder order rules referencePrice = .ok prepared →
        prepared.submittedQuantity ≤ order.requestedQuantity) := by
  have hpositive : ∀ {quantity r : ℚ}, floorMarketQuantity quantity rules = .ok r →
      0 < quantity := by
    intro quantity r h
    rw [floorMarketQuantity, validatePositiveDecimal, Except.require_bind_eq_ok_iff] at h
    exact h.1
  refine ⟨?_, ?_, ?_, fun order prepared referencePrice h => (prepareMarketOrder_le h).2.1⟩
  · intro quantity hquantity
    have hgreatest := isGreatest_greatest rules hquantity.le
    have hnonneg := greatest_nonneg rules hquantity.le
    refine ⟨rules.greatest quantity, hgreatest, ?_, ?_⟩
    · intro r hr
      obtain ⟨rfl, hpos, hlimits⟩ := (floorMarketQuantity_eq_ok_iff hquantity).mp hr
      exact ⟨rfl, hpos, fun filter hfilter =>
        satisfied_of_not_violates hfilter hgreatest.1.2 (hlimits filter hfilter)⟩
    · have hiff := fun r => @floorMarketQuantity_eq_ok_iff rules quantity r hquantity
      constructor
      · rintro ⟨error, herror⟩
        by_contra hnone
        push Not at hnone
        have hok := (hiff _).mpr ⟨rfl, lt_of_le_of_ne hnonneg hnone.1.symm, hnone.2⟩
        rw [herror] at hok
        cases hok
      · intro hbad
        cases hresult : floorMarketQuantity quantity rules with
        | error error => exact ⟨error, rfl⟩
        | ok r =>
            obtain ⟨-, hpos, hlimits⟩ := (hiff r).mp hresult
            rcases hbad with hzero | ⟨filter, hfilter, hviolates⟩
            · exact absurd hzero hpos.ne'
            · exact absurd hviolates (hlimits filter hfilter)
  · intro quantity r h
    have hquantity := hpositive h
    obtain ⟨rfl, hpos, hlimits⟩ := (floorMarketQuantity_eq_ok_iff hquantity).mp h
    rw [floorMarketQuantity_eq_ok_iff hpos, greatest_greatest hquantity.le]
    exact ⟨rfl, hpos, hlimits⟩
  · intro first second r s hle hfirst hsecond
    have hpos := hpositive hfirst
    obtain ⟨rfl, -⟩ := (floorMarketQuantity_eq_ok_iff hpos).mp hfirst
    obtain ⟨rfl, -⟩ := (floorMarketQuantity_eq_ok_iff (hpos.trans_le hle)).mp hsecond
    exact greatest_mono hpos.le hle

end Trading
