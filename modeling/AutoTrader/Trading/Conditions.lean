import AutoTrader.Trading.Actions

/-!
# Strategy conditions

`domain/trading/conditions.py`: the numeric comparisons that the transition guards
and the display share.

* `Operand` — the market or runtime value, derived value or constant that a side of
  a comparison reads; a missing or non-finite value reads as nothing.
* `definition` — the table of conditions.
* `evaluateCondition` — a comparison is satisfied, not satisfied, or undecided when
  one of its values is missing.
* `conditionMet`, `conditionUnmet` — undecided conditions are neither.
-/

namespace Trading

open Arithmetic

inductive ConditionId where
  | lowerPrice | upperSafeExit | bTouchBbw | bSignalSlope | bSignalPctB | bSignalLow
  | bPullback | bSignalAge | bProfitZone | bTakeProfitSlope | bTrendSlope | bStop
  | bEmergencyStop | bTimeExit | bTrendExitSlope | bTrendExitPctB
  | cSetupPctB | cSetupCci | cFlush | cNewLow | cRebound | cRecoveryWindow | cEntryLimit
  | cRecovery | cProfitZone | cStop | cTimeExit | cTrailFallback | cTrailIncrease | cHandoff
  deriving DecidableEq, Repr

inductive Comparison where
  | lt | le | gt | ge
  deriving DecidableEq, Repr

def Comparison.holds : Comparison → ℚ → ℚ → Bool
  | .lt, a, b => decide (a < b)
  | .le, a, b => decide (a ≤ b)
  | .gt, a, b => decide (b < a)
  | .ge, a, b => decide (b ≤ a)

/-- One side of a comparison. -/
inductive Operand where
  | constant (value : ℚ)
  | market (read : MarketEvaluationSnapshot → Decimal)
  | elapsed (read : MarketEvaluationSnapshot → Duration)
  | runtime (read : RuntimeFields → Option Decimal)
  | previousLow
  | emergencyPrice

/-- The arithmetic of strategy values: Python's default context of 28 digits. -/
def defaultContext : DecimalContext := .significant 28 (by decide)

/-- All values, when every one is finite. -/
def finiteValues : List Decimal → Option (List ℚ)
  | [] => some []
  | d :: ds => do
      let q ← d.finite?
      let qs ← finiteValues ds
      return q :: qs

/-- `_read_operand`. -/
def readOperand (operand : Operand) (context : TradingContextView) : Option ℚ :=
  match operand with
  | .previousLow =>
      if context.market.previous3ClosedCandleLows.length = 3 then
        (finiteValues context.market.previous3ClosedCandleLows).bind List.min?
      else none
  | .emergencyPrice =>
      context.position.entryPrice.map fun entryPrice => defaultContext.mul entryPrice (99 / 100)
  | .market read => (read context.market).finite?
  -- an elapsed time has at most 20 digits, so its conversion to seconds is exact
  | .elapsed read => some ((read context.market : ℚ) / 1000000)
  | .runtime read => (read context.runtime.toRuntimeFields).bind Decimal.finite?
  | .constant value => some value

/-- A row of the table: the comparison, where its value comes from for display, and
the hold flag that replaces the plain comparison. -/
structure ConditionDefinition where
  operand : Operand
  comparison : Comparison
  reference : Operand
  source : String
  holdFlag : Option (MarketEvaluationSnapshot → Bool) := none
  holdSeconds : Option ℕ := none

/-- `_DEFINITIONS`. -/
def definition : ConditionId → ConditionDefinition
  | .lowerPrice => ⟨.market (·.realtimePrice), .le, .market (·.lowerBand), "realtime", none, none⟩
  | .upperSafeExit =>
      ⟨.market (·.realtimePrice), .ge, .market (·.upperBand), "realtime", none, none⟩
  | .bTouchBbw => ⟨.runtime (·.touchCandleBbw), .lt, .constant (2 / 100), "touch", none, none⟩
  | .bSignalSlope =>
      ⟨.market (·.emaSlope30mClose), .gt, .constant (-3 / 100), "close_30m", none, none⟩
  | .bSignalPctB => ⟨.market (·.pctBClose), .gt, .constant (25 / 100), "close_30m", none, none⟩
  | .bSignalLow => ⟨.market (·.currentClosedCandleLow), .ge, .previousLow, "close_30m", none, none⟩
  | .bPullback => ⟨.market (·.realtimePctB), .le, .constant (30 / 100), "realtime", none, none⟩
  | .bSignalAge => ⟨.elapsed (·.signalElapsed), .le, .constant 10800, "elapsed", none, none⟩
  | .bProfitZone => ⟨.market (·.realtimePctB), .ge, .constant (60 / 100), "realtime",
      some (·.pctBAtLeast060For5s), some 5⟩
  | .bTakeProfitSlope =>
      ⟨.market (·.realtimeEmaSlope), .le, .constant (8 / 100), "realtime", none, none⟩
  | .bTrendSlope => ⟨.market (·.realtimeEmaSlope), .gt, .constant (8 / 100), "realtime",
      some (·.realtimeSlopeAbove008For5s), some 5⟩
  | .bStop => ⟨.market (·.emaSlope30mClose), .lt, .constant (-8 / 100), "close_30m", none, none⟩
  | .bEmergencyStop => ⟨.market (·.realtimePrice), .le, .emergencyPrice, "realtime", none, none⟩
  | .bTimeExit => ⟨.elapsed (·.holdingElapsed), .ge, .constant 21600, "elapsed", none, none⟩
  | .bTrendExitSlope => ⟨.market (·.realtimeEmaSlope), .le, .constant (4 / 100), "realtime",
      some (·.realtimeSlopeAtMost004For5s), some 5⟩
  | .bTrendExitPctB => ⟨.market (·.realtimePctB), .lt, .constant (60 / 100), "realtime",
      some (·.pctBBelow060For5s), some 5⟩
  | .cSetupPctB => ⟨.market (·.realtimePctB), .le, .constant (-15 / 100), "realtime", none, none⟩
  | .cSetupCci => ⟨.market (·.cci30mRealtime), .le, .constant (-140), "realtime", none, none⟩
  | .cFlush => ⟨.market (·.realtimePctB), .le, .constant (-25 / 100), "realtime", none, none⟩
  | .cNewLow => ⟨.market (·.realtimePrice), .lt, .runtime (·.flushLow), "realtime", none, none⟩
  | .cRebound => ⟨.market (·.realtimePctB), .ge, .runtime (·.entryPctB), "realtime", none, none⟩
  | .cRecoveryWindow =>
      ⟨.elapsed (·.caseCTimerElapsed), .le, .constant 180, "elapsed", none, none⟩
  | .cEntryLimit => ⟨.runtime (·.entryPctB), .lt, .constant (-15 / 100), "runtime", none, none⟩
  | .cRecovery => ⟨.market (·.realtimePctB), .ge, .constant (25 / 100), "realtime", none, none⟩
  | .cProfitZone => ⟨.market (·.realtimePctB), .ge, .constant (10 / 100), "realtime", none, none⟩
  | .cStop => ⟨.market (·.realtimeEmaSlope), .le, .constant (-55 / 100), "realtime",
      some (·.realtimeSlopeAtMostMinus055For3m), some 180⟩
  | .cTimeExit => ⟨.elapsed (·.holdingElapsed), .ge, .constant 3600, "elapsed", none, none⟩
  | .cTrailFallback =>
      ⟨.market (·.realtimePctB), .lt, .constant (10 / 100), "realtime", none, none⟩
  | .cTrailIncrease => ⟨.market (·.currentCloseEmaSlope), .gt,
      .runtime (·.previousTrailEmaSlope), "close_1m", none, none⟩
  | .cHandoff => ⟨.runtime (·.caseCExitPctB), .lt, .constant (40 / 100), "runtime", none, none⟩

/-- The result of a comparison with the values it compared. -/
structure TradingCondition where
  conditionId : ConditionId
  value : Option ℚ
  threshold : Option ℚ
  comparison : Comparison
  satisfied : Option Bool
  source : String
  holdSeconds : Option ℕ
  deriving DecidableEq

/-- `evaluate_condition`. -/
def evaluateCondition (id : ConditionId) (context : TradingContextView) : TradingCondition :=
  let row := definition id
  let value := readOperand row.operand context
  let threshold := readOperand row.reference context
  { conditionId := id
    value := value
    threshold := threshold
    comparison := row.comparison
    satisfied := do
      let v ← value
      let t ← threshold
      match row.holdFlag with
      | none => some (row.comparison.holds v t)
      | some flag =>
          -- the trend slope keeps its immediate comparison next to the hold flag
          if id = .bTrendSlope then some (flag context.market && decide (t < v))
          else some (flag context.market)
    source := row.source
    holdSeconds := row.holdSeconds }

/-- `condition_met`. -/
def conditionMet (id : ConditionId) (context : TradingContextView) : Bool :=
  (evaluateCondition id context).satisfied == some true

/-- `condition_unmet`. -/
def conditionUnmet (id : ConditionId) (context : TradingContextView) : Bool :=
  (evaluateCondition id context).satisfied == some false

/-- No condition is met and unmet at once. -/
theorem conditionMet_and_unmet_false (id : ConditionId) (context : TradingContextView) :
    ¬(conditionMet id context ∧ conditionUnmet id context) := by
  simp only [conditionMet, conditionUnmet, beq_iff_eq]
  rintro ⟨hmet, hunmet⟩
  rw [hmet] at hunmet
  cases hunmet

/-- A met condition has compared two finite values. -/
theorem conditionMet_values {id : ConditionId} {context : TradingContextView}
    (h : conditionMet id context) :
    ∃ v t, readOperand (definition id).operand context = some v ∧
      readOperand (definition id).reference context = some t := by
  simp only [conditionMet, evaluateCondition, beq_iff_eq] at h
  cases hv : readOperand (definition id).operand context with
  | none => simp [hv] at h
  | some v =>
      cases ht : readOperand (definition id).reference context with
      | none => simp [hv, ht] at h
      | some t => exact ⟨v, t, rfl, rfl⟩

end Trading
