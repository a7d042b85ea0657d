import AutoTrader.Support.Dict
import AutoTrader.Support.State
import AutoTrader.Trading.Regime.Stm

/-!
# The REGIME controller

`RegimeController`: from the 4-hour candles of the market snapshot to a recommendation, in
two microsteps of the state machine and one commit.

* `MarketFeed` — the market snapshots, which may change between any two reads.
* `calculate4hIndicators` — the indicators of one version, with the remembered failure.
* `runPreparedEvaluation` — the two microsteps and the commit.
* `evaluateRegime`, `reconcileRegime` — the public calls.
-/

namespace Trading

open Stateful

/-! ## The market -/

/-- A candle of the 4-hour interval. -/
structure FourHourKline where
  symbol : String
  openTime : Timestamp
  openPrice : ℚ
  high : ℚ
  low : ℚ
  close : ℚ
  volume : ℚ
  closed : Bool
  deriving DecidableEq

/-- `_create_candle_id`. -/
def createCandleId (kline : FourHourKline) : CandleId := ⟨kline.symbol, kline.openTime⟩

/-- What the controller reads of a market snapshot. -/
structure MarketState where
  symbol : String := "ETHUSDT"
  fourHourKlines : List FourHourKline := []
  version : ℕ := 0
  updatedAt : Option Timestamp := none
  ready : Bool := false

/-- The market snapshots by their identity and by the number of reads so far: an update may
come between any two reads. -/
def MarketFeed := ℕ → ℕ → MarketState

/-! ## Indicators -/

/-- `RegimeEvaluationFailureCode`. -/
inductive RegimeEvaluationFailureCode where
  | marketSnapshotMismatch
  | marketSnapshotNotReady
  | insufficientClosedKlines
  | insufficientSwingPoints
  | invalidFourHourCandles
  | repeatedFailedMarketVersion
  | staleMarketSnapshot
  | staleFourHourCandle
  | duplicateFourHourCandle
  | invalidTriggerState
  | invalidIndicatorSnapshot
  | stmTransitionRejected
  | actionContractMismatch
  | indicatorCalculationFailed
  deriving DecidableEq, Repr

/-- The values that the indicator formulas give. -/
structure IndicatorValues where
  ema9Slope : ℚ
  liveEma9 : ℚ
  hasHigherHigh : Bool
  hasHigherLow : Bool
  hasLowerHigh : Bool
  hasLowerLow : Bool
  deriving DecidableEq

/-- How the formulas end without values. -/
inductive CalculationFailure where
  | evaluation (code : RegimeEvaluationFailureCode)
  | arithmetic
  | other (error : TradingError)

/-- The indicator formulas, from the closed candles and the current price. -/
def IndicatorFormulas := List FourHourKline → ℚ → Except CalculationFailure IndicatorValues

/-- `IndicatorSnapshot`, with its values. -/
structure IndicatorSnapshot where
  symbol : String
  currentPrice : ℚ
  sourceMarketVersion : ℕ
  sourceCandleId : CandleId
  calculatedAt : Timestamp
  values : IndicatorValues
  price_pos : 0 < currentPrice
  version_pos : 0 < sourceMarketVersion

instance : DecidableEq IndicatorSnapshot := fun a b =>
  decidable_of_iff (a.symbol = b.symbol ∧ a.currentPrice = b.currentPrice ∧
    a.sourceMarketVersion = b.sourceMarketVersion ∧ a.sourceCandleId = b.sourceCandleId ∧
    a.calculatedAt = b.calculatedAt ∧ a.values = b.values) (by
    cases a
    cases b
    simp)

/-- The constructor of an indicator snapshot. -/
def IndicatorSnapshot.create (symbol : String) (currentPrice : ℚ) (version : ℕ)
    (candle : CandleId) (calculatedAt : Timestamp) (values : IndicatorValues) :
    Except TradingError IndicatorSnapshot :=
  if hprice : 0 < currentPrice then
    if hversion : 0 < version then
      .ok ⟨symbol, currentPrice, version, candle, calculatedAt, values, hprice, hversion⟩
    else .error (.valueError "source_market_version must be greater than zero")
  else .error (.valueError "current_price must be greater than zero")

/-! ## The controller -/

/-- The exceptions of a call: the typed ones, with the version and the candle of the input
when they know it, and the others. -/
inductive RegimeError where
  | evaluation (code : RegimeEvaluationFailureCode) (source : Option (ℕ × Option CandleId))
  | other (error : TradingError)
  deriving DecidableEq, Repr

/-- `RegimeResult`, with what its constructor checks. -/
structure RegimeResult where
  evaluationId : EvaluationId
  recommendedType : RegimeType
  previousRecommendedType : Option RegimeType
  changed : Bool
  transitionId : String
  state : RegimeState
  sourceMarketVersion : ℕ
  sourceCandleId : CandleId
  calculatedAt : Timestamp
  deriving DecidableEq

/-- The checks of the constructor of a result. -/
def RegimeResult.validate (result : RegimeResult) : Except TradingError Unit := do
  Except.require (result.changed =
      decide (result.previousRecommendedType ≠ some result.recommendedType))
    (.valueError "changed must match the recommendation difference")
  Except.require (result.state = .recommended result.recommendedType)
    (.valueError "state must match recommended_type")
  Except.require (result.sourceMarketVersion ≠ 0)
    (.valueError "source_market_version must be greater than zero")

/-- `RegimeEvaluationTrace`. -/
structure RegimeEvaluationTrace where
  trigger : RegimeEvaluationTrigger
  sourceMarketVersion : ℕ
  sourceCandleId : Option CandleId
  recommendedRegime : Option RegimeType
  failureCode : Option RegimeEvaluationFailureCode

/-- A failed calculation that is not tried again. -/
structure FailedCalculation where
  snapshot : ℕ
  version : ℕ
  sourceCandleId : Option CandleId
  recordedAt : Timestamp

/-- `RegimeController`, with the reads so far and the events the state machine consumed. -/
structure RegimeController where
  state : RegimeState := .initial
  marketSnapshot : Option ℕ := none
  failed : Option FailedCalculation := none
  indicatorSnapshot : Option IndicatorSnapshot := none
  indicatorSourceCandleOpenTime : Option Timestamp := none
  recommendedRegime : Option RegimeType := none
  lastRegimeResult : Option RegimeResult := none
  latestProcessedCandleOpenTime : Option Timestamp := none
  processedCandleIds : List CandleId := []
  evaluationTraces : List RegimeEvaluationTrace := []
  reads : ℕ := 0
  consumed : List RegimeEvent := []

/-- A method of the controller. -/
abbrev RegimeM := EStateM RegimeError RegimeController

/-- A typed failure. -/
def failEvaluation {α : Type} (code : RegimeEvaluationFailureCode)
    (source : Option (ℕ × Option CandleId) := none) : RegimeM α :=
  throw (.evaluation code source)

/-- A step that may raise any other exception. -/
def orRaise {α : Type} (x : Except TradingError α) : RegimeM α :=
  raising (x.mapError .other)

section

variable (feed : MarketFeed) (formulas : IndicatorFormulas)

/-- One read of a market snapshot. -/
def readMarket (snapshot : ℕ) : RegimeM MarketState := do
  let controller ← get
  modify fun controller => { controller with reads := controller.reads + 1 }
  pure (feed snapshot controller.reads)

/-- `_bind_market_snapshot`. -/
def bindMarketSnapshot (snapshot : ℕ) : RegimeM Unit := do
  let controller ← get
  match controller.marketSnapshot with
  | none => modify fun controller => { controller with marketSnapshot := some snapshot }
  | some bound => if bound = snapshot then pure () else failEvaluation .marketSnapshotMismatch

/-- `_raise_calculation_failure`. -/
def raiseCalculationFailure {α : Type} (snapshot version : ℕ)
    (code : RegimeEvaluationFailureCode) (candle : Option CandleId) (recordedAt : Timestamp) :
    RegimeM α := do
  if (← readMarket feed snapshot).version ≠ version then
    failEvaluation .staleMarketSnapshot (some (version, candle))
  else
    modify fun controller =>
      { controller with failed := some ⟨snapshot, version, candle, recordedAt⟩ }
    if (← readMarket feed snapshot).version ≠ version then
      modify fun controller => { controller with failed := none }
      failEvaluation .staleMarketSnapshot (some (version, candle))
    else failEvaluation code (some (version, candle))

/-- The candles by their open times, the later one of two with the same time. -/
def sortedKlines (klines : List FourHourKline) : List FourHourKline :=
  ((klines.foldl (fun entries kline => Dict.insert kline.openTime kline entries) []).map
    Prod.snd).insertionSort fun first second => first.openTime ≤ second.openTime

/-- The closed candles and the current price; exactly the latest candle is open. -/
def splitKlines (klines : List FourHourKline) : Option (List FourHourKline × FourHourKline) :=
  let sorted := sortedKlines klines
  match sorted.filter (fun kline => !kline.closed), sorted.getLast? with
  | [current], some last =>
      if last = current then some (sorted.filter (·.closed), current) else none
  | _, _ => none

/-- `calculate_4h_indicators`. -/
def calculate4hIndicators (snapshot : ℕ) : RegimeM IndicatorSnapshot := do
  bindMarketSnapshot snapshot
  if (← readMarket feed snapshot).ready = false then failEvaluation .marketSnapshotNotReady
  else
    let version := (← readMarket feed snapshot).version
    let controller ← get
    match controller.failed.filter (fun failed =>
      decide (failed.snapshot = snapshot ∧ failed.version = version)) with
    | some failed =>
      failEvaluation .repeatedFailedMarketVersion (some (version, failed.sourceCandleId))
    | none =>
      let klines := (← readMarket feed snapshot).fourHourKlines
      match (← readMarket feed snapshot).updatedAt with
      | none => failEvaluation .marketSnapshotNotReady
      | some calculatedAt =>
          let candle := ((sortedKlines klines).filter (·.closed)).getLast?.map createCandleId
          match splitKlines klines with
          | none =>
              raiseCalculationFailure feed snapshot version .invalidFourHourCandles candle
                calculatedAt
          | some (closed, current) =>
              if closed.length < 14 then
                raiseCalculationFailure feed snapshot version .insufficientClosedKlines candle
                  calculatedAt
              else
                match closed.getLast? with
                | none =>
                    throw (.other (.runtimeError "valid indicator input requires a closed candle ID"))
                | some latest =>
                    match formulas closed current.close with
                    | .error (.evaluation code) =>
                        raiseCalculationFailure feed snapshot version code candle calculatedAt
                    | .error .arithmetic =>
                        raiseCalculationFailure feed snapshot version .indicatorCalculationFailed
                          candle calculatedAt
                    | .error (.other error) => throw (.other error)
                    | .ok values =>
                        if (← readMarket feed snapshot).version ≠ version then
                          failEvaluation .staleMarketSnapshot (some (version, candle))
                        else
                          let symbol := (← readMarket feed snapshot).symbol
                          let indicators ← orRaise (IndicatorSnapshot.create symbol current.close
                            version (createCandleId latest) calculatedAt values)
                          modify fun controller =>
                            { controller with
                              failed := none
                              indicatorSnapshot := some indicators
                              indicatorSourceCandleOpenTime := some latest.openTime }
                          pure indicators

/-- `_infer_evaluation_trigger`. -/
def inferEvaluationTrigger : RegimeM RegimeEvaluationTrigger := do
  let controller ← get
  match controller.state with
  | .initial => pure .initial
  | .fourHourCandleEvaluation => failEvaluation .invalidTriggerState
  | .recommended _ => pure .fourHourCandleClose

/-- `RegimeSTM.handle`, which applies the next state after its result. -/
def handleStm (event : RegimeEvent) (context : Option RegimeEvaluationContext) :
    RegimeM RegimeSTMResult := do
  let controller ← get
  let result ← orRaise (handleRegime controller.state event context)
  modify fun controller =>
    { controller with
      state := result.stateAfter
      consumed := if result.consumed then controller.consumed ++ [event] else controller.consumed }
  pure result

/-- `_create_evaluation_context`. -/
def createEvaluationContext (evaluationId : EvaluationId) (indicators : IndicatorSnapshot) :
    Except TradingError RegimeEvaluationContext :=
  if hlive : 0 < indicators.values.liveEma9 then
    .ok
      { evaluationId
        symbol := indicators.symbol
        ema9Slope := indicators.values.ema9Slope
        hasHigherHigh := indicators.values.hasHigherHigh
        hasHigherLow := indicators.values.hasHigherLow
        hasLowerHigh := indicators.values.hasLowerHigh
        hasLowerLow := indicators.values.hasLowerLow
        currentPrice := indicators.currentPrice
        liveEma9 := indicators.values.liveEma9
        sourceMarketVersion := indicators.sourceMarketVersion
        sourceCandleId := indicators.sourceCandleId
        calculatedAt := indicators.calculatedAt
        price_pos := indicators.price_pos
        live_pos := hlive }
  else .error (.valueError "live_ema9 must be greater than zero")

/-- `_require_action`. -/
def requireAction (result : RegimeSTMResult) (evaluationId : EvaluationId) :
    RegimeM (RegimeActionRequest × String) :=
  if result.evaluationId ≠ evaluationId then failEvaluation .actionContractMismatch
  else
    match result.consumed, result.transitionId with
    | true, some transitionId =>
        match result.actionRequests with
        | [action] => pure (action, transitionId)
        | _ => failEvaluation .actionContractMismatch
    | _, _ => failEvaluation .stmTransitionRejected

/-- `_validate_start_action`. -/
def validateStartAction (action : RegimeActionRequest) (context : RegimeEvaluationContext)
    (expected : RegimeEvaluationTrigger) : RegimeM Unit :=
  match action with
  | .startRegimeEvaluation evaluationId trigger candle =>
      if evaluationId = context.evaluationId ∧ candle = context.sourceCandleId ∧
          trigger = expected then pure ()
      else failEvaluation .actionContractMismatch
  | .applyRecommendedRegime .. => failEvaluation .actionContractMismatch

/-- `_validate_recommendation_action`: the recommended type. -/
def validateRecommendationAction (action : RegimeActionRequest)
    (context : RegimeEvaluationContext) : RegimeM RegimeType :=
  match action with
  | .startRegimeEvaluation .. => failEvaluation .actionContractMismatch
  | .applyRecommendedRegime evaluationId regimeType candle =>
      if evaluationId = context.evaluationId ∧ candle = context.sourceCandleId then
        pure regimeType
      else failEvaluation .actionContractMismatch

/-- `_apply_recommended_regime`. -/
def applyRecommendedRegime (evaluationId : EvaluationId) (trigger : RegimeEvaluationTrigger)
    (regimeType : RegimeType) (result : RegimeSTMResult) (transitionId : String)
    (indicators : IndicatorSnapshot) : RegimeM RegimeResult := do
  let controller ← get
  let next : RegimeResult :=
    { evaluationId
      recommendedType := regimeType
      previousRecommendedType := controller.recommendedRegime
      changed := decide (controller.recommendedRegime ≠ some regimeType)
      transitionId
      state := result.stateAfter
      sourceMarketVersion := indicators.sourceMarketVersion
      sourceCandleId := indicators.sourceCandleId
      calculatedAt := indicators.calculatedAt }
  orRaise next.validate
  modify fun controller =>
    { controller with
      recommendedRegime := some regimeType
      lastRegimeResult := some next
      processedCandleIds := indicators.sourceCandleId :: controller.processedCandleIds
      latestProcessedCandleOpenTime := controller.indicatorSourceCandleOpenTime
      evaluationTraces := controller.evaluationTraces ++
        [⟨trigger, indicators.sourceMarketVersion, some indicators.sourceCandleId,
          some regimeType, none⟩] }
  pure next

/-- The checks of `_run_prepared_evaluation` before the first microstep. -/
def checkPrepared (trigger : RegimeEvaluationTrigger) (indicators : IndicatorSnapshot) :
    RegimeM ℕ := do
  let controller ← get
  match controller.marketSnapshot with
  | none => failEvaluation .marketSnapshotMismatch
  | some snapshot =>
      if controller.indicatorSnapshot ≠ some indicators then
        failEvaluation .invalidIndicatorSnapshot
      else if (← readMarket feed snapshot).version ≠ indicators.sourceMarketVersion then
        failEvaluation .staleMarketSnapshot
      else if indicators.sourceCandleId ∈ controller.processedCandleIds then
        failEvaluation .duplicateFourHourCandle
      else
        match controller.indicatorSourceCandleOpenTime with
        | none =>
            throw (.other
              (.runtimeError "latest IndicatorSnapshot must have a source candle time"))
        | some openTime =>
            if controller.latestProcessedCandleOpenTime.any (fun latest => decide (openTime ≤ latest))
              then failEvaluation .staleFourHourCandle
            else if trigger = .initial ∧ controller.state ≠ .initial then
              failEvaluation .invalidTriggerState
            else if trigger = .fourHourCandleClose ∧
                (controller.state = .initial ∨ controller.state = .fourHourCandleEvaluation) then
              failEvaluation .invalidTriggerState
            else pure snapshot

/-- The two microsteps and the commit of an evaluation. -/
def runMicrosteps (trigger : RegimeEvaluationTrigger) (indicators : IndicatorSnapshot)
    (evaluationId : EvaluationId) (context : RegimeEvaluationContext) : RegimeM RegimeResult := do
  let startResult ← handleStm
    ⟨trigger.eventType, indicators.calculatedAt, evaluationId, indicators.sourceCandleId⟩ none
  let (startAction, _) ← requireAction startResult evaluationId
  validateStartAction startAction context trigger
  let readyResult ← handleStm
    ⟨.evaluationReady, indicators.calculatedAt, evaluationId, indicators.sourceCandleId⟩
    (some context)
  let (action, transitionId) ← requireAction readyResult evaluationId
  let regimeType ← validateRecommendationAction action context
  applyRecommendedRegime evaluationId trigger regimeType readyResult transitionId indicators

/-- `_run_prepared_evaluation`. -/
def runPreparedEvaluation (trigger : RegimeEvaluationTrigger) (indicators : IndicatorSnapshot) :
    RegimeM RegimeResult := do
  let snapshot ← checkPrepared feed trigger indicators
  let evaluationId : EvaluationId :=
    .evaluation trigger indicators.sourceMarketVersion (some indicators.sourceCandleId)
  let context ← orRaise (createEvaluationContext evaluationId indicators)
  if (← readMarket feed snapshot).version ≠ indicators.sourceMarketVersion then
    failEvaluation .staleMarketSnapshot
  else runMicrosteps trigger indicators evaluationId context

/-! ## Failures -/

/-- `_find_latest_closed_candle_id`. -/
def findLatestClosedCandleId (market : MarketState) : Option CandleId :=
  if market.ready then (market.fourHourKlines.filter (·.closed)).getLast?.map createCandleId
  else none

/-- The version and the candle of an indicator snapshot. -/
def IndicatorSnapshot.source (indicators : IndicatorSnapshot) : ℕ × Option CandleId :=
  (indicators.sourceMarketVersion, some indicators.sourceCandleId)

/-- `_record_failure`. -/
def recordFailure (trigger : RegimeEvaluationTrigger) (code : RegimeEvaluationFailureCode)
    (source : Option (ℕ × Option CandleId)) (snapshot : ℕ) : RegimeM Unit := do
  let market ← readMarket feed snapshot
  let source := source.getD (market.version, findLatestClosedCandleId market)
  modify fun controller =>
    { controller with
      evaluationTraces := controller.evaluationTraces ++
        [⟨trigger, source.1, source.2, controller.recommendedRegime, some code⟩] }

/-- A typed failure after the indicators were prepared names their source. -/
def withPrepared {α : Type} (indicators : IndicatorSnapshot) (m : RegimeM α) : RegimeM α :=
  tryCatch m fun error =>
    match error with
    | .evaluation code _ => throw (.evaluation code (some indicators.source))
    | .other _ => throw error

/-- `recommend_regime`: a typed failure is recorded and raised again. -/
def recommendRegime (snapshot : ℕ) (indicators : IndicatorSnapshot) : RegimeM RegimeType := do
  let trigger ← inferEvaluationTrigger
  let result ← tryCatch (runPreparedEvaluation feed trigger indicators) fun error => do
    match error with
    | .evaluation code _ =>
        recordFailure feed trigger code (some indicators.source) snapshot
        throw error
    | .other _ => throw error
  pure result.recommendedType

/-! ## The public calls -/

/-- The part of an attempt after the indicators. -/
def attemptRecommendation (trigger : RegimeEvaluationTrigger) (snapshot : ℕ)
    (indicators : IndicatorSnapshot) : RegimeM RegimeResult := do
  let controller ← get
  if indicators.sourceCandleId ∈ controller.processedCandleIds then
    failEvaluation .duplicateFourHourCandle
  else
    let expected ← inferEvaluationTrigger
    if trigger ≠ expected then failEvaluation .invalidTriggerState
    else
      let _ ← recommendRegime feed snapshot indicators
      match (← get).lastRegimeResult with
      | none => throw (.other (.runtimeError "successful recommendation must create RegimeResult"))
      | some result => pure result

/-- One attempt of `evaluate_regime`. -/
def attemptEvaluation (trigger : RegimeEvaluationTrigger) (snapshot : ℕ) :
    RegimeM RegimeResult := do
  let indicators ← calculate4hIndicators feed formulas snapshot
  withPrepared indicators (attemptRecommendation feed trigger snapshot indicators)

/-- A typed failure is recorded, unless it has been, and the call returns `None`. -/
def failClosed (trigger : RegimeEvaluationTrigger) (snapshot traces : ℕ) (error : RegimeError) :
    RegimeM (Option RegimeResult) :=
  match error with
  | .other _ => throw error
  | .evaluation code source => do
      if (← get).evaluationTraces.length = traces then
        recordFailure feed trigger code source snapshot
      pure none

/-- `evaluate_regime`: a stale version is prepared once more. -/
def evaluateRegime (trigger : RegimeEvaluationTrigger) (snapshot : ℕ) :
    RegimeM (Option RegimeResult) := do
  let traces := (← get).evaluationTraces.length
  tryCatch (some <$> attemptEvaluation feed formulas trigger snapshot) fun error =>
    match error with
    | .evaluation .staleMarketSnapshot _ => do
        let traces := (← get).evaluationTraces.length
        tryCatch (some <$> attemptEvaluation feed formulas trigger snapshot)
          (failClosed feed trigger snapshot traces)
    | _ => failClosed feed trigger snapshot traces error

/-- The part of `reconcile_regime` after the indicators: a new candle is evaluated, and the
result of the same candle is bound to the new version. -/
def attemptRebinding (previous : RegimeResult) (snapshot : ℕ) (indicators : IndicatorSnapshot) :
    RegimeM (Option RegimeResult) := do
  if indicators.sourceCandleId ≠ previous.sourceCandleId then
    let _ ← recommendRegime feed snapshot indicators
    pure (← get).lastRegimeResult
  else
    let controller ← get
    if controller.recommendedRegime ≠ some previous.recommendedType ∨
        controller.state ≠ previous.state then
      failEvaluation .actionContractMismatch
    else
      let rebound : RegimeResult :=
        { evaluationId := .reconciliation indicators.sourceMarketVersion indicators.sourceCandleId
          recommendedType := previous.recommendedType
          previousRecommendedType := some previous.recommendedType
          changed := false
          transitionId := previous.transitionId
          state := previous.state
          sourceMarketVersion := indicators.sourceMarketVersion
          sourceCandleId := indicators.sourceCandleId
          calculatedAt := indicators.calculatedAt }
      orRaise rebound.validate
      modify fun controller => { controller with lastRegimeResult := some rebound }
      pure (some rebound)

/-- The part of `reconcile_regime` after the first evaluation. -/
def attemptReconciliation (previous : RegimeResult) (snapshot : ℕ) :
    RegimeM (Option RegimeResult) := do
  let indicators ← calculate4hIndicators feed formulas snapshot
  withPrepared indicators (attemptRebinding feed previous snapshot indicators)

/-- `reconcile_regime`. -/
def reconcileRegime (snapshot : ℕ) : RegimeM (Option RegimeResult) := do
  match (← get).lastRegimeResult with
  | none => evaluateRegime feed formulas .initial snapshot
  | some previous =>
      let traces := (← get).evaluationTraces.length
      tryCatch (attemptReconciliation feed formulas previous snapshot)
        (failClosed feed .fourHourCandleClose snapshot traces)

end

end Trading
