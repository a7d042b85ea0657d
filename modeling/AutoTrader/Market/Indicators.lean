import AutoTrader.Arithmetic.Rounding
import AutoTrader.Market.Kline
import AutoTrader.Support.Except

/-!
# Indicators of the 30-minute candles

`_calculate_evaluation_values` of `application/market_evaluation_builder.py` and
`domain/market/ema_slope.py`.  The arithmetic is that of a decimal context; the square root of
the context and the text of a time are parameters.

* `calculateEma9Series`, `calculateNormalizedOlsSlope`, `calculateCandidateEma9Slope` — the
  average of the closes and its slope.
* `calculateBollingerBands`, `calculatePctB`, `calculateCci` — the other indicators.
* `calculateEvaluationValues` — the values of an evaluation, of an open candle or of its close.
* `indicators_agree` — marking the open candle closed changes none of its indicators.
-/

namespace Market

open Arithmetic Trading

/-! ## Windows -/

/-- `xs[-n:]`. -/
def lastN {α : Type} (n : ℕ) (xs : List α) : List α := xs.drop (xs.length - n)

theorem length_lastN {α : Type} {n : ℕ} {xs : List α} (h : n ≤ xs.length) :
    (lastN n xs).length = n := by
  rw [lastN, List.length_drop]
  omega

/-- A window that ends in a new element holds one old element less. -/
theorem lastN_concat {α : Type} (n : ℕ) (xs : List α) (x : α) :
    lastN (n + 1) (xs ++ [x]) = lastN n xs ++ [x] := by
  unfold lastN
  rw [List.length_append, List.length_singleton, Nat.add_sub_add_right,
    List.drop_append_of_le_length (Nat.sub_le _ _)]

/-! ## The exponential average -/

variable (ctx : DecimalContext)

/-- One step of the average: `EMA_ALPHA * price + EMA_COMPLEMENT * ema`. -/
def advanceEma (ema price : ℚ) : ℚ := ctx.add (ctx.mul (2 / 10) price) (ctx.mul (8 / 10) ema)

/-- The average of the first nine closes. -/
def seedEma (closePrices : List ℚ) : ℚ := ctx.div (ctx.sum (closePrices.take 9)) 9

/-- The loop of `calculate_ema9_series`. -/
def emaSeries (closePrices : List ℚ) : List ℚ :=
  (closePrices.drop 9).scanl (advanceEma ctx) (seedEma ctx closePrices)

/-- `calculate_ema9_series`. -/
def calculateEma9Series (closePrices : List ℚ) : Except TradingError (List ℚ) := do
  Except.require (9 ≤ closePrices.length)
    (.valueError "at least nine close prices are required for EMA9")
  Except.require (∀ price ∈ closePrices, 0 < price)
    (.valueError "all close prices must be positive and finite")
  return emaSeries ctx closePrices

/-- `calculate_raw_ols_slope`. -/
def calculateRawOlsSlope (emaValues : List ℚ) : Except TradingError ℚ := do
  Except.require (emaValues.length = 6)
    (.valueError "exactly six EMA9 values are required for OLS slope")
  let yMean := ctx.div (ctx.sum emaValues) 6
  let offsets : List ℚ := (List.range 6).map fun index => ctx.sub index (5 / 2)
  let numerator := ctx.sum (List.zipWith
    (fun offset value => ctx.mul offset (ctx.sub value yMean)) offsets emaValues)
  let denominator := ctx.sum (offsets.map fun offset => ctx.mul offset offset)
  return ctx.div numerator denominator

/-- `quantize(SLOPE_QUANTUM)`. -/
def quantizeSlope (slope : ℚ) : ℚ := halfEven (slope * 100000000) / 100000000

/-- `normalize_ols_slope`. -/
def normalizeOlsSlope (rawSlope candidatePrice : ℚ) : Except TradingError ℚ := do
  Except.require (0 < candidatePrice) (.valueError "candidate_price must be positive and finite")
  return quantizeSlope (ctx.mul (ctx.div rawSlope candidatePrice) 100)

/-- `calculate_normalized_ols_slope`. -/
def calculateNormalizedOlsSlope (emaValues : List ℚ) (candidatePrice : ℚ) :
    Except TradingError ℚ := do
  let rawSlope ← calculateRawOlsSlope ctx emaValues
  normalizeOlsSlope ctx rawSlope candidatePrice

/-- `calculate_candidate_ema9_slope`. -/
def calculateCandidateEma9Slope (committedSeries : List ℚ) (candidatePrice : ℚ) :
    Except TradingError ℚ := do
  Except.require (5 ≤ committedSeries.length)
    (.valueError "five committed EMA9 values are required for a candidate slope")
  Except.require (0 < candidatePrice) (.valueError "candidate_price must be positive and finite")
  calculateNormalizedOlsSlope ctx
    (lastN 5 committedSeries ++ [advanceEma ctx (committedSeries.getLastD 0) candidatePrice])
    candidatePrice

/-! ## Bands and the channel index -/

/-- Middle, lower and upper band, and the width of the bands in terms of the middle. -/
structure BollingerBands where
  middle : ℚ
  lower : ℚ
  upper : ℚ
  width : ℚ

/-- `_calculate_bollinger_bands`. -/
def calculateBollingerBands (sqrt : ℚ → ℚ) (closePrices : List ℚ) :
    Except TradingError BollingerBands := do
  Except.require (closePrices.length = 20)
    (.runtimeError "exactly twenty prices are required for Bollinger Bands")
  let middle := ctx.div (ctx.sum closePrices) 20
  let variance := ctx.div (ctx.sum (closePrices.map fun price =>
    ctx.mul (ctx.sub price middle) (ctx.sub price middle))) 20
  let offset := ctx.mul (sqrt variance) 2
  let lower := ctx.sub middle offset
  let upper := ctx.add middle offset
  Except.require (0 < middle ∧ lower < upper)
    (.runtimeError "Bollinger Bands require a positive middle and non-zero width")
  return ⟨middle, lower, upper, ctx.div (ctx.sub upper lower) middle⟩

/-- `_calculate_pct_b`. -/
def calculatePctB (candidatePrice : ℚ) (bands : BollingerBands) : Except TradingError ℚ := do
  Except.require (0 < ctx.sub bands.upper bands.lower)
    (.runtimeError "Bollinger width must be positive for percent-B")
  return ctx.div (ctx.sub candidatePrice bands.lower) (ctx.sub bands.upper bands.lower)

/-- `_calculate_typical_price`. -/
def calculateTypicalPrice (kline : Kline) : ℚ :=
  ctx.div (ctx.add (ctx.add kline.high kline.low) kline.close) 3

/-- `_calculate_cci`. -/
def calculateCci (typicalPrices : List ℚ) : Except TradingError ℚ := do
  Except.require (typicalPrices.length = 20)
    (.runtimeError "exactly twenty typical prices are required for CCI")
  let average := ctx.div (ctx.sum typicalPrices) 20
  let deviation := ctx.div (ctx.sum (typicalPrices.map fun price => |ctx.sub price average|)) 20
  let distance := ctx.sub (typicalPrices.getLastD 0) average
  return if deviation = 0 then 0 else ctx.div distance (ctx.mul (15 / 1000) deviation)

/-! ## The values of an evaluation -/

/-- The fields that `_calculate_evaluation_values` returns. -/
structure EvaluationValues where
  realtimePrice : ℚ
  lowerBand : ℚ
  upperBand : ℚ
  realtimePctB : ℚ
  current30mCandleId : String
  current30mLow : ℚ
  current30mHigh : ℚ
  touchCandleBbw : ℚ
  confirmed30mClose : Bool
  confirmed30mCloseTime : Option Timestamp
  confirmed1mClose : Bool
  emaSlope30mClose : ℚ
  realtimeEmaSlope : ℚ
  currentCloseEmaSlope : ℚ
  tpReferenceEmaSlope : ℚ
  cci30mRealtime : ℚ
  pctBClose : ℚ
  currentClosedCandleLow : ℚ
  previous3ClosedCandleLows : List ℚ

/-- `_create_candle_id`. -/
def createCandleId (isoTime : Timestamp → String) (kline : Kline) : String :=
  kline.symbol ++ ":" ++ kline.interval.value ++ ":" ++ isoTime kline.openTime

/-- The closes of the bands: the last twenty, or the last nineteen and the open candle. -/
def bandPrices (confirmed : Bool) (closePrices : List ℚ) (realtimePrice : ℚ) : List ℚ :=
  if confirmed then lastN 20 closePrices else lastN 19 closePrices ++ [realtimePrice]

/-- The typical prices of the channel index, of the same candles. -/
def cciTypicalPrices (confirmed : Bool) (closed : List Kline) (latest : Kline) : List ℚ :=
  if confirmed then (lastN 20 closed).map (calculateTypicalPrice ctx)
  else (lastN 19 closed).map (calculateTypicalPrice ctx) ++ [calculateTypicalPrice ctx latest]

/-- The series a candidate price continues: at a close, that of the candles before it. -/
def candidateBase (confirmed : Bool) (closePrices series : List ℚ) :
    Except TradingError (List ℚ) :=
  if confirmed then calculateEma9Series ctx closePrices.dropLast else .ok series

/-- The price whose slope is the reference for taking profit. -/
def tpPrice (bands : BollingerBands) : ℚ :=
  ctx.add bands.lower (ctx.mul (1 / 10) (ctx.sub bands.upper bands.lower))

/-- The observed candle is the close of a 30-minute candle. -/
def isConfirmed30mClose (observed : Kline) : Bool :=
  observed.interval == .thirtyMinutes && observed.closed

/-- What `_calculate_evaluation_values` reads besides the candles. -/
structure IndicatorEnvironment where
  ctx : DecimalContext
  sqrt : ℚ → ℚ
  isoTime : Timestamp → String

/-- The slope of the last confirmed one-minute close, or the realtime slope. -/
def currentCloseSlope (confirmed : Bool) (closePrices series : List ℚ) (realtimeSlope : ℚ) :
    Option Kline → Except TradingError ℚ
  | some source => do
      calculateCandidateEma9Slope ctx (← candidateBase ctx confirmed closePrices series) source.close
  | none => .ok realtimeSlope

/-- The realtime slope: at a close, that of the confirmed candles. -/
def realtimeSlopeOf (confirmed : Bool) (series : List ℚ) (confirmedSlope realtimePrice : ℚ) :
    Except TradingError ℚ :=
  if confirmed then .ok confirmedSlope
  else calculateCandidateEma9Slope ctx series realtimePrice

/-- The values from the closed candles, their average and the latest candle. -/
def evaluationOf (env : IndicatorEnvironment) (confirmed : Bool) (closed : List Kline)
    (series : List ℚ) (latestClosed latest : Kline) (oneMinuteClose : Option Kline) :
    Except TradingError EvaluationValues := do
  let closePrices := closed.map (·.close)
  let confirmedSlope ← calculateNormalizedOlsSlope env.ctx (lastN 6 series) latestClosed.close
  let realtimeSlope ← realtimeSlopeOf env.ctx confirmed series confirmedSlope latest.close
  let bands ← calculateBollingerBands env.ctx env.sqrt
    (bandPrices confirmed closePrices latest.close)
  let realtimePctB ← calculatePctB env.ctx latest.close bands
  let closedBands ← calculateBollingerBands env.ctx env.sqrt (lastN 20 closePrices)
  let pctBClose ← calculatePctB env.ctx latestClosed.close closedBands
  let cci ← calculateCci env.ctx (cciTypicalPrices env.ctx confirmed closed latest)
  let tpBase ← candidateBase env.ctx confirmed closePrices series
  let tpSlope ← calculateCandidateEma9Slope env.ctx tpBase (tpPrice env.ctx bands)
  let closeSlope ←
    currentCloseSlope env.ctx confirmed closePrices series realtimeSlope oneMinuteClose
  return {
    realtimePrice := latest.close
    lowerBand := bands.lower
    upperBand := bands.upper
    realtimePctB
    current30mCandleId := createCandleId env.isoTime latest
    current30mLow := latest.low
    current30mHigh := latest.high
    touchCandleBbw := bands.width
    confirmed30mClose := confirmed
    confirmed30mCloseTime :=
      if confirmed then some (latest.openTime + Interval.thirtyMinutes.duration) else none
    confirmed1mClose := oneMinuteClose.isSome
    emaSlope30mClose := confirmedSlope
    realtimeEmaSlope := realtimeSlope
    currentCloseEmaSlope := closeSlope
    tpReferenceEmaSlope := tpSlope
    cci30mRealtime := cci
    pctBClose
    currentClosedCandleLow := latestClosed.low
    previous3ClosedCandleLows := ((lastN 4 closed).dropLast).map (·.low) }

/-- `_calculate_evaluation_values` over the 30-minute candles of a snapshot, with the
one-minute close among its sources. -/
def calculateEvaluationValues (env : IndicatorEnvironment) (klines : List Kline)
    (observed : Kline) (oneMinuteClose : Option Kline) : Except TradingError EvaluationValues := do
  let closed := klines.filter (·.closed)
  Except.require (20 ≤ closed.length)
    (.runtimeError "at least twenty closed 30-minute Klines are required")
  let series ← calculateEma9Series env.ctx (closed.map (·.close))
  Except.require (6 ≤ series.length)
    (.runtimeError "at least fourteen closed 30-minute Klines are required for slope")
  match closed.getLast?, klines.getLast? with
  | some latestClosed, some latest =>
      evaluationOf env (isConfirmed30mClose observed) closed series latestClosed latest
        oneMinuteClose
  | _, _ => .error .stopIteration

/-! ## The average of one candle more -/

variable {ctx}

theorem scanl_concat (f : ℚ → ℚ → ℚ) (start : ℚ) (xs : List ℚ) (x : ℚ) :
    (xs ++ [x]).scanl f start = xs.scanl f start ++ [f ((xs.scanl f start).getLastD 0) x] := by
  induction xs generalizing start with
  | nil => rfl
  | cons y ys ih =>
      rw [List.cons_append, List.scanl_cons, List.scanl_cons, ih, List.cons_append]
      congr 2
      cases hscan : ys.scanl f (f start y) with
      | nil => exact absurd hscan List.scanl_ne_nil
      | cons z zs => rfl

/-- The average of one candle more is the candidate that the series is continued with. -/
theorem emaSeries_concat {closePrices : List ℚ} (h : 9 ≤ closePrices.length) (price : ℚ) :
    emaSeries ctx (closePrices ++ [price]) =
      emaSeries ctx closePrices ++
        [advanceEma ctx ((emaSeries ctx closePrices).getLastD 0) price] := by
  have hseed : seedEma ctx (closePrices ++ [price]) = seedEma ctx closePrices := by
    unfold seedEma
    rw [List.take_append_of_le_length h]
  unfold emaSeries
  rw [hseed, List.drop_append_of_le_length h, scanl_concat]

theorem length_emaSeries {closePrices : List ℚ} :
    (emaSeries ctx closePrices).length = closePrices.length - 9 + 1 := by
  unfold emaSeries
  rw [List.length_scanl, List.length_drop]

/-- The closes of candles are positive, so only their number matters. -/
theorem calculateEma9Series_close {klines : List Kline} (h : 9 ≤ klines.length) :
    calculateEma9Series ctx (klines.map (·.close)) = .ok (emaSeries ctx (klines.map (·.close))) := by
  refine Except.require_bind_eq_ok_iff.mpr ⟨by rwa [List.length_map], ?_⟩
  refine Except.require_bind_eq_ok_iff.mpr ⟨fun price hprice => ?_, rfl⟩
  obtain ⟨kline, -, rfl⟩ := List.mem_map.mp hprice
  exact kline.close_pos

/-- With enough values behind it and a positive price, a candidate has a slope. -/
theorem exists_candidateSlope {series : List ℚ} {price : ℚ} (hseries : 5 ≤ series.length)
    (hprice : 0 < price) : ∃ slope, calculateCandidateEma9Slope ctx series price = .ok slope := by
  have hlength : (lastN 5 series ++ [advanceEma ctx (series.getLastD 0) price]).length = 6 := by
    rw [List.length_append, length_lastN hseries, List.length_singleton]
  obtain ⟨raw, hraw⟩ : ∃ raw, calculateRawOlsSlope ctx
      (lastN 5 series ++ [advanceEma ctx (series.getLastD 0) price]) = .ok raw :=
    ⟨_, Except.require_bind_eq_ok_iff.mpr ⟨hlength, rfl⟩⟩
  refine ⟨_, Except.require_bind_eq_ok_iff.mpr ⟨hseries,
    Except.require_bind_eq_ok_iff.mpr ⟨hprice, Except.bind_eq_ok_iff.mpr ⟨raw, hraw,
      Except.require_bind_eq_ok_iff.mpr ⟨hprice, rfl⟩⟩⟩⟩⟩

/-- The slope of a candidate is the confirmed slope of the series it continues. -/
theorem candidateSlope_eq {series : List ℚ} {price slope : ℚ}
    (h : calculateCandidateEma9Slope ctx series price = .ok slope) :
    calculateNormalizedOlsSlope ctx
      (lastN 6 (series ++ [advanceEma ctx (series.getLastD 0) price])) price = .ok slope := by
  obtain ⟨-, h⟩ := Except.require_bind_eq_ok_iff.mp h
  obtain ⟨-, h⟩ := Except.require_bind_eq_ok_iff.mp h
  rw [lastN_concat]
  exact h

/-! ## The close of the open candle -/

/-- The same candle, marked closed. -/
def Kline.markClosed (kline : Kline) : Kline := { kline with closed := true }

/-- The indicators of two evaluations are the same. -/
structure SameIndicators (first second : EvaluationValues) : Prop where
  realtimeEmaSlope : first.realtimeEmaSlope = second.realtimeEmaSlope
  lowerBand : first.lowerBand = second.lowerBand
  upperBand : first.upperBand = second.upperBand
  realtimePctB : first.realtimePctB = second.realtimePctB
  touchCandleBbw : first.touchCandleBbw = second.touchCandleBbw
  cci30mRealtime : first.cci30mRealtime = second.cci30mRealtime
  tpReferenceEmaSlope : first.tpReferenceEmaSlope = second.tpReferenceEmaSlope

/-- In a confirmed evaluation the realtime values are those of the close. -/
structure ConfirmedValues (values : EvaluationValues) : Prop where
  slope : values.realtimeEmaSlope = values.emaSlope30mClose
  pctB : values.realtimePctB = values.pctBClose

/-- At a close the realtime windows are the confirmed ones. -/
theorem confirmedValues_of_evaluationOf {env : IndicatorEnvironment} {closed : List Kline}
    {series : List ℚ} {latest : Kline} {oneMinuteClose : Option Kline} {values : EvaluationValues}
    (h : evaluationOf env true closed series latest latest oneMinuteClose = .ok values) :
    ConfirmedValues values := by
  obtain ⟨slope, -, h⟩ := Except.bind_eq_ok_iff.mp h
  obtain ⟨realtimeSlope, hrealtime, h⟩ := Except.bind_eq_ok_iff.mp h
  obtain ⟨bands, hbands, h⟩ := Except.bind_eq_ok_iff.mp h
  obtain ⟨pctB, hpctB, h⟩ := Except.bind_eq_ok_iff.mp h
  obtain ⟨closedBands, hclosedBands, h⟩ := Except.bind_eq_ok_iff.mp h
  obtain ⟨pctBClose, hpctBClose, h⟩ := Except.bind_eq_ok_iff.mp h
  obtain ⟨cci, -, h⟩ := Except.bind_eq_ok_iff.mp h
  obtain ⟨tpBase, -, h⟩ := Except.bind_eq_ok_iff.mp h
  obtain ⟨tpSlope, -, h⟩ := Except.bind_eq_ok_iff.mp h
  obtain ⟨closeSlope, -, h⟩ := Except.bind_eq_ok_iff.mp h
  cases h
  cases hrealtime
  obtain rfl := Except.ok.inj (hbands.symm.trans hclosedBands)
  exact ⟨rfl, Except.ok.inj (hpctB.symm.trans hpctBClose)⟩

/-- The evaluation of an open candle, repeated at its close: every window then ends in the
candle that was the candidate. -/
theorem evaluationOf_markClosed {env : IndicatorEnvironment} {closed : List Kline}
    {latestClosed latest : Kline} {oneMinuteClose : Option Kline} {values : EvaluationValues}
    (hlength : 20 ≤ closed.length)
    (h : evaluationOf env false closed (emaSeries env.ctx (closed.map (·.close))) latestClosed latest
      oneMinuteClose = .ok values) (oneMinuteCloseAtClose : Option Kline) :
    ∃ confirmed, evaluationOf env true (closed ++ [latest.markClosed])
        (emaSeries env.ctx ((closed ++ [latest.markClosed]).map (·.close))) latest.markClosed
        latest.markClosed oneMinuteCloseAtClose = .ok confirmed ∧
      SameIndicators values confirmed := by
  obtain ⟨oldSlope, -, h⟩ := Except.bind_eq_ok_iff.mp h
  obtain ⟨slope, hslope, h⟩ := Except.bind_eq_ok_iff.mp h
  obtain ⟨bands, hbands, h⟩ := Except.bind_eq_ok_iff.mp h
  obtain ⟨pctB, hpctB, h⟩ := Except.bind_eq_ok_iff.mp h
  obtain ⟨oldBands, -, h⟩ := Except.bind_eq_ok_iff.mp h
  obtain ⟨oldPctB, -, h⟩ := Except.bind_eq_ok_iff.mp h
  obtain ⟨cci, hcci, h⟩ := Except.bind_eq_ok_iff.mp h
  obtain ⟨tpBase, htpBase, h⟩ := Except.bind_eq_ok_iff.mp h
  obtain ⟨tpSlope, htpSlope, h⟩ := Except.bind_eq_ok_iff.mp h
  obtain ⟨closeSlope, -, h⟩ := Except.bind_eq_ok_iff.mp h
  cases h
  cases htpBase
  have hcloses : (closed ++ [latest.markClosed]).map (·.close) =
      closed.map (·.close) ++ [latest.close] := by
    rw [List.map_append]
    rfl
  have hseries : emaSeries env.ctx ((closed ++ [latest.markClosed]).map (·.close)) =
      emaSeries env.ctx (closed.map (·.close)) ++
        [advanceEma env.ctx ((emaSeries env.ctx (closed.map (·.close))).getLastD 0)
          latest.close] := by
    rw [hcloses]
    exact emaSeries_concat (by rw [List.length_map]; omega) _
  have hconfirmedSlope : calculateNormalizedOlsSlope env.ctx
      (lastN 6 (emaSeries env.ctx ((closed ++ [latest.markClosed]).map (·.close))))
      latest.markClosed.close = .ok slope := by
    rw [hseries]
    exact candidateSlope_eq hslope
  -- the last twenty closes are the nineteen before and the candidate
  have hprices : lastN 20 ((closed ++ [latest.markClosed]).map (·.close)) =
      bandPrices false (closed.map (·.close)) latest.close := by
    rw [hcloses, lastN_concat]
    rfl
  have hconfirmedBands : calculateBollingerBands env.ctx env.sqrt
      (lastN 20 ((closed ++ [latest.markClosed]).map (·.close))) = .ok bands := by
    rw [hprices]
    exact hbands
  have hconfirmedCci : calculateCci env.ctx
      (cciTypicalPrices env.ctx true (closed ++ [latest.markClosed]) latest.markClosed) =
      .ok cci := by
    have hwindow : cciTypicalPrices env.ctx true (closed ++ [latest.markClosed])
        latest.markClosed = cciTypicalPrices env.ctx false closed latest := by
      unfold cciTypicalPrices
      rw [if_pos rfl, if_neg Bool.false_ne_true, lastN_concat, List.map_append]
      rfl
    rw [hwindow]
    exact hcci
  -- the base of a candidate at the close is the series before the close
  have hbase : candidateBase env.ctx true ((closed ++ [latest.markClosed]).map (·.close))
      (emaSeries env.ctx ((closed ++ [latest.markClosed]).map (·.close))) =
      .ok (emaSeries env.ctx (closed.map (·.close))) := by
    unfold candidateBase
    rw [if_pos rfl, hcloses, List.dropLast_concat]
    exact calculateEma9Series_close (by omega)
  obtain ⟨otherSlope, hotherSlope⟩ : ∃ otherSlope, currentCloseSlope env.ctx true
      ((closed ++ [latest.markClosed]).map (·.close))
      (emaSeries env.ctx ((closed ++ [latest.markClosed]).map (·.close))) slope
      oneMinuteCloseAtClose = .ok otherSlope := by
    cases oneMinuteCloseAtClose with
    | none => exact ⟨slope, rfl⟩
    | some source =>
        have henough : 5 ≤ (emaSeries env.ctx (closed.map (·.close))).length := by
          rw [length_emaSeries, List.length_map]
          omega
        obtain ⟨other, hother⟩ := exists_candidateSlope henough source.close_pos
        exact ⟨other, Except.bind_eq_ok_iff.mpr ⟨_, hbase, hother⟩⟩
  refine ⟨_, Except.bind_eq_ok_iff.mpr ⟨slope, hconfirmedSlope,
    Except.bind_eq_ok_iff.mpr ⟨slope, rfl, Except.bind_eq_ok_iff.mpr ⟨bands, hconfirmedBands,
    Except.bind_eq_ok_iff.mpr ⟨pctB, hpctB, Except.bind_eq_ok_iff.mpr ⟨bands, hconfirmedBands,
    Except.bind_eq_ok_iff.mpr ⟨pctB, hpctB, Except.bind_eq_ok_iff.mpr ⟨cci, hconfirmedCci,
    Except.bind_eq_ok_iff.mpr ⟨_, hbase, Except.bind_eq_ok_iff.mpr ⟨tpSlope, htpSlope,
    Except.bind_eq_ok_iff.mpr ⟨otherSlope, hotherSlope, rfl⟩⟩⟩⟩⟩⟩⟩⟩⟩⟩, ?_⟩
  exact ⟨rfl, rfl, rfl, rfl, rfl, rfl, rfl⟩

theorem calculateEvaluationValues_eq_ok {env : IndicatorEnvironment} {klines closed : List Kline}
    {observed latestClosed latest : Kline} {oneMinuteClose : Option Kline}
    {values : EvaluationValues} (hclosed : klines.filter (·.closed) = closed)
    (hlatestClosed : closed.getLast? = some latestClosed)
    (hlatest : klines.getLast? = some latest) :
    calculateEvaluationValues env klines observed oneMinuteClose = .ok values ↔
      20 ≤ closed.length ∧ evaluationOf env (isConfirmed30mClose observed) closed
        (emaSeries env.ctx (closed.map (·.close))) latestClosed latest oneMinuteClose =
        .ok values := by
  unfold calculateEvaluationValues
  rw [Except.require_bind_eq_ok_iff, hclosed]
  refine and_congr_right fun hlength => ?_
  rw [calculateEma9Series_close (by omega), Except.ok_bind, Except.require_bind_eq_ok_iff,
    hlatestClosed, hlatest]
  refine and_iff_right ?_
  rw [length_emaSeries, List.length_map]
  omega

/-- Marking the open 30-minute candle closed, and observing that, changes no indicator that
the open candle had; and in the evaluation of a close the realtime slope and the realtime
band position are those of the close. -/
theorem indicators_agree (env : IndicatorEnvironment) (history : List Kline)
    (latest observed : Kline) (hopen : latest.closed = false)
    (hinterval : latest.interval = .thirtyMinutes)
    (hobserved : isConfirmed30mClose observed = false) (before atClose : Option Kline) :
    (∀ values,
      calculateEvaluationValues env (history ++ [latest]) observed before = .ok values →
      ∃ confirmed, calculateEvaluationValues env (history ++ [latest.markClosed])
          latest.markClosed atClose = .ok confirmed ∧ SameIndicators values confirmed) ∧
    ∀ confirmed, calculateEvaluationValues env (history ++ [latest.markClosed])
      latest.markClosed atClose = .ok confirmed → ConfirmedValues confirmed := by
  have hconfirmed : isConfirmed30mClose latest.markClosed = true := by
    simp only [isConfirmed30mClose, Kline.markClosed, hinterval, beq_self_eq_true, Bool.and_self]
  have hclosed : (history ++ [latest]).filter (·.closed) = history.filter (·.closed) := by
    rw [List.filter_append, List.filter_singleton, hopen]
    exact List.append_nil _
  have hmarked : (history ++ [latest.markClosed]).filter (·.closed) =
      history.filter (·.closed) ++ [latest.markClosed] := by
    rw [List.filter_append, List.filter_singleton]
    rfl
  refine ⟨fun values hvalues => ?_, fun confirmed hvalues => ?_⟩
  · have hne : ∃ last, (history.filter (·.closed)).getLast? = some last := by
      cases hlast : (history.filter (·.closed)).getLast? with
      | some last => exact ⟨last, rfl⟩
      | none =>
          rw [List.getLast?_eq_none_iff] at hlast
          have hlength := (Except.require_bind_eq_ok_iff.mp hvalues).1
          rw [hclosed, hlast] at hlength
          exact absurd hlength (by decide)
    obtain ⟨last, hlast⟩ := hne
    rw [calculateEvaluationValues_eq_ok hclosed hlast List.getLast?_concat, hobserved] at hvalues
    obtain ⟨confirmed, hrun, hsame⟩ :=
      evaluationOf_markClosed hvalues.1 hvalues.2 atClose
    refine ⟨confirmed, ?_, hsame⟩
    rw [calculateEvaluationValues_eq_ok hmarked List.getLast?_concat List.getLast?_concat,
      hconfirmed]
    exact ⟨by rw [List.length_append]; omega, hrun⟩
  · rw [calculateEvaluationValues_eq_ok hmarked List.getLast?_concat List.getLast?_concat,
      hconfirmed] at hvalues
    exact confirmedValues_of_evaluationOf hvalues.2

/-- Candles that close at 1 and at 3 in turn. -/
def alternatingKline (index : ℕ) (closed : Bool) : Kline where
  symbol := "ETHUSDT"
  interval := .thirtyMinutes
  openTime := index * 1800000000
  openPrice := 1
  high := 3
  low := 1
  close := if index % 2 = 0 then 1 else 3
  volume := 0
  closed := closed
  close_pos := by split <;> norm_num
  low_le := by split <;> norm_num
  le_high := by split <;> norm_num

/-- Exact arithmetic, with the root of a fraction of squares. -/
def exactEnvironment : IndicatorEnvironment where
  ctx := DecimalContext.exact
  sqrt q := (Nat.sqrt q.num.toNat : ℚ) / Nat.sqrt q.den
  isoTime := toString

/-- Twenty closed candles and an open one. -/
theorem indicators_agree_alternating :
    ∃ values confirmed,
      calculateEvaluationValues exactEnvironment
        ((List.range 20).map (alternatingKline · true) ++ [alternatingKline 20 false])
        (alternatingKline 20 false) none = .ok values ∧
      calculateEvaluationValues exactEnvironment
        ((List.range 20).map (alternatingKline · true) ++ [(alternatingKline 20 false).markClosed])
        (alternatingKline 20 false).markClosed none = .ok confirmed ∧
      SameIndicators values confirmed ∧ ConfirmedValues confirmed := by
  have hagree := indicators_agree exactEnvironment ((List.range 20).map (alternatingKline · true))
    (alternatingKline 20 false) (alternatingKline 20 false) rfl rfl rfl none none
  have hok : (calculateEvaluationValues exactEnvironment
      ((List.range 20).map (alternatingKline · true) ++ [alternatingKline 20 false])
      (alternatingKline 20 false) none).isOk = true := by decide +kernel
  cases hrun : calculateEvaluationValues exactEnvironment
      ((List.range 20).map (alternatingKline · true) ++ [alternatingKline 20 false])
      (alternatingKline 20 false) none with
  | error error => rw [hrun] at hok; cases hok
  | ok values =>
      obtain ⟨confirmed, hconfirmed, hsame⟩ := hagree.1 values hrun
      exact ⟨values, confirmed, rfl, hconfirmed, hsame, hagree.2 confirmed hconfirmed⟩

end Market
