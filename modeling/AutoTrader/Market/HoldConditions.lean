import AutoTrader.Market.Kline
import AutoTrader.Support.Held
import AutoTrader.Support.State

/-!
# Conditions that must hold for a while

`_build_evaluation` of `application/market_evaluation_builder.py` and the timers of
`application/market_condition_timers.py`.  The indicator values and the checks of the source
candle are inputs, each of which may be an exception.

* `HoldCondition` — the five conditions, their durations and their timers.
* `nextStart`, `conditionFlag` — the start of every hold and the flags.
* `createHoldTimer` — the timer that mirrors one flag.
* `plan`, `buildEvaluation`, `evaluate` — an evaluation, committed after all checks.
* `Mirrors` — the starts are those of the conditions sampled at the evaluations so far.
* `hold_law` — a flag is up exactly when its condition held at every evaluation since one
  that is long enough ago, and its timer says the same.
-/

namespace Market

open Arithmetic Trading

/-! ## The conditions -/

/-- The conditions that a flag reports as held. -/
inductive HoldCondition where
  | pctBAtLeast060For5s | realtimeSlopeAbove008For5s | realtimeSlopeAtMost004For5s
  | pctBBelow060For5s | realtimeSlopeAtMostMinus055For3m
  deriving DecidableEq, Repr

namespace HoldCondition

/-- The conditions in the order of `condition_contracts`. -/
def all : List HoldCondition :=
  [pctBAtLeast060For5s, realtimeSlopeAbove008For5s, realtimeSlopeAtMost004For5s,
    pctBBelow060For5s, realtimeSlopeAtMostMinus055For3m]

theorem mem_all (condition : HoldCondition) : condition ∈ all := by
  cases condition <;> decide

/-- The duration in nanoseconds. -/
def duration : HoldCondition → ℤ
  | realtimeSlopeAtMostMinus055For3m => 180000000000
  | _ => 5000000000

/-- `HOLD_CONDITION_IDS`. -/
def conditionId : HoldCondition → String
  | pctBAtLeast060For5s => "b_profit_zone"
  | realtimeSlopeAbove008For5s => "b_trend_slope"
  | realtimeSlopeAtMost004For5s => "b_trend_exit_slope"
  | pctBBelow060For5s => "b_trend_exit_pct_b"
  | realtimeSlopeAtMostMinus055For3m => "c_stop"

/-- The flag of the condition in an evaluation. -/
def flag (condition : HoldCondition) (market : MarketEvaluationSnapshot) : Bool :=
  match condition with
  | pctBAtLeast060For5s => market.pctBAtLeast060For5s
  | realtimeSlopeAbove008For5s => market.realtimeSlopeAbove008For5s
  | realtimeSlopeAtMost004For5s => market.realtimeSlopeAtMost004For5s
  | pctBBelow060For5s => market.pctBBelow060For5s
  | realtimeSlopeAtMostMinus055For3m => market.realtimeSlopeAtMostMinus055For3m

end HoldCondition

/-- Which conditions hold for these values; comparing with NaN raises. -/
def conditionContracts (pctB slope : Decimal) : Except TradingError (HoldCondition → Bool) := do
  let pctBAtLeast060 ← raiseInvalid (Decimal.le? (.finite (60 / 100)) pctB)
  let slopeAbove008 ← raiseInvalid (Decimal.lt? (.finite (8 / 100)) slope)
  let slopeAtMost004 ← raiseInvalid (Decimal.le? slope (.finite (4 / 100)))
  let pctBBelow060 ← raiseInvalid (Decimal.lt? pctB (.finite (60 / 100)))
  let slopeAtMostMinus055 ← raiseInvalid (Decimal.le? slope (.finite (-55 / 100)))
  return fun
    | .pctBAtLeast060For5s => pctBAtLeast060
    | .realtimeSlopeAbove008For5s => slopeAbove008
    | .realtimeSlopeAtMost004For5s => slopeAtMost004
    | .pctBBelow060For5s => pctBBelow060
    | .realtimeSlopeAtMostMinus055For3m => slopeAtMostMinus055

/-- The conditions on numbers. -/
def HoldCondition.HoldsFor (pctB slope : ℚ) : HoldCondition → Prop
  | .pctBAtLeast060For5s => 60 / 100 ≤ pctB
  | .realtimeSlopeAbove008For5s => 8 / 100 < slope
  | .realtimeSlopeAtMost004For5s => slope ≤ 4 / 100
  | .pctBBelow060For5s => pctB < 60 / 100
  | .realtimeSlopeAtMostMinus055For3m => slope ≤ -55 / 100

theorem conditionContracts_finite (pctB slope : ℚ) : ∃ contract,
    conditionContracts (.finite pctB) (.finite slope) = .ok contract ∧
      ∀ condition, contract condition = true ↔ condition.HoldsFor pctB slope := by
  refine ⟨_, rfl, fun condition => ?_⟩
  cases condition <;> simp [HoldCondition.HoldsFor]

/-! ## The timers -/

inductive TimerState where
  | waiting | running | stopped | completed | expired
  deriving DecidableEq, Repr

/-- `TradingTimerSnapshot` of the kind `hold`. -/
structure TradingTimerSnapshot where
  conditionId : String
  timerId : String
  state : TimerState
  durationSeconds : ℚ
  remainingSeconds : ℚ
  sampledAt : Timestamp
  resetReason : Option String := none
  deriving DecidableEq

/-- The checks of a timer. -/
def TradingTimerSnapshot.validate (timer : TradingTimerSnapshot) :
    Except TradingError TradingTimerSnapshot := do
  Except.require (0 < timer.durationSeconds ∧ 0 ≤ timer.remainingSeconds ∧
      timer.remainingSeconds ≤ timer.durationSeconds)
    (.valueError "Timer remaining seconds must be within its positive duration")
  Except.require (timer.conditionId ≠ "" ∧ timer.timerId ≠ "")
    (.valueError "Timer condition and instance IDs are required")
  Except.require
    (timer.state = .completed ∨ timer.state = .expired → timer.remainingSeconds = 0)
    (.valueError "Terminal timers must have zero remaining seconds")
  Except.require (timer.state = .waiting ∨ timer.state = .stopped →
      timer.remainingSeconds = timer.durationSeconds)
    (.valueError "Inactive timers must retain their full duration")
  return timer

/-- `{timer.condition_id: timer for timer in previous}`. -/
def previousTimer (previous : List TradingTimerSnapshot) (condition : HoldCondition) :
    Option TradingTimerSnapshot :=
  (previous.filter (·.conditionId = condition.conditionId)).getLast?

/-- The ID of a hold that started at this time. -/
def holdTimerId (generation : ℕ) (condition : HoldCondition) (startedAt : Option ℤ) : String :=
  "hold:" ++ toString generation ++ ":" ++ condition.conditionId ++ ":" ++
    startedAt.elim "None" toString

/-- The time left of a hold. -/
def remainingSeconds (ctx : DecimalContext) (condition : HoldCondition)
    (startedAt monotonicTime : ℤ) : ℚ :=
  max 0 (ctx.sub (ctx.div condition.duration 1000000000)
    (ctx.div (monotonicTime - startedAt : ℤ) 1000000000))

/-- One pass of the loop of `create_hold_timer_snapshots`. -/
def createHoldTimer (ctx : DecimalContext) (flag : Bool) (startedAt : Option ℤ)
    (previous : List TradingTimerSnapshot) (monotonicTime : ℤ) (sampledAt : Timestamp)
    (generation : ℕ) (condition : HoldCondition) : Except TradingError TradingTimerSnapshot :=
  let oldTimer := previousTimer previous condition
  let duration := ctx.div condition.duration 1000000000
  let streamReset := if 0 < generation ∧ previous = [] then some "stream_reset" else none
  let timerId := holdTimerId generation condition startedAt
  match startedAt with
  | none =>
      match oldTimer.filter (·.state ≠ .waiting) with
      | some old =>
          TradingTimerSnapshot.validate {
            conditionId := condition.conditionId
            timerId := old.timerId
            state := .stopped
            durationSeconds := duration
            remainingSeconds := duration
            sampledAt
            resetReason := some "condition_broken" }
      | none =>
          TradingTimerSnapshot.validate {
            conditionId := condition.conditionId
            timerId
            state := .waiting
            durationSeconds := duration
            remainingSeconds := duration
            sampledAt
            resetReason := streamReset }
  | some startedAt =>
      TradingTimerSnapshot.validate {
        conditionId := condition.conditionId
        timerId
        state := if flag then .completed else .running
        durationSeconds := duration
        remainingSeconds := remainingSeconds ctx condition startedAt monotonicTime
        sampledAt
        resetReason := ((oldTimer.filter (·.timerId = timerId)).map (·.resetReason)).getD
          streamReset }

/-! ## The builder -/

/-- The fields of `ThirtyMinuteMarketEvaluationBuilder` except its clock. -/
structure BuilderState where
  lastMarketVersion : Option ℤ := none
  lastMonotonicTime : Option ℤ := none
  currentCandleId : Option String := none
  conditionStartedAt : HoldCondition → Option ℤ := fun _ => none
  conditionTimers : List TradingTimerSnapshot := []
  timerGeneration : ℕ := 0

/-- `reset`. -/
def BuilderState.reset (state : BuilderState) : BuilderState :=
  { timerGeneration := state.timerGeneration + 1 }

/-- `rebase` with the version and the candle of a baseline that passed its checks; one that
failed them leaves the builder as it was or reset. -/
def BuilderState.rebase (state : BuilderState) (version : ℤ) (candleId : String) : BuilderState :=
  { state.reset with lastMarketVersion := some version, currentCandleId := some candleId }

/-- What an evaluation reads besides the builder. -/
structure EvaluationInput where
  /-- `_validate_source`, or the checks of a recovery evaluation. -/
  sourceCheck : Except TradingError Bool := .ok true
  /-- The interval of the observed candle. -/
  interval : Interval
  marketVersion : ℤ
  /-- `_calculate_evaluation_values`. -/
  values : Except TradingError MarketEvaluationSnapshot
  clock : ℤ
  /-- The time of the market snapshot. -/
  sampledAt : Option Timestamp
  /-- The checks of the evaluation with its flags and timers. -/
  evaluationCheck : Except TradingError Unit := .ok ()

/-- An evaluation with the timers it is published with. -/
structure Evaluation where
  market : MarketEvaluationSnapshot
  conditionTimers : List TradingTimerSnapshot

namespace EvaluationInput

/-- Only 30-minute candles advance the holds. -/
def advancesConditions (input : EvaluationInput) : Bool := input.interval == .thirtyMinutes

end EvaluationInput

/-- `_read_monotonic_time`. -/
def readMonotonicTime (state : BuilderState) (clock : ℤ) : Except TradingError ℤ := do
  Except.require (0 ≤ clock) (.valueError "monotonic_clock must not return a negative value")
  Except.require (∀ last ∈ state.lastMonotonicTime, last ≤ clock)
    (.valueError "monotonic clock moved backwards")
  return clock

/-- The time of an evaluation; one that does not advance the holds reads the last one. -/
def evaluationTime (state : BuilderState) (input : EvaluationInput) : Except TradingError ℤ :=
  if input.advancesConditions then readMonotonicTime state input.clock
  else .ok (state.lastMonotonicTime.getD 0)

/-- The next starts of `_evaluate_conditions`. -/
def nextStart (state : BuilderState) (contract : HoldCondition → Bool) (monotonicTime : ℤ)
    (condition : HoldCondition) : Option ℤ :=
  Held.advance (state.conditionStartedAt condition) ⟨monotonicTime, contract condition⟩

/-- The flags of `_evaluate_conditions`. -/
def conditionFlag (state : BuilderState) (contract : HoldCondition → Bool) (monotonicTime : ℤ)
    (condition : HoldCondition) : Bool :=
  (nextStart state contract monotonicTime condition).any fun startedAt =>
    decide (condition.duration ≤ monotonicTime - startedAt)

/-- The values with their flags. -/
def withFlags (market : MarketEvaluationSnapshot) (flags : HoldCondition → Bool) :
    MarketEvaluationSnapshot :=
  { market with
    pctBAtLeast060For5s := flags .pctBAtLeast060For5s
    realtimeSlopeAbove008For5s := flags .realtimeSlopeAbove008For5s
    realtimeSlopeAtMost004For5s := flags .realtimeSlopeAtMost004For5s
    pctBBelow060For5s := flags .pctBBelow060For5s
    realtimeSlopeAtMostMinus055For3m := flags .realtimeSlopeAtMostMinus055For3m }

@[simp] theorem flag_withFlags (market : MarketEvaluationSnapshot) (flags : HoldCondition → Bool)
    (condition : HoldCondition) : condition.flag (withFlags market flags) = flags condition := by
  cases condition <;> rfl

/-- The timers of an evaluation: new ones when it advances the holds. -/
def plannedTimers (ctx : DecimalContext) (state : BuilderState) (input : EvaluationInput)
    (contract : HoldCondition → Bool) (monotonicTime : ℤ) :
    Except TradingError (List TradingTimerSnapshot) :=
  if input.advancesConditions then
    match input.sampledAt with
    | none => .error (.runtimeError "Timer evaluation requires a server sample time")
    | some sampledAt => HoldCondition.all.mapM fun condition =>
        createHoldTimer ctx (conditionFlag state contract monotonicTime condition)
          (nextStart state contract monotonicTime condition) state.conditionTimers monotonicTime
          sampledAt state.timerGeneration condition
  else .ok state.conditionTimers

/-- What `_build_evaluation` commits. -/
def committed (state : BuilderState) (input : EvaluationInput) (candleId : String)
    (contract : HoldCondition → Bool) (monotonicTime : ℤ)
    (timers : List TradingTimerSnapshot) : BuilderState :=
  if input.advancesConditions then
    { state with
      lastMarketVersion := some input.marketVersion
      lastMonotonicTime := some monotonicTime
      currentCandleId := some candleId
      conditionStartedAt := nextStart state contract monotonicTime
      conditionTimers := timers }
  else { state with lastMarketVersion := some input.marketVersion }

/-- `_build_evaluation` up to its commit. -/
def plan (ctx : DecimalContext) (state : BuilderState) (input : EvaluationInput) :
    Except TradingError (BuilderState × Evaluation) := do
  let values ← input.values
  match values.current30mCandleId with
  | none => .error (.runtimeError "calculated 30-minute candle ID must be a string")
  | some candleId => do
      let monotonicTime ← evaluationTime state input
      let contract ← conditionContracts values.realtimePctB values.realtimeEmaSlope
      let timers ← plannedTimers ctx state input contract monotonicTime
      input.evaluationCheck
      return (committed state input candleId contract monotonicTime timers,
        ⟨withFlags values (conditionFlag state contract monotonicTime), timers⟩)

/-- A method of the builder. -/
abbrev BuilderM := EStateM TradingError BuilderState

/-- `_build_evaluation`. -/
def buildEvaluation (ctx : DecimalContext) (input : EvaluationInput) : BuilderM Evaluation := do
  let state ← get
  let planned ← Stateful.raising (plan ctx state input)
  set planned.1
  return planned.2

/-- `__call__` and `build_recovery_evaluation`. -/
def evaluate (ctx : DecimalContext) (input : EvaluationInput) : BuilderM (Option Evaluation) := do
  if ← Stateful.raising input.sourceCheck then
    let evaluation ← buildEvaluation ctx input
    return some evaluation
  else return none

/-! ## One evaluation -/

variable {ctx : DecimalContext} {state next : BuilderState} {input : EvaluationInput}
  {evaluation : Evaluation}

/-- The condition at the time of an evaluation. -/
def holdsNow (input : EvaluationInput) (condition : HoldCondition) : Bool :=
  match input.values with
  | .error _ => false
  | .ok values =>
      match conditionContracts values.realtimePctB values.realtimeEmaSlope with
      | .error _ => false
      | .ok contract => contract condition

theorem holdsNow_eq {values : MarketEvaluationSnapshot} {contract : HoldCondition → Bool}
    (hvalues : input.values = .ok values)
    (hcontract : conditionContracts values.realtimePctB values.realtimeEmaSlope = .ok contract) :
    holdsNow input = contract := by
  funext condition
  unfold holdsNow
  rw [hvalues]
  dsimp only
  rw [hcontract]

theorem holdsNow_iff {values : MarketEvaluationSnapshot} {pctB slope : ℚ}
    (hvalues : input.values = .ok values) (hpctB : values.realtimePctB = .finite pctB)
    (hslope : values.realtimeEmaSlope = .finite slope) (condition : HoldCondition) :
    holdsNow input condition = true ↔ condition.HoldsFor pctB slope := by
  obtain ⟨contract, hcontract, hholds⟩ := conditionContracts_finite pctB slope
  rw [← hpctB, ← hslope] at hcontract
  rw [holdsNow_eq hvalues hcontract]
  exact hholds condition

/-- An evaluation of a 30-minute candle that passed all checks. -/
structure AdvancedTo (ctx : DecimalContext) (state : BuilderState) (input : EvaluationInput)
    (next : BuilderState) (evaluation : Evaluation) : Prop where
  starts : next.conditionStartedAt = nextStart state (holdsNow input) input.clock
  lastMonotonicTime : next.lastMonotonicTime = some input.clock
  monotone : ∀ last ∈ state.lastMonotonicTime, last ≤ input.clock
  flags : ∀ condition : HoldCondition, condition.flag evaluation.market =
    conditionFlag state (holdsNow input) input.clock condition
  timers : ∃ sampledAt, (HoldCondition.all.mapM fun condition =>
    createHoldTimer ctx (conditionFlag state (holdsNow input) input.clock condition)
      (nextStart state (holdsNow input) input.clock condition) state.conditionTimers input.clock
      sampledAt state.timerGeneration condition) = .ok evaluation.conditionTimers

theorem plan_eq_ok (h : plan ctx state input = .ok (next, evaluation)) :
    if input.advancesConditions then AdvancedTo ctx state input next evaluation
    else next = { state with lastMarketVersion := some input.marketVersion } := by
  obtain ⟨values, hvalues, h⟩ := Except.bind_eq_ok_iff.mp h
  split at h
  · cases h
  · obtain ⟨monotonicTime, htime, h⟩ := Except.bind_eq_ok_iff.mp h
    obtain ⟨contract, hcontract, h⟩ := Except.bind_eq_ok_iff.mp h
    obtain ⟨timers, htimers, h⟩ := Except.bind_eq_ok_iff.mp h
    obtain ⟨u, -, h⟩ := Except.bind_eq_ok_iff.mp h
    cases h
    cases hadvances : input.advancesConditions with
    | false =>
        rw [if_neg Bool.false_ne_true]
        exact if_neg (by rw [hadvances]; exact Bool.false_ne_true)
    | true =>
        rw [if_pos rfl]
        unfold evaluationTime at htime
        rw [if_pos hadvances] at htime
        obtain ⟨-, htime⟩ := Except.require_bind_eq_ok_iff.mp htime
        obtain ⟨hmonotone, htime⟩ := Except.require_bind_eq_ok_iff.mp htime
        cases htime
        obtain rfl := holdsNow_eq hvalues hcontract
        have hcommitted : ∀ candleId, committed state input candleId (holdsNow input) input.clock
            timers = { state with
              lastMarketVersion := some input.marketVersion
              lastMonotonicTime := some input.clock
              currentCandleId := some candleId
              conditionStartedAt := nextStart state (holdsNow input) input.clock
              conditionTimers := timers } := fun candleId => if_pos hadvances
        unfold plannedTimers at htimers
        rw [if_pos hadvances] at htimers
        split at htimers
        · cases htimers
        · rename_i sampledAt _
          exact {
            starts := by rw [hcommitted]
            lastMonotonicTime := by rw [hcommitted]
            monotone := hmonotone
            flags := fun condition => flag_withFlags _ _ _
            timers := ⟨sampledAt, htimers⟩ }

/-- An evaluation commits its plan, or leaves the builder as it was. -/
theorem evaluate_cases (ctx : DecimalContext) (input : EvaluationInput) (state : BuilderState) :
    (∃ next evaluation, plan ctx state input = .ok (next, evaluation) ∧
        evaluate ctx input state = .ok (some evaluation) next) ∨
      (∃ error, evaluate ctx input state = .error error state) ∨
      evaluate ctx input state = .ok none state := by
  unfold evaluate buildEvaluation
  rw [Stateful.bind_run]
  cases input.sourceCheck with
  | error error => exact .inr (.inl ⟨error, rfl⟩)
  | ok ready =>
      cases ready with
      | false => exact .inr (.inr rfl)
      | true =>
          simp only [Stateful.raising_ok, if_true, Stateful.bind_run, Stateful.get_run]
          cases plan ctx state input with
          | error error => exact .inr (.inl ⟨error, rfl⟩)
          | ok planned => exact .inl ⟨planned.1, planned.2, rfl, rfl⟩

/-! ## Histories -/

/-- The evaluation published something for a 30-minute candle. -/
def succeeds (ctx : DecimalContext) (state : BuilderState) (input : EvaluationInput) : Bool :=
  input.advancesConditions &&
    match evaluate ctx input state with
    | .ok (some _) _ => true
    | _ => false

/-- The builder after a history, parts of which may have raised. -/
def after (ctx : DecimalContext) (state : BuilderState) (history : List EvaluationInput) :
    BuilderState :=
  Stateful.runAll (history.map (evaluate ctx)) state

/-- The successful evaluations of 30-minute candles in a history. -/
def evaluated (ctx : DecimalContext) : BuilderState → List EvaluationInput → List EvaluationInput
  | _, [] => []
  | state, input :: history =>
      (if succeeds ctx state input then [input] else []) ++
        evaluated ctx (Stateful.finalState (evaluate ctx input state)) history

theorem values_of_mem_evaluated {history : List EvaluationInput}
    (h : input ∈ evaluated ctx state history) : ∃ values, input.values = .ok values := by
  induction history generalizing state with
  | nil => cases h
  | cons first history ih =>
      rcases List.mem_append.mp h with hfirst | hrest
      · cases hsucceeds : succeeds ctx state first with
        | false =>
            rw [hsucceeds] at hfirst
            cases hfirst
        | true =>
            rw [hsucceeds, if_pos rfl, List.mem_singleton] at hfirst
            subst hfirst
            rcases evaluate_cases ctx input state with
              ⟨next, evaluation, hplan, -⟩ | ⟨error, hrun⟩ | hrun
            · obtain ⟨values, hvalues, -⟩ := Except.bind_eq_ok_iff.mp hplan
              exact ⟨values, hvalues⟩
            · simp [succeeds, hrun] at hsucceeds
            · simp [succeeds, hrun] at hsucceeds
      · exact ih hrest

/-- A condition as an evaluation saw it. -/
def sampleOf (condition : HoldCondition) (input : EvaluationInput) : Held.Sample :=
  ⟨input.clock, holdsNow input condition⟩

/-- A condition as the successful evaluations saw it. -/
def samples (past : List EvaluationInput) (condition : HoldCondition) : List Held.Sample :=
  past.map (sampleOf condition)

/-- The builder remembers the holds of the evaluations so far. -/
structure Mirrors (state : BuilderState) (past : List EvaluationInput) : Prop where
  starts : ∀ condition, state.conditionStartedAt condition = Held.start (samples past condition)
  last : state.lastMonotonicTime = past.getLast?.map (·.clock)
  ordered : past.Pairwise fun first second => first.clock ≤ second.clock

theorem mirrors_reset {lastMarketVersion : Option ℤ} {currentCandleId : Option String}
    {timerGeneration : ℕ} :
    Mirrors { lastMarketVersion, currentCandleId, timerGeneration } [] where
  starts _ := rfl
  last := rfl
  ordered := List.Pairwise.nil

theorem Mirrors.ordered_samples {past : List EvaluationInput} (h : Mirrors state past)
    (condition : HoldCondition) : Held.Ordered (samples past condition) := by
  unfold Held.Ordered samples
  rw [List.pairwise_map]
  exact h.ordered

/-- What was evaluated is not later than the last time. -/
theorem Mirrors.le_last {past : List EvaluationInput} (h : Mirrors state past)
    {clock : ℤ} (hlast : ∀ last ∈ state.lastMonotonicTime, last ≤ clock) {old : EvaluationInput}
    (hold : old ∈ past) : old.clock ≤ clock := by
  rcases List.eq_nil_or_concat' past with rfl | ⟨past, final, rfl⟩
  · cases hold
  · have hfinal : final.clock ≤ clock := by
      refine hlast final.clock ?_
      rw [h.last, List.getLast?_concat]
      rfl
    rcases List.mem_append.mp hold with hearlier | hsame
    · exact ((List.pairwise_append.mp h.ordered).2.2 old hearlier final
        List.mem_cons_self).trans hfinal
    · rw [List.mem_singleton.mp hsame]
      exact hfinal

theorem Mirrors.advance {past : List EvaluationInput} (h : Mirrors state past)
    (hadvanced : AdvancedTo ctx state input next evaluation) : Mirrors next (past ++ [input]) where
  starts condition := by
    rw [hadvanced.starts]
    unfold nextStart samples
    rw [h.starts, List.map_append, List.map_singleton, Held.start_concat]
    rfl
  last := by
    rw [hadvanced.lastMonotonicTime, List.getLast?_concat]
    rfl
  ordered := List.pairwise_append.mpr ⟨h.ordered, List.pairwise_singleton _ _,
    fun old hold other hother => by
      rw [List.mem_singleton.mp hother]
      exact h.le_last hadvanced.monotone hold⟩

/-- One evaluation: it is remembered when it succeeded for a 30-minute candle, and leaves the
holds alone else. -/
theorem Mirrors.evaluate {past : List EvaluationInput} (h : Mirrors state past)
    (ctx : DecimalContext) (input : EvaluationInput) :
    Mirrors (Stateful.finalState (evaluate ctx input state))
      (past ++ if succeeds ctx state input then [input] else []) := by
  unfold succeeds
  rcases evaluate_cases ctx input state with ⟨next, evaluation, hplan, hrun⟩ | ⟨error, hrun⟩ | hrun
  · rw [hrun]
    have hnext := plan_eq_ok hplan
    cases hadvances : input.advancesConditions with
    | true =>
        rw [if_pos hadvances] at hnext
        exact h.advance hnext
    | false =>
        rw [hadvances, if_neg Bool.false_ne_true] at hnext
        rw [Bool.false_and, if_neg Bool.false_ne_true, List.append_nil, Stateful.finalState_ok,
          hnext]
        exact ⟨h.starts, h.last, h.ordered⟩
  · rw [hrun, Bool.and_false, if_neg Bool.false_ne_true, List.append_nil]
    exact h
  · rw [hrun, Bool.and_false, if_neg Bool.false_ne_true, List.append_nil]
    exact h

theorem Mirrors.after {past : List EvaluationInput} (h : Mirrors state past)
    (ctx : DecimalContext) (history : List EvaluationInput) :
    Mirrors (after ctx state history) (past ++ evaluated ctx state history) := by
  induction history generalizing state past with
  | nil =>
      rw [evaluated, List.append_nil]
      exact h
  | cons input history ih =>
      have hrest := ih (h.evaluate ctx input)
      rw [List.append_assoc] at hrest
      exact hrest

theorem evaluated_concat (ctx : DecimalContext) (state : BuilderState)
    (history : List EvaluationInput) (input : EvaluationInput) :
    evaluated ctx state (history ++ [input]) = evaluated ctx state history ++
      if succeeds ctx (after ctx state history) input then [input] else [] := by
  induction history generalizing state with
  | nil =>
      rw [List.nil_append, evaluated, evaluated, evaluated, List.append_nil, List.nil_append]
      rfl
  | cons first history ih =>
      rw [List.cons_append, evaluated, evaluated, ih, List.append_assoc]
      rfl

/-! ## Timers and flags -/

/-- The timer says what the flag and the start of its hold say. -/
structure TimerAgrees (ctx : DecimalContext) (generation : ℕ) (condition : HoldCondition)
    (flag : Bool) (startedAt : Option ℤ) (now : ℤ) (timer : TradingTimerSnapshot) : Prop where
  conditionId : timer.conditionId = condition.conditionId
  durationSeconds : timer.durationSeconds = ctx.div condition.duration 1000000000
  completed : timer.state = .completed ↔ flag = true
  running : timer.state = .running ↔ startedAt.isSome = true ∧ flag = false
  started : ∀ since ∈ startedAt, timer.timerId = holdTimerId generation condition (some since) ∧
    timer.remainingSeconds = remainingSeconds ctx condition since now

theorem TradingTimerSnapshot.eq_of_validate {given timer : TradingTimerSnapshot}
    (h : given.validate = .ok timer) : timer = given := by
  obtain ⟨-, h⟩ := Except.require_bind_eq_ok_iff.mp h
  obtain ⟨-, h⟩ := Except.require_bind_eq_ok_iff.mp h
  obtain ⟨-, h⟩ := Except.require_bind_eq_ok_iff.mp h
  obtain ⟨-, h⟩ := Except.require_bind_eq_ok_iff.mp h
  exact (Except.ok.inj h).symm

theorem createHoldTimer_agrees {flag : Bool} {startedAt : Option ℤ}
    {previous : List TradingTimerSnapshot} {monotonicTime : ℤ} {sampledAt : Timestamp}
    {generation : ℕ} {condition : HoldCondition} {timer : TradingTimerSnapshot}
    (hflag : flag = true → startedAt.isSome = true)
    (h : createHoldTimer ctx flag startedAt previous monotonicTime sampledAt generation condition =
      .ok timer) :
    TimerAgrees ctx generation condition flag startedAt monotonicTime timer := by
  unfold createHoldTimer at h
  dsimp only at h
  cases startedAt with
  | none =>
      have hdown : flag = false := Bool.eq_false_iff.mpr fun hup => by cases hflag hup
      dsimp only at h
      split at h
      · rw [TradingTimerSnapshot.eq_of_validate h, hdown]
        exact ⟨rfl, rfl, by simp, by simp, fun since hsince => by cases hsince⟩
      · rw [TradingTimerSnapshot.eq_of_validate h, hdown]
        exact ⟨rfl, rfl, by simp, by simp, fun since hsince => by cases hsince⟩
  | some startedAt =>
      dsimp only at h
      rw [TradingTimerSnapshot.eq_of_validate h]
      cases flag with
      | true =>
          exact ⟨rfl, rfl, by simp, by simp, fun since hsince => by cases hsince; exact ⟨rfl, rfl⟩⟩
      | false =>
          exact ⟨rfl, rfl, by simp, by simp, fun since hsince => by cases hsince; exact ⟨rfl, rfl⟩⟩

/-- A mapped computation that returned has a result for every item. -/
theorem exists_of_mapM_eq_ok {α β : Type} {f : α → Except TradingError β} {items : List α}
    {results : List β} (h : items.mapM f = .ok results) {item : α} (hitem : item ∈ items) :
    ∃ result ∈ results, f item = .ok result := by
  induction items generalizing results with
  | nil => cases hitem
  | cons first items ih =>
      rw [List.mapM_cons] at h
      obtain ⟨head, hhead, h⟩ := Except.bind_eq_ok_iff.mp h
      obtain ⟨tail, htail, h⟩ := Except.bind_eq_ok_iff.mp h
      cases h
      rcases List.mem_cons.mp hitem with rfl | hmem
      · exact ⟨head, List.mem_cons_self, hhead⟩
      · obtain ⟨result, hresult, hf⟩ := ih htail hmem
        exact ⟨result, List.mem_cons_of_mem _ hresult, hf⟩

/-- What the flags, the timers and the remembered starts say after a history. -/
structure HoldLaw (ctx : DecimalContext) (state : BuilderState)
    (history : List EvaluationInput) : Prop where
  /-- A flag is up exactly when its condition held, at every successful 30-minute evaluation,
  from one on that is at least the duration ago. -/
  flag_iff : ∀ input evaluation next, input.advancesConditions = true →
    evaluate ctx input (after ctx state history) = .ok (some evaluation) next →
    ∀ condition : HoldCondition, condition.flag evaluation.market = true ↔
      ∃ i sample, Held.HeldFrom (samples (evaluated ctx state (history ++ [input])) condition) i ∧
        (samples (evaluated ctx state (history ++ [input])) condition)[i]? = some sample ∧
        condition.duration ≤ input.clock - sample.time
  /-- Every condition has a timer that agrees with its flag and the start of its hold. -/
  timer : ∀ input evaluation next, input.advancesConditions = true →
    evaluate ctx input (after ctx state history) = .ok (some evaluation) next →
    ∀ condition : HoldCondition, ∃ timer ∈ evaluation.conditionTimers,
      TimerAgrees ctx (after ctx state history).timerGeneration condition
        (condition.flag evaluation.market)
        (Held.start (samples (evaluated ctx state (history ++ [input])) condition)) input.clock timer
  /-- What was sampled: whether the condition holds for the values of an evaluation. -/
  sampled : ∀ input ∈ evaluated ctx state history, ∃ values, input.values = .ok values ∧
    ∀ pctB slope, values.realtimePctB = .finite pctB → values.realtimeEmaSlope = .finite slope →
      ∀ condition, (sampleOf condition input).held = true ↔ condition.HoldsFor pctB slope
  /-- The remembered starts are those of the holds. -/
  starts : ∀ condition, (after ctx state history).conditionStartedAt condition =
    Held.start (samples (evaluated ctx state history) condition)
  /-- Other intervals and failed evaluations leave the starts alone. -/
  others : ∀ input, (input.advancesConditions = false ∨ ∀ evaluation next,
      evaluate ctx input (after ctx state history) ≠ .ok (some evaluation) next) →
    (Stateful.finalState (evaluate ctx input (after ctx state history))).conditionStartedAt =
      (after ctx state history).conditionStartedAt

/-- A successful evaluation of a 30-minute candle is one of the samples. -/
theorem succeeds_of_evaluate (hadvances : input.advancesConditions = true)
    (hrun : evaluate ctx input state = .ok (some evaluation) next) :
    succeeds ctx state input = true := by
  unfold succeeds
  rw [hrun, hadvances]
  rfl

theorem advancedTo_of_evaluate (hadvances : input.advancesConditions = true)
    (hrun : evaluate ctx input state = .ok (some evaluation) next) :
    AdvancedTo ctx state input next evaluation := by
  rcases evaluate_cases ctx input state with
    ⟨other, published, hplan, hother⟩ | ⟨e, hother⟩ | hother
  · rw [hrun] at hother
    cases hother
    have hnext := plan_eq_ok hplan
    rwa [if_pos hadvances] at hnext
  · rw [hrun] at hother
    cases hother
  · rw [hrun] at hother
    cases hother

theorem conditionFlag_isSome {contract : HoldCondition → Bool} {monotonicTime : ℤ}
    {condition : HoldCondition} (h : conditionFlag state contract monotonicTime condition = true) :
    (nextStart state contract monotonicTime condition).isSome = true := by
  unfold conditionFlag at h
  rw [Option.any_eq_true] at h
  obtain ⟨since, hsince, -⟩ := h
  rw [hsince]
  rfl

theorem holdLaw_of_mirrors (h : Mirrors state []) (ctx : DecimalContext)
    (history : List EvaluationInput) : HoldLaw ctx state history := by
  have hmirrors : Mirrors (after ctx state history) (evaluated ctx state history) :=
    h.after ctx history
  have hstart : ∀ input evaluation next, input.advancesConditions = true →
      evaluate ctx input (after ctx state history) = .ok (some evaluation) next →
      AdvancedTo ctx (after ctx state history) input next evaluation ∧
        Mirrors next (evaluated ctx state (history ++ [input])) := by
    intro input evaluation next hadvances hrun
    have hadvanced := advancedTo_of_evaluate hadvances hrun
    refine ⟨hadvanced, ?_⟩
    rw [evaluated_concat, succeeds_of_evaluate hadvances hrun, if_pos rfl]
    exact hmirrors.advance hadvanced
  refine ⟨?_, ?_, ?_, hmirrors.starts, ?_⟩
  · intro input evaluation next hadvances hrun condition
    obtain ⟨hadvanced, hnext⟩ := hstart input evaluation next hadvances hrun
    rw [hadvanced.flags condition, ← Held.held_long_iff (hnext.ordered_samples condition),
      ← hnext.starts condition, hadvanced.starts]
    unfold conditionFlag
    simp only [Option.any_eq_true, decide_eq_true_eq]
  · intro input evaluation next hadvances hrun condition
    obtain ⟨hadvanced, hnext⟩ := hstart input evaluation next hadvances hrun
    obtain ⟨sampledAt, htimers⟩ := hadvanced.timers
    obtain ⟨timer, hmem, htimer⟩ := exists_of_mapM_eq_ok htimers condition.mem_all
    refine ⟨timer, hmem, ?_⟩
    rw [hadvanced.flags condition, ← hnext.starts condition, hadvanced.starts]
    exact createHoldTimer_agrees conditionFlag_isSome htimer
  · intro input hinput
    obtain ⟨values, hvalues⟩ := values_of_mem_evaluated hinput
    exact ⟨values, hvalues, fun pctB slope hpctB hslope => holdsNow_iff hvalues hpctB hslope⟩
  · intro input hother
    rcases evaluate_cases ctx input (after ctx state history) with
      ⟨next, evaluation, hplan, hrun⟩ | ⟨error, hrun⟩ | hrun
    · rcases hother with hinterval | hfailed
      · have hnext := plan_eq_ok hplan
        rw [hinterval, if_neg Bool.false_ne_true] at hnext
        rw [hrun, Stateful.finalState_ok, hnext]
      · exact absurd hrun (hfailed evaluation next)
    · rw [hrun]
      rfl
    · rw [hrun]
      rfl

/-- After a reset or a rebase, whatever evaluations follow. -/
theorem hold_law (ctx : DecimalContext) (builder : BuilderState)
    (history : List EvaluationInput) :
    HoldLaw ctx builder.reset history ∧
      ∀ version candleId, HoldLaw ctx (builder.rebase version candleId) history :=
  ⟨holdLaw_of_mirrors mirrors_reset ctx history,
    fun _ _ => holdLaw_of_mirrors mirrors_reset ctx history⟩

/-- An evaluation of a 30-minute candle with a high %B and a flat slope. -/
def risingInput (marketVersion clock : ℤ) : EvaluationInput where
  interval := .thirtyMinutes
  marketVersion
  values := .ok { realtimePctB := .finite (6 / 10), current30mCandleId := some "30m" }
  clock
  sampledAt := some 0

theorem builderDigits_pos : 0 < 28 := by decide

/-- The default context. -/
def builderContext : DecimalContext := DecimalContext.significant 28 builderDigits_pos

/-- The second of two evaluations, five seconds after the first, raises the flag of %B. -/
theorem hold_law_flag : ∃ evaluation next,
    evaluate builderContext (risingInput 2 5000000000)
        (after builderContext (BuilderState.reset {}) [risingInput 1 0]) =
          .ok (some evaluation) next ∧
      evaluation.market.pctBAtLeast060For5s = true := by
  have hfirst : succeeds builderContext (BuilderState.reset {}) (risingInput 1 0) = true := by
    decide +kernel
  have hsecond : succeeds builderContext
      (after builderContext (BuilderState.reset {}) [risingInput 1 0])
      (risingInput 2 5000000000) = true := by decide +kernel
  have hevaluated : evaluated builderContext (BuilderState.reset {})
      ([risingInput 1 0] ++ [risingInput 2 5000000000]) =
        [risingInput 1 0, risingInput 2 5000000000] := by
    rw [evaluated_concat, hsecond, evaluated, evaluated, hfirst]
    rfl
  obtain ⟨hflag, -, -, -, -⟩ := (hold_law builderContext {} [risingInput 1 0]).1
  rcases evaluate_cases builderContext (risingInput 2 5000000000)
      (after builderContext (BuilderState.reset {}) [risingInput 1 0]) with
    ⟨next, evaluation, -, hrun⟩ | ⟨error, hrun⟩ | hrun
  · refine ⟨evaluation, next, hrun, (hflag _ _ _ rfl hrun .pctBAtLeast060For5s).mpr ?_⟩
    have hheld : ∀ version clock,
        holdsNow (risingInput version clock) .pctBAtLeast060For5s = true := fun version clock =>
      (@holdsNow_iff (risingInput version clock) _ (6 / 10) 0 rfl rfl rfl _).mpr
        (by norm_num [HoldCondition.HoldsFor])
    rw [hevaluated]
    refine ⟨0, _, ⟨by simp [samples], fun j sample _ hsample => ?_⟩, rfl, by decide⟩
    obtain ⟨input, hinput, rfl⟩ := List.mem_map.mp (List.mem_of_getElem? hsample)
    rcases List.mem_pair.mp hinput with rfl | rfl
    · exact hheld 1 0
    · exact hheld 2 5000000000
  · simp [succeeds, hrun] at hsecond
  · simp [succeeds, hrun] at hsecond

end Market
