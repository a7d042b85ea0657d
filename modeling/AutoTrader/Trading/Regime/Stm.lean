import AutoTrader.Trading.Orders.Order

/-!
# The REGIME state machine

`RegimeSTM`, which recommends a REGIME after each closed 4-hour candle.

* `RegimeState`, `RegimeEvent`, `RegimeEvaluationContext` — its states and inputs.
* `recommendationRows`, `transitionRegistry` — the recommendation guards and the transition rows.
* `handleRegime` — one microstep.
* `exactly_one_row` — the guards cover every context and exclude each other.
-/

namespace Trading

/-! ## States and inputs -/

/-- `RegimeState`; the five recommended states are the REGIME types. -/
inductive RegimeState where
  | initial
  | fourHourCandleEvaluation
  | recommended (regimeType : RegimeType)
  deriving DecidableEq, Repr

/-- `RegimeEvaluationTrigger`. -/
inductive RegimeEvaluationTrigger where
  | initial
  | fourHourCandleClose
  deriving DecidableEq, Repr

/-- `RegimeEventType`. -/
inductive RegimeEventType where
  | initialEvaluationRequested
  | fourHourCandleClosed
  | evaluationReady
  deriving DecidableEq, Repr

/-- The text that names a 4-hour candle, by what it contains. -/
structure CandleId where
  symbol : String
  openTime : Timestamp
  deriving DecidableEq, Repr

/-- The texts that name an evaluation, by what they contain. -/
inductive EvaluationId where
  | evaluation (trigger : RegimeEvaluationTrigger) (version : ℕ) (candle : Option CandleId)
  | reconciliation (version : ℕ) (candle : CandleId)
  deriving DecidableEq, Repr

/-- `RegimeEvent`. -/
structure RegimeEvent where
  eventType : RegimeEventType
  occurredAt : Timestamp
  evaluationId : EvaluationId
  sourceCandleId : CandleId
  deriving DecidableEq, Repr

/-- `RegimeEvaluationContext`, with what its constructor checks. -/
structure RegimeEvaluationContext where
  evaluationId : EvaluationId
  symbol : String
  ema9Slope : ℚ
  hasHigherHigh : Bool
  hasHigherLow : Bool
  hasLowerHigh : Bool
  hasLowerLow : Bool
  currentPrice : ℚ
  liveEma9 : ℚ
  sourceMarketVersion : ℕ
  sourceCandleId : CandleId
  calculatedAt : Timestamp
  price_pos : 0 < currentPrice
  live_pos : 0 < liveEma9

/-! ## Guards -/

def sidewaysMinSlope : ℚ := -15 / 100
def sidewaysMaxSlope : ℚ := 15 / 100
def strongDownSlope : ℚ := -30 / 100
def strongUpSlope : ℚ := 30 / 100

section

variable (context : RegimeEvaluationContext)

/-- `matches_sideways_regime`. -/
def matchesSidewaysRegime : Bool :=
  decide (sidewaysMinSlope ≤ context.ema9Slope ∧ context.ema9Slope ≤ sidewaysMaxSlope)

/-- `matches_weak_up_regime`. -/
def matchesWeakUpRegime : Bool :=
  decide (sidewaysMaxSlope < context.ema9Slope ∧ context.ema9Slope < strongUpSlope)

/-- The structure of a strong rise. -/
def strongUpStructure : Bool :=
  context.hasHigherHigh && context.hasHigherLow && decide (context.liveEma9 ≤ context.currentPrice)

/-- `matches_strong_up_fallback`. -/
def matchesStrongUpFallback : Bool :=
  decide (strongUpSlope ≤ context.ema9Slope) && !strongUpStructure context

/-- `matches_strong_up_regime`. -/
def matchesStrongUpRegime : Bool :=
  decide (strongUpSlope ≤ context.ema9Slope) && strongUpStructure context

/-- `matches_weak_down_regime`. -/
def matchesWeakDownRegime : Bool :=
  decide (strongDownSlope < context.ema9Slope ∧ context.ema9Slope < sidewaysMinSlope)

/-- The structure of a strong fall. -/
def strongDownStructure : Bool :=
  context.hasLowerHigh && context.hasLowerLow && decide (context.currentPrice ≤ context.liveEma9)

/-- `matches_strong_down_fallback`. -/
def matchesStrongDownFallback : Bool :=
  decide (context.ema9Slope ≤ strongDownSlope) && !strongDownStructure context

/-- `matches_strong_down_regime`. -/
def matchesStrongDownRegime : Bool :=
  decide (context.ema9Slope ≤ strongDownSlope) && strongDownStructure context

end

/-! ## Transitions -/

/-- The Action requests. -/
inductive RegimeActionRequest where
  | startRegimeEvaluation (evaluationId : EvaluationId) (trigger : RegimeEvaluationTrigger)
      (sourceCandleId : CandleId)
  | applyRecommendedRegime (evaluationId : EvaluationId) (regimeType : RegimeType)
      (sourceCandleId : CandleId)
  deriving DecidableEq, Repr

/-- What a transition row requests. -/
inductive RegimeActionKind where
  | start (trigger : RegimeEvaluationTrigger)
  | apply (regimeType : RegimeType)

/-- `RegimeTransition`. -/
structure RegimeTransition where
  transitionId : String
  currentState : RegimeState
  eventType : RegimeEventType
  nextState : RegimeState
  guard : Option (RegimeEvaluationContext → Bool) := none
  kind : RegimeActionKind

/-- A recommendation row, which ends in the state of its type. -/
def recommendationRow (transitionId : String) (guard : RegimeEvaluationContext → Bool)
    (regimeType : RegimeType) : RegimeTransition where
  transitionId := transitionId
  currentState := .fourHourCandleEvaluation
  eventType := .evaluationReady
  nextState := .recommended regimeType
  guard := some guard
  kind := .apply regimeType

/-- A reevaluation row, from the state of a type. -/
def reevaluationRow (transitionId : String) (regimeType : RegimeType) : RegimeTransition where
  transitionId := transitionId
  currentState := .recommended regimeType
  eventType := .fourHourCandleClosed
  nextState := .fourHourCandleEvaluation
  kind := .start .fourHourCandleClose

/-- The recommendation rows, EA-002 to EA-008. -/
def recommendationRows : List RegimeTransition :=
  [recommendationRow "EA-002" matchesSidewaysRegime .type0,
    recommendationRow "EA-003" matchesWeakUpRegime .type1,
    recommendationRow "EA-004" matchesStrongUpFallback .type1,
    recommendationRow "EA-005" matchesStrongUpRegime .type2,
    recommendationRow "EA-006" matchesWeakDownRegime .type3,
    recommendationRow "EA-007" matchesStrongDownFallback .type3,
    recommendationRow "EA-008" matchesStrongDownRegime .type4]

/-- `TRANSITION_REGISTRY`. -/
def transitionRegistry : List RegimeTransition :=
  [{ transitionId := "EA-001"
     currentState := .initial
     eventType := .initialEvaluationRequested
     nextState := .fourHourCandleEvaluation
     kind := .start .initial }] ++ recommendationRows ++
  [reevaluationRow "EA-101" .type0, reevaluationRow "EA-102" .type1,
    reevaluationRow "EA-103" .type2, reevaluationRow "EA-104" .type3,
    reevaluationRow "EA-105" .type4]

/-- `get_transition_candidates`. -/
def transitionCandidates (state : RegimeState) (eventType : RegimeEventType) :
    List RegimeTransition :=
  transitionRegistry.filter fun transition =>
    decide (transition.currentState = state ∧ transition.eventType = eventType)

/-- `create_action`. -/
def RegimeTransition.createAction (transition : RegimeTransition) (event : RegimeEvent) :
    RegimeActionRequest :=
  match transition.kind with
  | .start trigger => .startRegimeEvaluation event.evaluationId trigger event.sourceCandleId
  | .apply regimeType => .applyRecommendedRegime event.evaluationId regimeType event.sourceCandleId

/-- `RegimeSTMResult`. -/
structure RegimeSTMResult where
  consumed : Bool
  transitionId : Option String
  stateBefore : RegimeState
  stateAfter : RegimeState
  actionRequests : List RegimeActionRequest
  evaluationId : EvaluationId
  deriving DecidableEq, Repr

/-- `_create_no_op_result`. -/
def noOpResult (event : RegimeEvent) (state : RegimeState) : RegimeSTMResult where
  consumed := false
  transitionId := none
  stateBefore := state
  stateAfter := state
  actionRequests := []
  evaluationId := event.evaluationId

/-- `_create_transition_result`. -/
def transitionResult (event : RegimeEvent) (stateBefore : RegimeState)
    (transition : RegimeTransition) : RegimeSTMResult where
  consumed := true
  transitionId := some transition.transitionId
  stateBefore := stateBefore
  stateAfter := transition.nextState
  actionRequests := [transition.createAction event]
  evaluationId := event.evaluationId

/-- `_validate_context`. -/
def validateRegimeContext (event : RegimeEvent) :
    Option RegimeEvaluationContext → Except TradingError Unit
  | none =>
      Except.require (event.eventType ≠ .evaluationReady)
        (.valueError "EVALUATION_READY requires context")
  | some context => do
      Except.require (event.evaluationId = context.evaluationId)
        (.valueError "event and context evaluation_id must match")
      Except.require (event.sourceCandleId = context.sourceCandleId)
        (.valueError "event and context source_candle_id must match")

/-- `matches`, of a transition row. -/
def RegimeTransition.matchesContext (transition : RegimeTransition) :
    Option RegimeEvaluationContext → Bool
  | none => transition.guard.isNone
  | some context => transition.guard.all fun guard => guard context

/-- `RegimeSTM.handle`: the result and the next state. -/
def handleRegime (state : RegimeState) (event : RegimeEvent)
    (context : Option RegimeEvaluationContext) : Except TradingError RegimeSTMResult :=
  match transitionCandidates state event.eventType with
  | [] => .ok (noOpResult event state)
  | candidates => do
      validateRegimeContext event context
      match candidates.filter (·.matchesContext context) with
      | [] => .ok (noOpResult event state)
      | [selected] => .ok (transitionResult event state selected)
      | _ => .error (.runtimeError "multiple transitions matched one event")

/-! ## The guards -/

theorem matchesContext_recommendationRow (transitionId : String)
    (guard : RegimeEvaluationContext → Bool) (regimeType : RegimeType)
    (context : RegimeEvaluationContext) :
    (recommendationRow transitionId guard regimeType).matchesContext (some context) =
      guard context := rfl

/-- Exactly one recommendation row matches a context. -/
theorem exactly_one_row (context : RegimeEvaluationContext) :
    ∃ row regimeType, recommendationRows.filter (·.matchesContext (some context)) = [row] ∧
      row.nextState = .recommended regimeType ∧ row.kind = .apply regimeType := by
  have hdown : strongDownSlope < sidewaysMinSlope := by
    norm_num [strongDownSlope, sidewaysMinSlope]
  have hside : sidewaysMinSlope < sidewaysMaxSlope := by
    norm_num [sidewaysMinSlope, sidewaysMaxSlope]
  have hup : sidewaysMaxSlope < strongUpSlope := by
    norm_num [sidewaysMaxSlope, strongUpSlope]
  simp only [recommendationRows, List.filter_cons, List.filter_nil, matchesContext_recommendationRow,
    matchesSidewaysRegime, matchesWeakUpRegime, matchesStrongUpFallback, matchesStrongUpRegime,
    matchesWeakDownRegime, matchesStrongDownFallback, matchesStrongDownRegime]
  -- The five intervals of the slope; the two outer ones have two rows each.
  rcases le_or_gt context.ema9Slope strongDownSlope with h₁ | h₁
  · have h₂ : context.ema9Slope < sidewaysMinSlope := h₁.trans_lt hdown
    have h₃ : context.ema9Slope < sidewaysMaxSlope := h₂.trans hside
    have h₄ : context.ema9Slope < strongUpSlope := h₃.trans hup
    rcases Bool.dichotomy (strongDownStructure context) with hstructure | hstructure
    · exact ⟨recommendationRow "EA-007" matchesStrongDownFallback .type3, .type3, by
        simp [hstructure, h₁, h₁.not_gt, h₂.not_ge, h₃.not_gt, h₄.not_ge], rfl, rfl⟩
    · exact ⟨recommendationRow "EA-008" matchesStrongDownRegime .type4, .type4, by
        simp [hstructure, h₁, h₁.not_gt, h₂.not_ge, h₃.not_gt, h₄.not_ge], rfl, rfl⟩
  rcases lt_or_ge context.ema9Slope sidewaysMinSlope with h₂ | h₂
  · have h₃ : context.ema9Slope < sidewaysMaxSlope := h₂.trans hside
    have h₄ : context.ema9Slope < strongUpSlope := h₃.trans hup
    exact ⟨recommendationRow "EA-006" matchesWeakDownRegime .type3, .type3, by
      simp [h₁, h₁.not_ge, h₂, h₂.not_ge, h₃.not_gt, h₄.not_ge], rfl, rfl⟩
  rcases le_or_gt context.ema9Slope sidewaysMaxSlope with h₃ | h₃
  · have h₄ : context.ema9Slope < strongUpSlope := h₃.trans_lt hup
    exact ⟨recommendationRow "EA-002" matchesSidewaysRegime .type0, .type0, by
      simp [h₁.not_ge, h₂, h₂.not_gt, h₃, h₃.not_gt, h₄.not_ge], rfl, rfl⟩
  rcases lt_or_ge context.ema9Slope strongUpSlope with h₄ | h₄
  · exact ⟨recommendationRow "EA-003" matchesWeakUpRegime .type1, .type1, by
      simp [h₁.not_ge, h₂.not_gt, h₃, h₃.not_ge, h₄, h₄.not_ge], rfl, rfl⟩
  rcases Bool.dichotomy (strongUpStructure context) with hstructure | hstructure
  · exact ⟨recommendationRow "EA-004" matchesStrongUpFallback .type1, .type1, by
      simp [hstructure, h₁.not_ge, h₂.not_gt, h₃.not_ge, h₄, h₄.not_gt], rfl, rfl⟩
  · exact ⟨recommendationRow "EA-005" matchesStrongUpRegime .type2, .type2, by
      simp [hstructure, h₁.not_ge, h₂.not_gt, h₃.not_ge, h₄, h₄.not_gt], rfl, rfl⟩

/-! ## Microsteps -/

/-- The machine waits for a trigger. -/
def RegimeState.Awaits : RegimeState → RegimeEvaluationTrigger → Prop
  | .initial, .initial => True
  | .recommended _, .fourHourCandleClose => True
  | _, _ => False

/-- The event of a trigger. -/
def RegimeEvaluationTrigger.eventType : RegimeEvaluationTrigger → RegimeEventType
  | .initial => .initialEvaluationRequested
  | .fourHourCandleClose => .fourHourCandleClosed

/-- A trigger the machine waits for starts an evaluation. -/
theorem handleRegime_start {state : RegimeState} {trigger : RegimeEvaluationTrigger}
    (event : RegimeEvent) (h : state.Awaits trigger) (hevent : event.eventType = trigger.eventType) :
    ∃ transitionId, handleRegime state event none = .ok
      { consumed := true
        transitionId := some transitionId
        stateBefore := state
        stateAfter := .fourHourCandleEvaluation
        actionRequests := [.startRegimeEvaluation event.evaluationId trigger event.sourceCandleId]
        evaluationId := event.evaluationId } := by
  obtain ⟨eventType, occurredAt, evaluationId, candle⟩ := event
  obtain rfl : eventType = trigger.eventType := hevent
  match state, trigger, h with
  | .initial, .initial, _ => exact ⟨"EA-001", rfl⟩
  | .recommended .type0, .fourHourCandleClose, _ => exact ⟨"EA-101", rfl⟩
  | .recommended .type1, .fourHourCandleClose, _ => exact ⟨"EA-102", rfl⟩
  | .recommended .type2, .fourHourCandleClose, _ => exact ⟨"EA-103", rfl⟩
  | .recommended .type3, .fourHourCandleClose, _ => exact ⟨"EA-104", rfl⟩
  | .recommended .type4, .fourHourCandleClose, _ => exact ⟨"EA-105", rfl⟩

/-- A started evaluation ends in the state of the recommended type. -/
theorem handleRegime_ready (event : RegimeEvent) (context : RegimeEvaluationContext)
    (hevent : event.eventType = .evaluationReady)
    (hid : event.evaluationId = context.evaluationId)
    (hcandle : event.sourceCandleId = context.sourceCandleId) :
    ∃ transitionId regimeType, handleRegime .fourHourCandleEvaluation event (some context) = .ok
      { consumed := true
        transitionId := some transitionId
        stateBefore := .fourHourCandleEvaluation
        stateAfter := .recommended regimeType
        actionRequests :=
          [.applyRecommendedRegime event.evaluationId regimeType event.sourceCandleId]
        evaluationId := event.evaluationId } := by
  obtain ⟨row, regimeType, hrows, hnext, hkind⟩ := exactly_one_row context
  have hcandidates : transitionCandidates .fourHourCandleEvaluation event.eventType =
      recommendationRows := by
    rw [hevent]
    rfl
  have hvalid : validateRegimeContext event (some context) = .ok () := by
    simp [validateRegimeContext, Except.require, hid, hcandle]
  refine ⟨row.transitionId, regimeType, ?_⟩
  have hresult : handleRegime .fourHourCandleEvaluation event (some context) =
      (validateRegimeContext event (some context) >>= fun _ =>
        match recommendationRows.filter (·.matchesContext (some context)) with
        | [] => .ok (noOpResult event .fourHourCandleEvaluation)
        | [selected] => .ok (transitionResult event .fourHourCandleEvaluation selected)
        | _ => .error (.runtimeError "multiple transitions matched one event")) := by
    rw [handleRegime, hcandidates]
    rfl
  rw [hresult, hvalid, hrows]
  simp only [Except.ok_bind, transitionResult, RegimeTransition.createAction, hnext, hkind]

end Trading
