import AutoTrader.Trading.Regime.Controller

/-!
# REGIME evaluations are all or nothing

However the market snapshot changes between its reads, a call either applies one complete
evaluation or changes no decision.

* `Idle` — a step that leaves the decisions alone.
* `AtRest` — the machine waits, and agrees with the recommendation and the last result; the
  applied candles go forward in time.
* `AllOrNothing` — a computation that keeps the controller at rest, and is quiet when it raises.
* `regime_law` — every run of calls.
-/

namespace Trading

open Stateful

variable {α β : Type}

/-! ## Steps that decide nothing -/

/-- The open time of the indicators goes with them. -/
def OpenTimeBound (s : RegimeController) : Prop :=
  ∀ indicators, s.indicatorSnapshot = some indicators →
    s.indicatorSourceCandleOpenTime = some indicators.sourceCandleId.openTime

/-- The machine, the recommendation and what was applied stay as they are. -/
structure Idle (s t : RegimeController) : Prop where
  state : t.state = s.state
  recommendedRegime : t.recommendedRegime = s.recommendedRegime
  lastRegimeResult : t.lastRegimeResult = s.lastRegimeResult
  latest : t.latestProcessedCandleOpenTime = s.latestProcessedCandleOpenTime
  processed : t.processedCandleIds = s.processedCandleIds
  consumed : t.consumed = s.consumed
  bound : OpenTimeBound s → OpenTimeBound t

theorem Idle.refl (s : RegimeController) : Idle s s :=
  ⟨rfl, rfl, rfl, rfl, rfl, rfl, id⟩

theorem Idle.trans {r s t : RegimeController} (h : Idle r s) (h' : Idle s t) : Idle r t :=
  ⟨h'.state.trans h.state, h'.recommendedRegime.trans h.recommendedRegime,
    h'.lastRegimeResult.trans h.lastRegimeResult, h'.latest.trans h.latest,
    h'.processed.trans h.processed, h'.consumed.trans h.consumed, fun hr => h'.bound (h.bound hr)⟩

theorem quiet_bind {m : RegimeM α} {f : α → RegimeM β} (hm : Relates Idle m)
    (hf : ∀ a, Relates Idle (f a)) : Relates Idle (m >>= f) :=
  Relates.bind (fun h h' => h.trans h') hm hf

theorem quiet_pure (a : α) : Relates Idle (pure a : RegimeM α) := fun s => Idle.refl s

theorem quiet_get : Relates Idle (get : RegimeM RegimeController) := fun s => Idle.refl s

theorem quiet_throw (error : RegimeError) : Relates Idle (throw error : RegimeM α) :=
  fun s => Idle.refl s

theorem quiet_fail (code : RegimeEvaluationFailureCode) (source : Option (ℕ × Option CandleId)) :
    Relates Idle (failEvaluation code source : RegimeM α) := fun s => Idle.refl s

theorem quiet_modify {f : RegimeController → RegimeController} (h : ∀ s, Idle s (f s)) :
    Relates Idle (modify f : RegimeM PUnit) := fun s => h s

variable (feed : MarketFeed) (formulas : IndicatorFormulas)

theorem quiet_readMarket (snapshot : ℕ) : Relates Idle (readMarket feed snapshot) :=
  fun _ => ⟨rfl, rfl, rfl, rfl, rfl, rfl, id⟩

theorem quiet_bindMarketSnapshot (snapshot : ℕ) : Relates Idle (bindMarketSnapshot snapshot) := by
  refine quiet_bind quiet_get fun controller => ?_
  split
  · exact quiet_modify fun _ => ⟨rfl, rfl, rfl, rfl, rfl, rfl, id⟩
  · split
    · exact quiet_pure _
    · exact quiet_fail _ _

theorem quiet_raiseCalculationFailure (snapshot version : ℕ) (code : RegimeEvaluationFailureCode)
    (candle : Option CandleId) (recordedAt : Timestamp) :
    Relates Idle (raiseCalculationFailure feed snapshot version code candle recordedAt :
      RegimeM α) := by
  refine quiet_bind (quiet_readMarket feed snapshot) fun market => ?_
  split
  · exact quiet_fail _ _
  · refine quiet_bind (quiet_modify fun _ => ⟨rfl, rfl, rfl, rfl, rfl, rfl, id⟩) fun _ => ?_
    refine quiet_bind (quiet_readMarket feed snapshot) fun market => ?_
    split
    · exact quiet_bind (quiet_modify fun _ => ⟨rfl, rfl, rfl, rfl, rfl, rfl, id⟩)
        fun _ => quiet_fail _ _
    · exact quiet_fail _ _

theorem IndicatorSnapshot.create_sourceCandleId {symbol : String} {price : ℚ} {version : ℕ}
    {candle : CandleId} {calculatedAt : Timestamp} {values : IndicatorValues}
    {indicators : IndicatorSnapshot}
    (h : IndicatorSnapshot.create symbol price version candle calculatedAt values =
      .ok indicators) : indicators.sourceCandleId = candle := by
  unfold IndicatorSnapshot.create at h
  split at h
  · split at h
    · cases h
      rfl
    · cases h
  · cases h

theorem quiet_calculate4hIndicators (snapshot : ℕ) :
    Relates Idle (calculate4hIndicators feed formulas snapshot) := by
  refine quiet_bind (quiet_bindMarketSnapshot snapshot) fun _ => ?_
  refine quiet_bind (quiet_readMarket feed snapshot) fun ready => ?_
  split
  · exact quiet_fail _ _
  refine quiet_bind (quiet_readMarket feed snapshot) fun market => ?_
  refine quiet_bind quiet_get fun controller => ?_
  split
  · exact quiet_fail _ _
  refine quiet_bind (quiet_readMarket feed snapshot) fun klines => ?_
  refine quiet_bind (quiet_readMarket feed snapshot) fun updated => ?_
  split
  · exact quiet_fail _ _
  split
  · exact quiet_raiseCalculationFailure feed _ _ _ _ _
  split
  · exact quiet_raiseCalculationFailure feed _ _ _ _ _
  split
  · exact quiet_throw _
  split
  · exact quiet_raiseCalculationFailure feed _ _ _ _ _
  · exact quiet_raiseCalculationFailure feed _ _ _ _ _
  · exact quiet_throw _
  refine quiet_bind (quiet_readMarket feed snapshot) fun final => ?_
  split
  · exact quiet_fail _ _
  refine quiet_bind (quiet_readMarket feed snapshot) fun symbol => ?_
  intro s
  rw [bind_run]
  cases hcreate : IndicatorSnapshot.create _ _ _ _ _ _ with
  | error error => exact Idle.refl s
  | ok indicators =>
      refine ⟨rfl, rfl, rfl, rfl, rfl, rfl, fun _ => ?_⟩
      intro other hother
      cases hother
      show some _ = some indicators.sourceCandleId.openTime
      rw [IndicatorSnapshot.create_sourceCandleId hcreate]
      rfl

theorem quiet_inferEvaluationTrigger : Relates Idle inferEvaluationTrigger := by
  refine quiet_bind quiet_get fun controller => ?_
  split
  · exact quiet_pure _
  · exact quiet_fail _ _
  · exact quiet_pure _

theorem quiet_checkPrepared (trigger : RegimeEvaluationTrigger) (indicators : IndicatorSnapshot) :
    Relates Idle (checkPrepared feed trigger indicators) := by
  refine quiet_bind quiet_get fun controller => ?_
  split
  · exact quiet_fail _ _
  split
  · exact quiet_fail _ _
  refine quiet_bind (quiet_readMarket feed _) fun market => ?_
  split
  · exact quiet_fail _ _
  split
  · exact quiet_fail _ _
  split
  · exact quiet_throw _
  split
  · exact quiet_fail _ _
  split
  · exact quiet_fail _ _
  split
  · exact quiet_fail _ _
  · exact quiet_pure _

theorem quiet_recordFailure (trigger : RegimeEvaluationTrigger)
    (code : RegimeEvaluationFailureCode) (source : Option (ℕ × Option CandleId)) (snapshot : ℕ) :
    Relates Idle (recordFailure feed trigger code source snapshot) :=
  quiet_bind (quiet_readMarket feed snapshot) fun _ =>
    quiet_modify fun _ => ⟨rfl, rfl, rfl, rfl, rfl, rfl, id⟩

/-! ## AtRest controllers -/

/-- The machine waits: nothing is recommended yet, or its state is the recommended type and
the type of the last result. -/
def StateAgrees (s : RegimeController) : Prop :=
  match s.state with
  | .initial => s.recommendedRegime = none ∧ s.lastRegimeResult = none
  | .fourHourCandleEvaluation => False
  | .recommended regimeType =>
      s.recommendedRegime = some regimeType ∧
        ∃ result, s.lastRegimeResult = some result ∧ result.recommendedType = regimeType ∧
          result.state = .recommended regimeType

/-- The open times of the candles that an `EVALUATION_READY` transition applied. -/
def appliedTimes (events : List RegimeEvent) : List Timestamp :=
  (events.filter fun event => decide (event.eventType = .evaluationReady)).map
    (·.sourceCandleId.openTime)

/-- Between two calls. -/
structure AtRest (s : RegimeController) : Prop where
  agrees : StateAgrees s
  bound : OpenTimeBound s
  ordered : (appliedTimes s.consumed).Pairwise (· < ·)
  latest : ∀ time ∈ appliedTimes s.consumed,
    ∃ latest, s.latestProcessedCandleOpenTime = some latest ∧ time ≤ latest

theorem AtRest.quiet {s t : RegimeController} (h : AtRest s) (hquiet : Idle s t) :
    AtRest t where
  agrees := by
    unfold StateAgrees
    rw [hquiet.state, hquiet.recommendedRegime, hquiet.lastRegimeResult]
    exact h.agrees
  bound := hquiet.bound h.bound
  ordered := by
    rw [hquiet.consumed]
    exact h.ordered
  latest := by
    rw [hquiet.consumed, hquiet.latest]
    exact h.latest

/-- A computation that keeps the controller at rest with a result, and is quiet when it
raises. -/
def AllOrNothing (m : RegimeM α) : Prop :=
  ∀ s, AtRest s → match m s with
    | .ok _ t => AtRest t ∧ t.lastRegimeResult ≠ none
    | .error _ t => Idle s t

theorem AllOrNothing.after_quiet {m : RegimeM α} {f : α → RegimeM β} (hm : Relates Idle m)
    (hf : ∀ a, AllOrNothing (f a)) : AllOrNothing (m >>= f) := by
  intro s hs
  have hquiet := hm s
  rw [bind_run]
  cases hrun : m s with
  | error error t =>
      rw [hrun] at hquiet
      exact hquiet
  | ok a t =>
      rw [hrun, finalState_ok] at hquiet
      have h := hf a t (hs.quiet hquiet)
      dsimp only
      cases hnext : f a t with
      | ok b u =>
          rw [hnext] at h
          exact h
      | error error u =>
          rw [hnext] at h
          exact hquiet.trans h

theorem AllOrNothing.of_raises {m : RegimeM α} (hquiet : Relates Idle m)
    (hraises : ∀ s a t, m s ≠ .ok a t) : AllOrNothing m := by
  intro s _
  have h := hquiet s
  cases hrun : m s with
  | ok a t => exact absurd hrun (hraises s a t)
  | error error t =>
      rw [hrun] at h
      exact h

theorem allOrNothing_fail (code : RegimeEvaluationFailureCode)
    (source : Option (ℕ × Option CandleId)) :
    AllOrNothing (failEvaluation code source : RegimeM α) :=
  AllOrNothing.of_raises (quiet_fail code source) (by intro s a t h; cases h)

/-! ## One evaluation -/

/-- What the checks before the first microstep have established. -/
structure Prepared (trigger : RegimeEvaluationTrigger) (indicators : IndicatorSnapshot)
    (s : RegimeController) : Prop where
  current : s.indicatorSnapshot = some indicators
  awaits : s.state.Awaits trigger
  later : ∀ latest, s.latestProcessedCandleOpenTime = some latest →
    latest < indicators.sourceCandleId.openTime

/-- The controller after an evaluation. -/
structure Applied (indicators : IndicatorSnapshot) (result : RegimeResult)
    (s t : RegimeController) : Prop where
  state : t.state = .recommended result.recommendedType
  recommendedRegime : t.recommendedRegime = some result.recommendedType
  lastRegimeResult : t.lastRegimeResult = some result
  resultState : result.state = .recommended result.recommendedType
  applied : appliedTimes t.consumed =
    appliedTimes s.consumed ++ [indicators.sourceCandleId.openTime]
  latest : t.latestProcessedCandleOpenTime = s.indicatorSourceCandleOpenTime
  current : t.indicatorSnapshot = s.indicatorSnapshot
  openTime : t.indicatorSourceCandleOpenTime = s.indicatorSourceCandleOpenTime

theorem handleStm_ok {s : RegimeController} {event : RegimeEvent}
    {context : Option RegimeEvaluationContext} {result : RegimeSTMResult}
    (h : handleRegime s.state event context = .ok result) (hconsumed : result.consumed = true) :
    handleStm event context s =
      .ok result { s with state := result.stateAfter, consumed := s.consumed ++ [event] } := by
  simp [handleStm, h, orRaise, Except.mapError, hconsumed, -bind_pure_comp]

theorem appliedTimes_append (front back : List RegimeEvent) :
    appliedTimes (front ++ back) = appliedTimes front ++ appliedTimes back := by
  simp [appliedTimes]

/-- Both microsteps and the commit succeed, one after the other. -/
theorem runMicrosteps_ok {trigger : RegimeEvaluationTrigger} {indicators : IndicatorSnapshot}
    {evaluationId : EvaluationId} {context : RegimeEvaluationContext} {s : RegimeController}
    (hid : context.evaluationId = evaluationId)
    (hcandle : context.sourceCandleId = indicators.sourceCandleId)
    (hawaits : s.state.Awaits trigger) :
    ∃ result t, runMicrosteps trigger indicators evaluationId context s = .ok result t ∧
      Applied indicators result s t := by
  subst hid
  obtain ⟨startId, hfirst⟩ := handleRegime_start
    ⟨trigger.eventType, indicators.calculatedAt, context.evaluationId,
      indicators.sourceCandleId⟩ hawaits rfl
  obtain ⟨readyId, regimeType, hsecond⟩ := handleRegime_ready
    ⟨.evaluationReady, indicators.calculatedAt, context.evaluationId,
      indicators.sourceCandleId⟩ context rfl rfl hcandle.symm
  have hversion : indicators.sourceMarketVersion ≠ 0 := indicators.version_pos.ne'
  have hnotReady : trigger.eventType ≠ .evaluationReady := by cases trigger <;> decide
  have hrun : ∃ result t, runMicrosteps trigger indicators context.evaluationId context s =
      .ok result t ∧ t =
        { s with
          state := .recommended regimeType
          consumed := s.consumed ++
            [⟨trigger.eventType, indicators.calculatedAt, context.evaluationId,
              indicators.sourceCandleId⟩] ++
            [⟨.evaluationReady, indicators.calculatedAt, context.evaluationId,
              indicators.sourceCandleId⟩]
          recommendedRegime := some regimeType
          lastRegimeResult := some result
          processedCandleIds := indicators.sourceCandleId :: s.processedCandleIds
          latestProcessedCandleOpenTime := s.indicatorSourceCandleOpenTime
          evaluationTraces := s.evaluationTraces ++
            [⟨trigger, indicators.sourceMarketVersion, some indicators.sourceCandleId,
              some regimeType, none⟩] } ∧
      result.recommendedType = regimeType ∧ result.state = .recommended regimeType := by
    simp only [runMicrosteps, bind_run, handleStm_ok hfirst rfl, requireAction,
      ne_eq, not_true_eq_false, if_false, pure_run, validateStartAction, hcandle, and_self,
      if_true]
    rw [handleStm_ok hsecond rfl]
    simp [validateRecommendationAction, hcandle, applyRecommendedRegime, orRaise,
      RegimeResult.validate, Except.require, Except.mapError, hversion, -bind_pure_comp]
  obtain ⟨result, t, hok, rfl, htype, hstate⟩ := hrun
  refine ⟨result, _, hok, ?_⟩
  subst htype
  refine ⟨rfl, rfl, rfl, hstate, ?_, rfl, rfl, rfl⟩
  rw [appliedTimes_append, appliedTimes_append]
  simp [appliedTimes, hnotReady]

theorem checkPrepared_ok {trigger : RegimeEvaluationTrigger} {indicators : IndicatorSnapshot}
    {s t : RegimeController} {snapshot : ℕ} (hs : AtRest s)
    (h : checkPrepared feed trigger indicators s = .ok snapshot t) :
    Prepared trigger indicators t := by
  have hagrees := hs.agrees
  simp only [checkPrepared, bind_run, get_run] at h
  cases hmarket : s.marketSnapshot with
  | none =>
      rw [hmarket] at h
      cases h
  | some bound =>
      simp only [hmarket] at h
      split at h
      · cases h
      rename_i hcurrent
      simp only [readMarket, bind_run, get_run, modify_run, pure_run] at h
      split at h
      · cases h
      split at h
      · cases h
      have htime := hs.bound indicators (not_not.mp hcurrent)
      simp only [htime] at h
      split at h
      · cases h
      rename_i hlater
      split at h
      · cases h
      rename_i hinitial
      split at h
      · cases h
      rename_i hclose
      cases h
      refine ⟨not_not.mp hcurrent, ?_, ?_⟩
      · -- A at rest machine is never in the middle of an evaluation.
        show s.state.Awaits trigger
        cases hstate : s.state with
        | initial => cases trigger <;> simp_all [RegimeState.Awaits]
        | fourHourCandleEvaluation => simp [StateAgrees, hstate] at hagrees
        | recommended regimeType => cases trigger <;> simp_all [RegimeState.Awaits]
      · intro latest hlatest
        have hlatest : s.latestProcessedCandleOpenTime = some latest := hlatest
        simpa [hlatest] using hlater

/-- An applied evaluation leaves the machine waiting again. -/
theorem Applied.atRest {trigger : RegimeEvaluationTrigger} {indicators : IndicatorSnapshot}
    {result : RegimeResult} {s t : RegimeController} (h : Applied indicators result s t)
    (hs : AtRest s) (hprepared : Prepared trigger indicators s) : AtRest t := by
  have htime := hs.bound indicators hprepared.current
  have hlatest : t.latestProcessedCandleOpenTime = some indicators.sourceCandleId.openTime :=
    h.latest.trans htime
  have hearlier : ∀ time ∈ appliedTimes s.consumed, time < indicators.sourceCandleId.openTime := by
    intro time hmem
    obtain ⟨latest, hsome, hle⟩ := hs.latest time hmem
    exact hle.trans_lt (hprepared.later latest hsome)
  refine ⟨?_, ?_, ?_, ?_⟩
  · simp only [StateAgrees, h.state]
    exact ⟨h.recommendedRegime, result, h.lastRegimeResult, rfl, h.resultState⟩
  · intro other hother
    rw [h.current] at hother
    rw [h.openTime]
    exact hs.bound other hother
  · rw [h.applied, List.pairwise_append]
    refine ⟨hs.ordered, List.pairwise_singleton _ _, ?_⟩
    intro time hmem last hlast
    rw [List.mem_singleton.mp hlast]
    exact hearlier time hmem
  · rw [h.applied]
    intro time hmem
    refine ⟨_, hlatest, ?_⟩
    rcases List.mem_append.mp hmem with hmem | hmem
    · exact (hearlier time hmem).le
    · exact (List.mem_singleton.mp hmem).le

theorem createEvaluationContext_ok {evaluationId : EvaluationId} {indicators : IndicatorSnapshot}
    {context : RegimeEvaluationContext}
    (h : createEvaluationContext evaluationId indicators = .ok context) :
    context.evaluationId = evaluationId ∧ context.sourceCandleId = indicators.sourceCandleId := by
  unfold createEvaluationContext at h
  split at h
  · cases h
    exact ⟨rfl, rfl⟩
  · cases h

theorem allOrNothing_runPreparedEvaluation (trigger : RegimeEvaluationTrigger)
    (indicators : IndicatorSnapshot) :
    AllOrNothing (runPreparedEvaluation feed trigger indicators) := by
  intro s hs
  have hquiet := quiet_checkPrepared feed trigger indicators s
  rw [runPreparedEvaluation, bind_run]
  cases hcheck : checkPrepared feed trigger indicators s with
  | error error t =>
      rw [hcheck] at hquiet
      exact hquiet
  | ok snapshot t =>
      rw [hcheck, finalState_ok] at hquiet
      have ht := hs.quiet hquiet
      have hprepared := checkPrepared_ok feed hs hcheck
      simp only [bind_run]
      cases hcontext : createEvaluationContext
          (.evaluation trigger indicators.sourceMarketVersion (some indicators.sourceCandleId))
          indicators with
      | error error => exact hquiet
      | ok context =>
          obtain ⟨hid, hcandle⟩ := createEvaluationContext_ok hcontext
          simp only [orRaise, Except.mapError, raising_ok, readMarket, bind_run, get_run,
            modify_run, pure_run]
          by_cases hversion : (feed snapshot t.reads).version = indicators.sourceMarketVersion
          · rw [if_neg (not_not.mpr hversion)]
            obtain ⟨result, u, hrun, happlied⟩ := runMicrosteps_ok
              (s := { t with reads := t.reads + 1 }) hid hcandle hprepared.awaits
            rw [hrun]
            have hread : AtRest { t with reads := t.reads + 1 } :=
              ht.quiet ⟨rfl, rfl, rfl, rfl, rfl, rfl, id⟩
            refine ⟨happlied.atRest hread ⟨hprepared.current, hprepared.awaits,
              hprepared.later⟩, ?_⟩
            rw [happlied.lastRegimeResult]
            exact Option.some_ne_none result
          · rw [if_pos hversion]
            exact hquiet.trans ⟨rfl, rfl, rfl, rfl, rfl, rfl, id⟩

/-! ## Attempts -/

theorem AllOrNothing.rethrow {m : RegimeM α} {handler : RegimeError → RegimeM α}
    (hm : AllOrNothing m) (hquiet : ∀ error, Relates Idle (handler error))
    (hraises : ∀ error s a t, handler error s ≠ .ok a t) :
    AllOrNothing (tryCatch m handler) := by
  intro s hs
  have h := hm s hs
  rw [tryCatch_run]
  cases hrun : m s with
  | ok a t =>
      rw [hrun] at h
      exact h
  | error error t =>
      rw [hrun] at h
      have hnext := hquiet error t
      dsimp only
      cases hhandler : handler error t with
      | ok a u => exact absurd hhandler (hraises error t a u)
      | error error u =>
          rw [hhandler] at hnext
          exact h.trans hnext

/-- What follows a decision only reads it. -/
theorem AllOrNothing.then_read {m : RegimeM α} {f : α → RegimeM β} (hm : AllOrNothing m)
    (hf : ∀ a s, s.lastRegimeResult ≠ none → ∃ b, f a s = .ok b s) : AllOrNothing (m >>= f) := by
  intro s hs
  have h := hm s hs
  rw [bind_run]
  cases hrun : m s with
  | error error t =>
      rw [hrun] at h
      exact h
  | ok a t =>
      rw [hrun] at h
      obtain ⟨b, hb⟩ := hf a t h.2
      dsimp only
      rw [hb]
      exact h

theorem allOrNothing_recommendRegime (snapshot : ℕ) (indicators : IndicatorSnapshot) :
    AllOrNothing (recommendRegime feed snapshot indicators) := by
  refine AllOrNothing.after_quiet quiet_inferEvaluationTrigger fun trigger => ?_
  refine AllOrNothing.then_read ?_ fun result s _ => ⟨result.recommendedType, rfl⟩
  refine (allOrNothing_runPreparedEvaluation feed trigger indicators).rethrow ?_ ?_
  · intro error
    cases error with
    | evaluation code source =>
        exact quiet_bind (quiet_recordFailure feed _ _ _ _) fun _ => quiet_throw _
    | other error => exact quiet_throw _
  · intro error s a t h
    cases error with
    | evaluation code source =>
        obtain ⟨_, u, _, hthrow⟩ := bind_eq_ok_iff.mp h
        cases hthrow
    | other error => cases h

theorem allOrNothing_withPrepared {m : RegimeM α} {indicators : IndicatorSnapshot}
    (hm : AllOrNothing m) : AllOrNothing (withPrepared indicators m) := by
  refine hm.rethrow ?_ ?_
  · intro error
    cases error <;> exact quiet_throw _
  · intro error s a t h
    cases error <;> cases h

theorem allOrNothing_attemptRecommendation (trigger : RegimeEvaluationTrigger) (snapshot : ℕ)
    (indicators : IndicatorSnapshot) :
    AllOrNothing (attemptRecommendation feed trigger snapshot indicators) := by
  refine AllOrNothing.after_quiet quiet_get fun controller => ?_
  split
  · exact allOrNothing_fail _ _
  refine AllOrNothing.after_quiet quiet_inferEvaluationTrigger fun expected => ?_
  split
  · exact allOrNothing_fail _ _
  refine (allOrNothing_recommendRegime feed snapshot indicators).then_read fun _ s hlast => ?_
  obtain ⟨result, hresult⟩ := Option.ne_none_iff_exists'.mp hlast
  exact ⟨result, by simp [hresult]⟩

theorem allOrNothing_attemptEvaluation (trigger : RegimeEvaluationTrigger) (snapshot : ℕ) :
    AllOrNothing (attemptEvaluation feed formulas trigger snapshot) :=
  AllOrNothing.after_quiet (quiet_calculate4hIndicators feed formulas snapshot) fun indicators =>
    allOrNothing_withPrepared (allOrNothing_attemptRecommendation feed trigger snapshot indicators)

theorem allOrNothing_attemptRebinding (previous : RegimeResult) (snapshot : ℕ)
    (indicators : IndicatorSnapshot) :
    AllOrNothing (attemptRebinding feed previous snapshot indicators) := by
  unfold attemptRebinding
  split
  · refine (allOrNothing_recommendRegime feed snapshot indicators).then_read fun _ s _ => ?_
    exact ⟨s.lastRegimeResult, rfl⟩
  · intro s hs
    simp only [bind_run, get_run]
    by_cases hmismatch : s.recommendedRegime ≠ some previous.recommendedType ∨
        s.state ≠ previous.state
    · rw [if_pos hmismatch]
      exact Idle.refl s
    · rw [if_neg hmismatch]
      obtain ⟨hrecommended, hstate⟩ := not_or.mp hmismatch
      rw [not_not] at hrecommended hstate
      cases hvalid : RegimeResult.validate _ with
      | error error => exact Idle.refl s
      | ok _ =>
          refine ⟨⟨?_, hs.bound, hs.ordered, hs.latest⟩, Option.some_ne_none _⟩
          have hagrees := hs.agrees
          unfold StateAgrees at hagrees ⊢
          -- The type is published, so the machine waits in the state of that type.
          cases hcase : s.state with
          | initial =>
              simp only [hcase, hrecommended] at hagrees
              exact absurd hagrees.1 (Option.some_ne_none _)
          | fourHourCandleEvaluation => simp only [hcase] at hagrees
          | recommended regimeType =>
              simp only [hcase, hrecommended] at hagrees
              obtain ⟨htype, -⟩ := hagrees
              simp only [Option.some.injEq] at htype
              subst htype
              exact ⟨hrecommended, _, rfl, rfl, hstate.symm.trans hcase⟩

theorem attemptRebinding_ok {previous : RegimeResult} {snapshot : ℕ}
    {indicators : IndicatorSnapshot} {s t : RegimeController} {result : Option RegimeResult}
    (h : attemptRebinding feed previous snapshot indicators s = .ok result t) :
    result = t.lastRegimeResult := by
  unfold attemptRebinding at h
  split at h
  · obtain ⟨_, u, _, hread⟩ := bind_eq_ok_iff.mp h
    cases hread
    rfl
  · obtain ⟨controller, u, hget, h⟩ := bind_eq_ok_iff.mp h
    split at h
    · cases h
    · obtain ⟨_, v, _, h⟩ := bind_eq_ok_iff.mp h
      cases h
      rfl

theorem withPrepared_ok {m : RegimeM α} {indicators : IndicatorSnapshot} {s t : RegimeController}
    {a : α} (h : withPrepared indicators m s = .ok a t) : m s = .ok a t := by
  rw [withPrepared, tryCatch_run] at h
  cases hrun : m s with
  | ok b u =>
      rw [hrun] at h
      exact h
  | error error u =>
      rw [hrun] at h
      cases error <;> cases h

theorem attemptReconciliation_ok {previous : RegimeResult} {snapshot : ℕ} {s t : RegimeController}
    {result : Option RegimeResult}
    (h : attemptReconciliation feed formulas previous snapshot s = .ok result t) :
    result = t.lastRegimeResult := by
  obtain ⟨indicators, u, _, h⟩ := bind_eq_ok_iff.mp h
  exact attemptRebinding_ok feed (withPrepared_ok h)

theorem allOrNothing_attemptReconciliation (previous : RegimeResult) (snapshot : ℕ) :
    AllOrNothing (attemptReconciliation feed formulas previous snapshot) :=
  AllOrNothing.after_quiet (quiet_calculate4hIndicators feed formulas snapshot) fun indicators =>
    allOrNothing_withPrepared (allOrNothing_attemptRebinding feed previous snapshot indicators)

/-! ## Calls -/

/-- A public call keeps the controller at rest, and is quiet when it returns `None` or raises. -/
def Decides (m : RegimeM (Option RegimeResult)) : Prop :=
  ∀ s, AtRest s → match m s with
    | .ok none t => Idle s t
    | .ok (some _) t => AtRest t
    | .error _ t => Idle s t

theorem Decides.atRest {m : RegimeM (Option RegimeResult)} (h : Decides m)
    {s : RegimeController} (hs : AtRest s) : AtRest (finalState (m s)) := by
  have h := h s hs
  cases hrun : m s with
  | error error t =>
      rw [hrun] at h
      exact hs.quiet h
  | ok result t =>
      rw [hrun] at h
      cases result with
      | none => exact hs.quiet h
      | some result => exact h

/-- A failure is recorded, and the call returns `None` or raises. -/
theorem failClosed_quiet (trigger : RegimeEvaluationTrigger) (snapshot traces : ℕ)
    (error : RegimeError) (s : RegimeController) :
    match failClosed feed trigger snapshot traces error s with
    | .ok none t => Idle s t
    | .ok (some _) _ => False
    | .error _ t => Idle s t := by
  cases error with
  | other error => exact Idle.refl s
  | evaluation code source =>
      simp only [failClosed, bind_run, get_run]
      split_ifs
      · have hrecord := quiet_recordFailure feed trigger code source snapshot s
        simp only [bind_run]
        cases hrun : recordFailure feed trigger code source snapshot s with
        | ok _ t =>
            rw [hrun] at hrecord
            exact hrecord
        | error error t =>
            rw [hrun] at hrecord
            exact hrecord
      · exact Idle.refl s

/-- An attempt and what follows its failure. -/
theorem decides_tryCatch {m : RegimeM (Option RegimeResult)}
    {handler : RegimeError → RegimeM (Option RegimeResult)} (hm : AllOrNothing m)
    (hsome : ∀ s, AtRest s → ∀ t, m s ≠ .ok none t) (hhandler : ∀ error, Decides (handler error)) :
    Decides (tryCatch m handler) := by
  intro s hs
  have h := hm s hs
  rw [tryCatch_run]
  cases hrun : m s with
  | ok result t =>
      rw [hrun] at h
      cases result with
      | none => exact absurd hrun (hsome s hs t)
      | some result => exact h.1
  | error error t =>
      rw [hrun] at h
      have hnext := hhandler error t (hs.quiet h)
      dsimp only
      cases hcatch : handler error t with
      | error error u =>
          rw [hcatch] at hnext
          exact h.trans hnext
      | ok result u =>
          rw [hcatch] at hnext
          cases result with
          | none => exact h.trans hnext
          | some result => exact hnext

theorem decides_failClosed (trigger : RegimeEvaluationTrigger) (snapshot traces : ℕ)
    (error : RegimeError) : Decides (failClosed feed trigger snapshot traces error) := by
  intro s _
  have h := failClosed_quiet feed trigger snapshot traces error s
  cases hrun : failClosed feed trigger snapshot traces error s with
  | error error t =>
      rw [hrun] at h
      exact h
  | ok result t =>
      rw [hrun] at h
      cases result with
      | none => exact h
      | some result => exact h.elim

theorem allOrNothing_some_attempt (trigger : RegimeEvaluationTrigger) (snapshot : ℕ) :
    AllOrNothing (some <$> attemptEvaluation feed formulas trigger snapshot) := by
  rw [← bind_pure_comp]
  exact (allOrNothing_attemptEvaluation feed formulas trigger snapshot).then_read
    fun result s _ => ⟨some result, rfl⟩

theorem some_attempt_ne_none (trigger : RegimeEvaluationTrigger) (snapshot : ℕ)
    (s t : RegimeController) :
    (some <$> attemptEvaluation feed formulas trigger snapshot) s ≠ .ok none t := by
  rw [← bind_pure_comp]
  intro h
  obtain ⟨result, u, _, h⟩ := bind_eq_ok_iff.mp h
  cases h

theorem decides_evaluateRegime (trigger : RegimeEvaluationTrigger) (snapshot : ℕ) :
    Decides (evaluateRegime feed formulas trigger snapshot) := by
  intro s hs
  have hsome := fun s (_ : AtRest s) => some_attempt_ne_none feed formulas trigger snapshot s
  refine decides_tryCatch (allOrNothing_some_attempt feed formulas trigger snapshot) hsome ?_ s hs
  intro error
  split
  · -- A stale version is prepared once more.
    intro t ht
    exact decides_tryCatch (allOrNothing_some_attempt feed formulas trigger snapshot) hsome
      (decides_failClosed feed trigger snapshot _) t ht
  · exact decides_failClosed feed trigger snapshot _ error

theorem decides_reconcileRegime (snapshot : ℕ) :
    Decides (reconcileRegime feed formulas snapshot) := by
  intro s hs
  simp only [reconcileRegime, bind_run, get_run]
  cases hlast : s.lastRegimeResult with
  | none => exact decides_evaluateRegime feed formulas .initial snapshot s hs
  | some previous =>
      have hattempt := allOrNothing_attemptReconciliation feed formulas previous snapshot
      refine decides_tryCatch hattempt ?_ (decides_failClosed feed _ snapshot _) s hs
      intro t ht u h
      have hdecided := hattempt t ht
      rw [h] at hdecided
      exact hdecided.2 (attemptReconciliation_ok feed formulas h).symm

/-- A public call. -/
inductive RegimeCall where
  | evaluate (trigger : RegimeEvaluationTrigger) (snapshot : ℕ)
  | reconcile (snapshot : ℕ)

/-- The method of a call. -/
def regimeCall : RegimeCall → RegimeM (Option RegimeResult)
  | .evaluate trigger snapshot => evaluateRegime feed formulas trigger snapshot
  | .reconcile snapshot => reconcileRegime feed formulas snapshot

theorem decides_regimeCall (call : RegimeCall) : Decides (regimeCall feed formulas call) := by
  cases call with
  | evaluate trigger snapshot => exact decides_evaluateRegime feed formulas trigger snapshot
  | reconcile snapshot => exact decides_reconcileRegime feed formulas snapshot

/-- The controller after a list of calls, from a fresh one. -/
def regimeRun (calls : List RegimeCall) : RegimeController :=
  runAll (calls.map (regimeCall feed formulas)) {}

theorem atRest_fresh : AtRest {} :=
  ⟨⟨rfl, rfl⟩, fun _ h => (Option.some_ne_none _ h.symm).elim, List.Pairwise.nil,
    fun _ h => (List.not_mem_nil h).elim⟩

theorem atRest_regimeRun (calls : List RegimeCall) : AtRest (regimeRun feed formulas calls) := by
  refine runAll_induction ?_ atRest_fresh
  intro call hmem s hs
  obtain ⟨source, _, rfl⟩ := List.mem_map.mp hmem
  exact (decides_regimeCall feed formulas source).atRest hs

/-- The candles that an `EVALUATION_READY` transition applied. -/
def appliedCandles (events : List RegimeEvent) : List CandleId :=
  (events.filter fun event => decide (event.eventType = .evaluationReady)).map (·.sourceCandleId)

/-- Evaluations are all or nothing, and once for each candle, in every run of calls. -/
theorem regime_law (calls : List RegimeCall) :
    StateAgrees (regimeRun feed formulas calls) ∧
      (∀ call t, regimeCall feed formulas call (regimeRun feed formulas calls) = .ok none t →
        t.state = (regimeRun feed formulas calls).state ∧
          t.recommendedRegime = (regimeRun feed formulas calls).recommendedRegime ∧
          t.processedCandleIds = (regimeRun feed formulas calls).processedCandleIds) ∧
      (appliedCandles (regimeRun feed formulas calls).consumed).Nodup ∧
      (appliedTimes (regimeRun feed formulas calls).consumed).Pairwise (· < ·) ∧
      recommendationRows.length = 7 ∧
      ∀ context, (recommendationRows.filter (·.matchesContext (some context))).length = 1 := by
  have hrest := atRest_regimeRun feed formulas calls
  refine ⟨hrest.agrees, ?_, ?_, hrest.ordered, rfl, ?_⟩
  · intro call t hrun
    have hquiet := decides_regimeCall feed formulas call _ hrest
    rw [hrun] at hquiet
    exact ⟨hquiet.state, hquiet.recommendedRegime, hquiet.processed⟩
  · refine List.Nodup.of_map CandleId.openTime ?_
    have htimes : (appliedCandles (regimeRun feed formulas calls).consumed).map
        CandleId.openTime = appliedTimes (regimeRun feed formulas calls).consumed := by
      rw [appliedCandles, List.map_map]
      rfl
    rw [htimes]
    exact hrest.ordered.imp fun h => ne_of_lt h
  · intro context
    obtain ⟨row, regimeType, hrow, -, -⟩ := exactly_one_row context
    rw [hrow]
    rfl

end Trading
