import AutoTrader.Trading.Session.EventProcessor

/-!
# The version race

The context may change between a decision and its publication.  The decision is rolled
back then, and the claimed event waits again.

* `handle_eq_ok` — a decision remembers the state and the context version it is based on.
* `prepareMarketEventContext_eq_ok` — what preparation may have done to an event.
* `Harmless` — a raced call has left nothing behind.
* `versionRace_harmless_iff` — which events a race does no harm to.
-/

namespace Trading

/-! ## Decisions -/

theorem commit_eq_ok {event : TradingEvent} {context : TradingContextView}
    {state : TradingStateConfiguration} {selected : TransitionOutcome} {result : TradingSTMResult}
    (h : commit event context state selected = .ok result) :
    result.stateBefore = state ∧ result.contextVersion = context.version := by
  unfold commit at h
  split at h
  · cases h
    exact ⟨rfl, rfl⟩
  · cases h

theorem handleRegions_eq_ok {event : TradingEvent} {context : TradingContextView}
    {state : TradingStateConfiguration} {result : TradingSTMResult}
    (h : handleRegions state event context = .ok result) :
    result.stateBefore = state ∧ result.contextVersion = context.version := by
  obtain ⟨regionOne, -, h⟩ := Except.bind_eq_ok_iff.mp h
  simp only at h
  split at h
  · exact commit_eq_ok h
  · obtain ⟨selection, -, h⟩ := Except.bind_eq_ok_iff.mp h
    split at h
    · cases h
      exact ⟨rfl, rfl⟩
    · exact commit_eq_ok h

/-- A decision remembers what it is based on. -/
theorem handle_eq_ok {event : TradingEvent} {context : TradingContextView}
    {state : TradingStateConfiguration} {result : TradingSTMResult}
    (h : handle state event context = .ok result) :
    result.stateBefore = state ∧ result.contextVersion = context.version := by
  obtain ⟨outcome, -, h⟩ := Except.bind_eq_ok_iff.mp h
  cases outcome with
  | some outcome => exact commit_eq_ok h
  | none =>
      simp only at h
      split at h
      · cases h
        exact ⟨rfl, rfl⟩
      · exact handleRegions_eq_ok h

namespace EventController

variable {controller next : EventController} {event prepared : TradingEvent}

/-! ## Preparation -/

/-- The parts of the controller that preparation leaves alone. -/
structure SameMachine (controller next : EventController) : Prop where
  queue : next.queue = controller.queue
  stm : next.stm = controller.stm

theorem updateContextMarket_eq_ok {market : MarketEvaluationSnapshot} {time : Timestamp}
    (h : updateContextMarket market time controller = .ok ⟨⟩ next) :
    SameMachine controller next ∧
      next.latestMarketEvaluationVersion = controller.latestMarketEvaluationVersion := by
  unfold updateContextMarket at h
  simp only [Stateful.bind_run, Stateful.get_run] at h
  cases henriched : controller.enrichMarketEvaluationElapsed market time with
  | error error =>
      rw [henriched] at h
      cases h
  | ok enriched =>
      rw [henriched] at h
      cases h
      exact ⟨⟨rfl, rfl⟩, rfl⟩

/-- The retried order's entry conditions do not hold any more. -/
def preparationExpires (controller : EventController) (event : TradingEvent) : Bool :=
  match controller.retriedPreparation event with
  | none => false
  | some strategy =>
      match controller.enrichMarketEvaluationElapsed controller.context.market
          (controller.clock controller.ticks) with
      | .error _ => false
      | .ok enriched =>
          !signalHolds strategy
            ((controller.context.updateMarket enriched).view (controller.clock (controller.ticks + 1)))

/-- What the check of a retried preparation does. -/
theorem preparationSignalValid_run (strategy : StrategyType) :
    preparationSignalValid strategy controller =
      match controller.enrichMarketEvaluationElapsed controller.context.market
          (controller.clock controller.ticks) with
      | .error error => .error error { controller with ticks := controller.ticks + 1 }
      | .ok enriched =>
          .ok (signalHolds strategy ((controller.context.updateMarket enriched).view
              (controller.clock (controller.ticks + 1))))
            { controller with
              context := controller.context.updateMarket enriched
              ticks := controller.ticks + 1 + 1 } := by
  unfold preparationSignalValid readClock updateContextMarket
  simp only [Stateful.bind_run, Stateful.get_run, Stateful.modify_run, Stateful.pure_run]
  have hsame : ({ controller with ticks := controller.ticks + 1 } :
      EventController).enrichMarketEvaluationElapsed controller.context.market
        (controller.clock controller.ticks) =
      controller.enrichMarketEvaluationElapsed controller.context.market
        (controller.clock controller.ticks) := rfl
  rw [hsame]
  cases controller.enrichMarketEvaluationElapsed controller.context.market
    (controller.clock controller.ticks) <;> rfl

/-- What preparation without a replacement has done to an event and to the latest processed
version. -/
inductive PreparedAs (before after : ℕ) (event prepared : TradingEvent) : Prop
  /-- An event without an evaluation is unchanged. -/
  | kept (hmarket : event.market = none) (heq : prepared = event) (hversion : after = before)
  /-- An evaluation counts as processed. -/
  | observed (observation : MarketObservation) (hmarket : event.market = some observation)
      (hnew : before < observation.version) (hversion : after = observation.version)

theorem prepareWithoutEvaluation_eq_ok (hmarket : event.market = none)
    (h : prepareWithoutEvaluation event controller = .ok prepared next) :
    SameMachine controller next ∧ PreparedAs controller.latestMarketEvaluationVersion
      next.latestMarketEvaluationVersion event prepared := by
  unfold prepareWithoutEvaluation at h
  rw [Stateful.bind_run, Stateful.get_run] at h
  cases hwaiting : controller.waitingEvaluation with
  | some latest =>
      simp only [hwaiting] at h
      unfold readClock at h
      simp only [Stateful.bind_run, Stateful.get_run, Stateful.modify_run, Stateful.pure_run] at h
      generalize hupdate : updateContextMarket latest _ _ = result at h
      cases result with
      | error error updated => cases h
      | ok _ updated =>
      cases h
      obtain ⟨⟨hqueue, hstm⟩, hversion⟩ := updateContextMarket_eq_ok hupdate
      exact ⟨⟨hqueue, hstm⟩, .kept hmarket rfl hversion⟩
  | none =>
      simp only [hwaiting] at h
      split at h
      · obtain ⟨⟨⟩, updated, hupdate, h⟩ := Stateful.bind_eq_ok_iff.mp h
        cases h
        obtain ⟨hsame, hversion⟩ := updateContextMarket_eq_ok hupdate
        exact ⟨hsame, .kept hmarket rfl hversion⟩
      · cases h
        exact ⟨⟨rfl, rfl⟩, .kept hmarket rfl rfl⟩

theorem prepareMarketEvent_eq_ok {observation : MarketObservation}
    {hmarket : event.market = some observation}
    (h : prepareMarketEvent event observation hmarket controller = .ok prepared next) :
    SameMachine controller next ∧ PreparedAs controller.latestMarketEvaluationVersion
      next.latestMarketEvaluationVersion event prepared := by
  unfold prepareMarketEvent at h
  obtain ⟨_, _, hget, h⟩ := Stateful.bind_eq_ok_iff.mp h
  cases hget
  obtain ⟨_, _, hknown, h⟩ := Stateful.bind_eq_ok_iff.mp h
  obtain ⟨_, _, hnew, h⟩ := Stateful.bind_eq_ok_iff.mp h
  obtain ⟨enriched, _, henriched, h⟩ := Stateful.bind_eq_ok_iff.mp h
  have hstate : ∀ {condition : Prop} [Decidable condition] {error : TradingError} {u : Unit}
      {s t : EventController},
      Stateful.raising (Except.require condition error) s = .ok u t → condition ∧ t = s := by
    intro condition _ error u s t hrequire
    by_cases hcondition : condition
    · rw [Except.require, if_pos hcondition] at hrequire
      cases hrequire
      exact ⟨hcondition, rfl⟩
    · rw [Except.require, if_neg hcondition] at hrequire
      cases hrequire
  obtain ⟨-, rfl⟩ := hstate hknown
  obtain ⟨hnew, rfl⟩ := hstate hnew
  cases hok : enrichMarketEvaluationElapsed _ observation.evaluation event.occurredAt with
  | error error =>
      rw [hok] at henriched
      cases henriched
  | ok value =>
      rw [hok] at henriched
      cases henriched
      cases h
      exact ⟨⟨rfl, rfl⟩, .observed observation hmarket hnew rfl⟩

theorem prepareContext_eq_ok (h : prepareContext event controller = .ok prepared next) :
    SameMachine controller next ∧ PreparedAs controller.latestMarketEvaluationVersion
      next.latestMarketEvaluationVersion event prepared := by
  obtain ⟨_, _, _, _, _, _, _, _, _, market, _⟩ := event
  cases market with
  | none => exact prepareWithoutEvaluation_eq_ok rfl h
  | some observation => exact prepareMarketEvent_eq_ok h

/-- What preparation may have done to an event: it is prepared, unless it retries an
expired entry. -/
theorem prepareMarketEventContext_eq_ok
    (h : prepareMarketEventContext event controller = .ok prepared next) :
    SameMachine controller next ∧
      ((controller.preparationExpires event = false ∧
          PreparedAs controller.latestMarketEvaluationVersion
      next.latestMarketEvaluationVersion event prepared) ∨
        (controller.preparationExpires event = true ∧
          (∃ strategy, retryStrategy event.eventType = some strategy) ∧
          prepared.eventType = .orderPreparationExpired)) := by
  unfold prepareMarketEventContext at h
  rw [Stateful.bind_run, Stateful.get_run] at h
  cases hretried : controller.retriedPreparation event with
  | none =>
      simp only [hretried] at h
      obtain ⟨hsame, hprepared⟩ := prepareContext_eq_ok h
      exact ⟨hsame, .inl ⟨by simp only [preparationExpires, hretried], hprepared⟩⟩
  | some strategy =>
      simp only [hretried, Stateful.bind_run, preparationSignalValid_run] at h
      cases henriched : controller.enrichMarketEvaluationElapsed controller.context.market
          (controller.clock controller.ticks) with
      | error error =>
          rw [henriched] at h
          cases h
      | ok enriched =>
          simp only [henriched] at h
          cases hholds : signalHolds strategy ((controller.context.updateMarket enriched).view
              (controller.clock (controller.ticks + 1))) with
          | true =>
              simp only [hholds, if_true] at h
              obtain ⟨⟨hqueue, hstm⟩, hprepared⟩ := prepareContext_eq_ok h
              refine ⟨⟨hqueue, hstm⟩, .inl ⟨?_, ?_⟩⟩
              · simp only [preparationExpires, hretried, henriched, hholds, Bool.not_true]
              · exact hprepared
          | false =>
              simp only [hholds, Bool.false_eq_true, if_false] at h
              cases h
              refine ⟨⟨rfl, rfl⟩, .inr ⟨?_, ⟨strategy, ?_⟩, rfl⟩⟩
              · simp only [preparationExpires, hretried, henriched, hholds, Bool.not_false]
              · unfold retriedPreparation at hretried
                split at hretried
                · exact hretried
                · cases hretried

/-! ## One call -/

/-- How a call comes to a decision. -/
theorem decideNext_eq_ok {decision : Decision}
    (h : decideNext controller = .ok (some decision) next) :
    ∃ queue, SerialEventQueue.pop controller.queue = .ok (some decision.claimed) queue ∧
      next.queue = queue ∧ next.stm = decision.result.stateAfter ∧
      decision.result.stateBefore = controller.stm ∧
      ((controller.preparationExpires decision.claimed = false ∧
          PreparedAs controller.latestMarketEvaluationVersion
            next.latestMarketEvaluationVersion decision.claimed decision.prepared) ∨
        (controller.preparationExpires decision.claimed = true ∧
          (∃ strategy, retryStrategy decision.claimed.eventType = some strategy) ∧
          decision.prepared.eventType = .orderPreparationExpired)) := by
  obtain ⟨answer, popped, hpop, h⟩ := Stateful.bind_eq_ok_iff.mp h
  unfold onQueue at hpop
  cases hqueue : SerialEventQueue.pop controller.queue with
  | error error queue =>
      rw [hqueue] at hpop
      cases hpop
  | ok value queue =>
      rw [hqueue] at hpop
      cases hpop
      cases answer with
      | none => cases h
      | some claimed =>
          obtain ⟨prepared, middle, hprepared, h⟩ := Stateful.bind_eq_ok_iff.mp h
          unfold readClock at h
          simp only [Stateful.bind_run, Stateful.get_run, Stateful.modify_run,
            Stateful.pure_run] at h
          split at h
          · cases h
          · unfold commitDecision at h
            rw [Stateful.bind_run, Stateful.get_run] at h
            simp only [Stateful.bind_run] at h
            generalize hhandled : handle _ _ _ = handled at h
            cases handled with
            | error error => cases h
            | ok result =>
                cases h
                obtain ⟨hbefore, -⟩ := handle_eq_ok hhandled
                obtain ⟨⟨hqueueKept, hstmKept⟩, hcases⟩ :=
                  prepareMarketEventContext_eq_ok hprepared
                exact ⟨queue, rfl, hqueueKept, rfl, hbefore.trans hstmKept, hcases⟩

theorem onQueue_run {α : Type} (call : QueueM α) :
    onQueue call controller =
      match call controller.queue with
      | .ok answer queue => .ok answer { controller with queue }
      | .error error queue => .error error { controller with queue } := rfl

/-- A raced decision is rolled back, and its event is given back to the queue. -/
theorem publishDecision_raced {decision : Decision}
    (hraced : controller.context.version ≠ decision.result.contextVersion)
    (hstm : controller.stm = decision.result.stateAfter) :
    publishDecision decision controller =
      match SerialEventQueue.restoreClaimed decision.prepared controller.queue with
      | .ok _ queue =>
          .error contextVersionError { controller with stm := decision.result.stateBefore, queue }
      | .error error queue =>
          .error error { controller with stm := decision.result.stateBefore, queue } := by
  unfold publishDecision rollbackUnpublishedResult
  rw [Stateful.bind_run, Stateful.get_run]
  simp only [ne_eq, hraced, not_false_eq_true, if_true, Stateful.bind_run, Stateful.get_run, hstm,
    Except.require, Stateful.raising_ok, Stateful.modify_run, onQueue_run]
  cases SerialEventQueue.restoreClaimed decision.prepared controller.queue <;> rfl

theorem processNext_raced {race : TradingContext → TradingContext} {decision : Decision}
    (hdecided : decideNext controller = .ok (some decision) next) :
    processNext race controller =
      publishDecision decision { next with context := race next.context } := by
  unfold processNext
  simp only [Stateful.bind_run, hdecided, Stateful.modify_run]

/-! ## Harmless races -/

/-- A raced call that has raised and left nothing behind: the machine, the waiting events
and the processed versions are as before, and the next call claims the same event. -/
structure Harmless (before after : EventController) (error : TradingError) : Prop where
  error_eq : error = contextVersionError
  stm : after.stm = before.stm
  waiting : after.queue.pending.Perm before.queue.pending
  processed : after.latestMarketEvaluationVersion = before.latestMarketEvaluationVersion
  again : SerialEventQueue.pop after.queue = SerialEventQueue.pop before.queue

/-- The waiting events of a processor have different ranks. -/
theorem rank_ne {queue : SerialEventQueue} (h : queue.Sound none) {first second : TradingEvent}
    (hfirst : first ∈ queue.pending) (hsecond : second ∈ queue.pending) (hne : first ≠ second) :
    SerialEventQueue.rank first ≠ SerialEventQueue.rank second := by
  intro hrank
  have hnodup := h.numbers
  simp only [Option.toList_none, List.append_nil] at hnodup
  have hnumber : first.sequenceNumber = second.sequenceNumber :=
    congrArg (fun rank => (ofLex rank).2) hrank
  exact hne (List.inj_on_of_nodup_map hnodup hfirst hsecond hnumber)

/-- An event that waits again is claimed again, with the same queue left. -/
theorem pop_push_claim {queue : SerialEventQueue} {event : TradingEvent} (h : queue.Sound none)
    (hpop : SerialEventQueue.pop queue =
      .ok (some event) (SerialEventQueue.claim event queue)) (hevent : event ∈ queue.pending)
    (hle : ∀ other ∈ queue.pending, SerialEventQueue.rank event ≤ SerialEventQueue.rank other) :
    SerialEventQueue.pop (SerialEventQueue.push event (SerialEventQueue.claim event queue)) =
      SerialEventQueue.pop queue := by
  have hnodup : queue.pending.Nodup := by
    have hnumbers := h.numbers
    simp only [Option.toList_none, List.append_nil] at hnumbers
    exact hnumbers.of_map
  rw [hpop]
  have hmem : ∀ other, other ∈ (SerialEventQueue.push event
      (SerialEventQueue.claim event queue)).pending ↔ other ∈ queue.pending := by
    intro other
    simp only [SerialEventQueue.push, SerialEventQueue.claim, List.mem_append,
      List.mem_singleton, hnodup.mem_erase_iff]
    constructor
    · rintro (⟨-, hother⟩ | rfl)
      · exact hother
      · exact hevent
    · intro hother
      by_cases heq : other = event
      · exact .inr heq
      · exact .inl ⟨heq, hother⟩
  rcases SerialEventQueue.pop_run (SerialEventQueue.push event
      (SerialEventQueue.claim event queue)) with ⟨-, hempty, -⟩ | ⟨least, hleast, -, hleastLe, hrun⟩
  · have hin := (hmem event).mpr hevent
    rw [hempty] at hin
    exact absurd hin List.not_mem_nil
  · have hsame : least = event := by
      by_contra hne
      have hback := hleastLe event ((hmem event).mpr hevent)
      have hforth := hle least ((hmem least).mp hleast)
      exact rank_ne h ((hmem least).mp hleast) hevent hne (le_antisymm hback hforth)
    rw [hrun, hsame]
    congr 1
    simp only [SerialEventQueue.claim, SerialEventQueue.push]
    have hnot : event ∉ queue.pending.erase event := fun hin =>
      (hnodup.mem_erase_iff.mp hin).1 rfl
    rw [List.erase_append_right _ hnot]
    simp

/-- A race does no harm to an event exactly when it carries no evaluation, is not an
expired retry, and shares its identity with no other waiting event. -/
theorem versionRace_harmless_iff {race : TradingContext → TradingContext} {decision : Decision}
    (hqueue : ReachableQueue controller.queue none)
    (hdecided : decideNext controller = .ok (some decision) next)
    (hraced : (race next.context).version ≠ decision.result.contextVersion) :
    (∃ error after, processNext race controller = .error error after ∧
        Harmless controller after error) ↔
      decision.claimed.market = none ∧
        controller.preparationExpires decision.claimed = false ∧
        ∀ other ∈ controller.queue.pending, other ≠ decision.claimed →
          other.eventId ≠ decision.claimed.eventId := by
  obtain ⟨queue, hpop, hqueueNext, hstmNext, hbefore, hcases⟩ := decideNext_eq_ok hdecided
  have hsound := hqueue.sound
  obtain ⟨hclaimed, hle, rfl⟩ : decision.claimed ∈ controller.queue.pending ∧
      (∀ other ∈ controller.queue.pending, SerialEventQueue.rank decision.claimed ≤
        SerialEventQueue.rank other) ∧
      SerialEventQueue.claim decision.claimed controller.queue = queue := by
    rcases SerialEventQueue.pop_run controller.queue with ⟨-, -, hrun⟩ | ⟨event, hmem, -, hle, hrun⟩
    · rw [hrun] at hpop
      cases hpop
    · rw [hrun] at hpop
      cases hpop
      exact ⟨hmem, hle, rfl⟩
  have hnodup : controller.queue.pending.Nodup := by
    have hnumbers := hsound.numbers
    simp only [Option.toList_none, List.append_nil] at hnumbers
    exact hnumbers.of_map
  have hlacks : (SerialEventQueue.claim decision.claimed controller.queue).Lacks
        decision.claimed ↔
      ∀ other ∈ controller.queue.pending, other ≠ decision.claimed →
        other.eventId ≠ decision.claimed.eventId := by
    unfold SerialEventQueue.Lacks SerialEventQueue.claim
    simp only [hnodup.mem_erase_iff]
    exact ⟨fun h other hother hne => h other ⟨hne, hother⟩,
      fun h other hother => h other hother.2 hother.1⟩
  rw [processNext_raced hdecided,
    @publishDecision_raced { next with context := race next.context } decision hraced hstmNext]
  simp only [hqueueNext]
  rcases hcases with ⟨hvalid, hprepared⟩ | ⟨hexpired, ⟨strategy, hretry⟩, htype⟩
  · cases hprepared with
    | kept hmarket heq hversion =>
        rw [heq]
        have hknows : (SerialEventQueue.claim decision.claimed controller.queue).Knows
            decision.claimed := by
          obtain ⟨id, hid, hseen⟩ := hsound.known decision.claimed (by simp [hclaimed]) hmarket
          exact .inr ⟨id, hid, hseen⟩
        rcases SerialEventQueue.restoreClaimed_cases
            (SerialEventQueue.claim decision.claimed controller.queue) decision.claimed with
          ⟨hnot, message, hrun⟩ | ⟨-, hlacking, hrun⟩
        · rw [hrun]
          constructor
          · rintro ⟨error, after, herror, hharmless⟩
            cases herror
            exact absurd hharmless.error_eq (by simp [contextVersionError])
          · rintro ⟨-, -, hids⟩
            exact absurd ⟨hknows, hlacks.mpr hids⟩ hnot
        · rw [hrun]
          refine ⟨fun _ => ⟨hmarket, hvalid, hlacks.mp hlacking⟩, fun _ => ?_⟩
          refine ⟨_, _, rfl, rfl, hbefore, ?_, hversion, ?_⟩
          · simp only [SerialEventQueue.push, SerialEventQueue.claim]
            exact (List.perm_append_singleton decision.claimed _).trans
              (List.perm_cons_erase hclaimed).symm
          · exact pop_push_claim hsound hpop hclaimed hle
    | observed observation hmarket hnew hversion =>
        constructor
        · rintro ⟨error, after, herror, hharmless⟩
          have hprocessed := hharmless.processed
          have hkept : after.latestMarketEvaluationVersion =
              next.latestMarketEvaluationVersion := by
            split at herror <;> cases herror <;> rfl
          omega
        · rintro ⟨hnone, -⟩
          rw [hmarket] at hnone
          cases hnone
  · constructor
    · rintro ⟨error, after, herror, hharmless⟩
      have hwaiting := hharmless.waiting
      have hback := hwaiting.mem_iff.mpr hclaimed
      have hnot : decision.claimed ∉ controller.queue.pending.erase decision.claimed :=
        fun hin => (hnodup.mem_erase_iff.mp hin).1 rfl
      have hdiffer : decision.claimed ≠ decision.prepared := by
        intro heq
        rw [heq, htype] at hretry
        cases hretry
      rcases SerialEventQueue.restoreClaimed_cases
          (SerialEventQueue.claim decision.claimed controller.queue) decision.prepared with
        ⟨-, message, hrun⟩ | ⟨-, -, hrun⟩
      · rw [hrun] at herror
        cases herror
        exact absurd hback hnot
      · rw [hrun] at herror
        cases herror
        rcases List.mem_append.mp hback with hin | hin
        · exact absurd hin hnot
        · exact absurd (List.mem_singleton.mp hin) hdiffer
    · rintro ⟨-, hvalid, -⟩
      rw [hexpired] at hvalid
      cases hvalid

/-- The context after another thread has written to it. -/
def touched (context : TradingContext) : TradingContext :=
  { context with version := context.version + 1, pending_aligned := context.pending_aligned }

/-- A controller that waits for a lower touch, with one queued event. -/
def watching (event : TradingEvent) : EventController where
  queue := Stateful.finalState (SerialEventQueue.enqueue event false { })
  stm := .lowerTouchWatch
  context := {}
  marketSnapshotVersion := 1
  clock := fun _ => 0

theorem watching_reachable (event : TradingEvent) :
    ReachableQueue (watching event).queue none :=
  .enqueue event false (.start 10000 100000)

/-- A touch of the upper band, without an evaluation. -/
def upperTouch : TradingEvent where
  eventType := .upperBandTouched
  occurredAt := 0

/-- The first market evaluation of a session. -/
def firstEvaluation : TradingEvent where
  eventType := .marketDataUpdated
  occurredAt := 0
  eventId := some "market:1:kline"
  market := some ⟨{}, 1, by decide⟩

/-- What a call in the example controllers has decided. -/
def decidedVersion (controller : EventController) : Option ℕ :=
  match decideNext controller with
  | .ok (some decision) _ => some decision.result.contextVersion
  | _ => none

theorem decideNext_of_decidedVersion {version : ℕ}
    (h : decidedVersion controller = some version) :
    ∃ decision next, decideNext controller = .ok (some decision) next ∧
      decision.result.contextVersion = version := by
  unfold decidedVersion at h
  split at h
  · rename_i decision next hdecided
    exact ⟨decision, next, hdecided, Option.some.inj h⟩
  · cases h

/-- A race over an event without an evaluation is harmless. -/
theorem versionRace_harmless_upperTouch :
    ∃ error after, processNext touched (watching upperTouch) = .error error after ∧
      Harmless (watching upperTouch) after error := by
  obtain ⟨decision, next, hdecided, hversion⟩ :=
    @decideNext_of_decidedVersion (watching upperTouch) 0 (by decide +kernel)
  obtain ⟨queue, hpop, -⟩ := decideNext_eq_ok hdecided
  have hpending : (watching upperTouch).queue.pending = [upperTouch.withQueueIdentity 1] := by
    decide +kernel
  have hclaimed : decision.claimed = upperTouch.withQueueIdentity 1 := by
    rcases SerialEventQueue.pop_run (watching upperTouch).queue with
      ⟨-, -, hrun⟩ | ⟨event, hmem, -, -, hrun⟩
    · rw [hrun] at hpop
      cases hpop
    · rw [hrun] at hpop
      cases hpop
      rw [hpending] at hmem
      exact List.mem_singleton.mp hmem
  refine (versionRace_harmless_iff (watching_reachable upperTouch) hdecided ?_).mpr ⟨?_, rfl, ?_⟩
  · rw [hversion]
    exact Nat.succ_ne_zero _
  · rw [hclaimed]
    rfl
  · intro other hother hne
    rw [hpending] at hother
    exact absurd ((List.mem_singleton.mp hother).trans hclaimed.symm) hne

/-- A race over an evaluation is not: its version stays processed. -/
theorem versionRace_not_harmless :
    ¬ ∀ (race : TradingContext → TradingContext) (controller next : EventController)
        (decision : Decision),
      ReachableQueue controller.queue none → decideNext controller = .ok (some decision) next →
        (race next.context).version ≠ decision.result.contextVersion →
          ∃ error after, processNext race controller = .error error after ∧
            Harmless controller after error := by
  intro hclaim
  obtain ⟨decision, next, hdecided, hversion⟩ :=
    @decideNext_of_decidedVersion (watching firstEvaluation) 0 (by decide +kernel)
  obtain ⟨error, after, herror, hharmless⟩ := hclaim touched (watching firstEvaluation) next decision
    (watching_reachable firstEvaluation) hdecided (by
      rw [hversion]
      exact Nat.succ_ne_zero _)
  have hprocessed : (Stateful.finalState
      (processNext touched (watching firstEvaluation))).latestMarketEvaluationVersion = 1 := by
    decide +kernel
  rw [herror, Stateful.finalState_error, hharmless.processed] at hprocessed
  exact absurd hprocessed (by decide)

end EventController

end Trading
