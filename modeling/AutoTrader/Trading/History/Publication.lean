import AutoTrader.Support.Dict
import AutoTrader.Support.State
import AutoTrader.Trading.History.Performance

/-!
# The publication of trades

`TradeHistoryController`: a finished trade is added to copies of the history and of the
performance, saved, and published with both at once.  A candidate that could not be saved
waits for a retry.

* `recordOrderExecution`, `recordReconciledExternalTrade`, `retryPendingPersistence` — the
  calls, against any clock and any outcome of the repository's saves.
* `Sound` — the published performance is the one of the published trades, and at most one
  candidate waits.
* `PublicationStep` — what a single call does to the published state and to the candidate.
* `CallResult` — what each call returns or raises, by what waits and by what the save and the
  stabilization of the performance give.
* `publication_law` — all of it holds in every run, with every failure.
-/

namespace Trading

open Arithmetic

variable {ctx : DecimalContext}

/-- `_TradeHistoryLoadState`: what is published together. -/
structure TradeHistoryLoadState (ctx : DecimalContext) where
  tradeHistory : TradeHistory ctx
  performance : Performance ctx

/-- `_PendingPublication`. -/
structure PendingPublication (ctx : DecimalContext) where
  trade : Trade ctx
  state : TradeHistoryLoadState ctx

/-- What the calls meet outside: the readings of the clock, the outcomes of the saves of
the repository, and whether there is an observer. -/
structure HistoryEnvironment where
  clock : ℕ → Except TradingError Timestamp
  saveTrade : ℕ → Except TradingError Unit
  hasObserver : Bool

/-- What happens outside, or for others to see. -/
inductive PublicationEvent (ctx : DecimalContext) where
  | saved (trade : Trade ctx)
  | published (trade : Trade ctx) (state : TradeHistoryLoadState ctx)
  | notified (trade : Trade ctx) (performance : Performance ctx)

/-- The controller, with the readings and saves so far and what happened. -/
structure TradeHistoryController (ctx : DecimalContext) where
  state : TradeHistoryLoadState ctx
  pendingPublications : List (String × PendingPublication ctx) := []
  clockReadings : ℕ := 0
  saves : ℕ := 0
  events : List (PublicationEvent ctx) := []

/-- `load_trade_history` of the trades of the repository, on a day. -/
def TradeHistoryLoadState.load (trades : List (Trade ctx)) (today : ℤ) :
    Except TradingError (TradeHistoryLoadState ctx) := do
  let tradeHistory ← TradeHistory.ofTrades trades
  let performance ← Performance.create tradeHistory.trades today
  .ok ⟨tradeHistory, performance⟩

/-- A method of the controller. -/
abbrev HistoryM (ctx : DecimalContext) := EStateM TradingError (TradeHistoryController ctx)

namespace TradeHistoryController

open Stateful

/-! ## The calls -/

section

variable (environment : HistoryEnvironment)

/-- The date that a reading of the clock gives. -/
def kstDateAt (reading : ℕ) : Except TradingError ℤ := (environment.clock reading).map kstDate

/-- `_read_current_kst_date`. -/
def readCurrentKstDate : HistoryM ctx ℤ := do
  let controller ← get
  modify fun controller => { controller with clockReadings := controller.clockReadings + 1 }
  raising (kstDateAt environment controller.clockReadings)

/-- `Performance.apply_new_trade`. -/
def applyNewTrade (performance : Performance ctx) (trade : Trade ctx) :
    HistoryM ctx (Performance ctx) :=
  match performance.existing trade with
  | some existing =>
      if existing = trade then pure performance
      else throw (.valueError s!"order_id {trade.orderId} has conflicting trade content")
  | none => do
      let today ← readCurrentKstDate environment
      raising (Performance.create (performance.trades ++ [trade]) today)

/-- What the stabilization leaves of the performance, which it refreshes in place. -/
structure Stabilized (ctx : DecimalContext) where
  performance : Performance ctx
  clockReadings : ℕ
  outcome : Except TradingError Unit

/-- `_stabilize_performance_account_day`: a number of attempts, each of which reads the
date before, inside and after `get_performance`. -/
def stabilizePerformanceAccountDay :
    ℕ → Performance ctx → ℕ → Stabilized ctx
  | 0, performance, readings =>
      ⟨performance, readings,
        .error (.runtimeError "performance account day could not be stabilized")⟩
  | attempts + 1, performance, readings =>
      match kstDateAt environment readings with
      | .error error => ⟨performance, readings + 1, .error error⟩
      | .ok dayBefore =>
          match kstDateAt environment (readings + 1) with
          | .error error => ⟨performance, readings + 2, .error error⟩
          | .ok today =>
              match performance.atDate today with
              | .error error => ⟨performance, readings + 2, .error error⟩
              | .ok current =>
                  match kstDateAt environment (readings + 2) with
                  | .error error => ⟨current, readings + 3, .error error⟩
                  | .ok dayAfter =>
                      if dayBefore = dayAfter then ⟨current, readings + 3, .ok ()⟩
                      else stabilizePerformanceAccountDay attempts current (readings + 3)

/-- A candidate with the performance that the stabilization left. -/
def refreshed (candidate : PendingPublication ctx) (performance : Performance ctx) :
    PendingPublication ctx :=
  { candidate with state := { candidate.state with performance } }

/-- The save of a candidate and the stabilization of its performance. -/
def persist (candidate : PendingPublication ctx) (controller : TradeHistoryController ctx) :
    PendingPublication ctx × Except TradingError Unit × TradeHistoryController ctx :=
  match environment.saveTrade controller.saves with
  | .error error => (candidate, .error error, { controller with saves := controller.saves + 1 })
  | .ok () =>
      let stabilized := stabilizePerformanceAccountDay environment 2 candidate.state.performance
        controller.clockReadings
      (refreshed candidate stabilized.performance, stabilized.outcome,
        { controller with
          saves := controller.saves + 1
          clockReadings := stabilized.clockReadings
          events := controller.events ++ [.saved candidate.trade] })

/-- The events of `_notify_trade_update`; a failure of the observer stays with it. -/
def notification (candidate : PendingPublication ctx) : List (PublicationEvent ctx) :=
  if environment.hasObserver then [.notified candidate.trade candidate.state.performance] else []

/-- The exchange of the published state, and the notification. -/
def publish (candidate : PendingPublication ctx) (controller : TradeHistoryController ctx) :
    TradeHistoryController ctx :=
  { controller with
    state := candidate.state
    events := controller.events ++
      .published candidate.trade candidate.state :: notification environment candidate }

/-- The candidate of a trade: the copies of both, with the trade added.  The trade of an
order that is published already has none. -/
def prepareCandidate (trade : Trade ctx) : HistoryM ctx (Option (PendingPublication ctx)) := do
  let controller ← get
  let published := controller.state.tradeHistory.trades
  let history ← raising (TradeHistory.ofTrades published)
  let nextHistory ← raising (history.addTrade trade)
  if nextHistory.trades.length = published.length then pure none
  else do
    let today ← readCurrentKstDate environment
    let performance ← raising (Performance.create published today)
    let nextPerformance ← applyNewTrade environment performance trade
    pure (some ⟨trade, nextHistory, nextPerformance⟩)

/-- The try block of `_publish_completed_trade`, with the publication after it. -/
def persistCandidate (candidate : PendingPublication ctx) : HistoryM ctx (Trade ctx) :=
  fun controller =>
    match persist environment candidate controller with
    | (candidate, .error error, next) =>
        .error error { next with
          pendingPublications :=
            Dict.insert candidate.trade.orderId candidate next.pendingPublications }
    | (candidate, .ok (), next) => .ok candidate.trade (publish environment candidate next)

/-- `_publish_completed_trade`. -/
def publishCompletedTrade (trade : Trade ctx) : HistoryM ctx (Trade ctx) := do
  let controller ← get
  raising (Except.require (controller.pendingPublications.isEmpty = true)
    (.runtimeError "pending trade persistence blocks publication"))
  match ← prepareCandidate environment trade with
  | none =>
      match controller.state.tradeHistory.find trade.orderId with
      | some published => pure published
      | none => throw .stopIteration
  | some candidate => persistCandidate environment candidate

/-- `record_order_execution`. -/
def recordOrderExecution (order : Order ctx) (summary : ExecutionSummary ctx)
    (allocatedCostBasis : Option ℚ) : HistoryM ctx (Trade ctx) := do
  let controller ← get
  raising (Except.require (controller.pendingPublications.isEmpty = true)
    (.runtimeError "pending trade persistence blocks new execution records"))
  let trade ← raising (Trading.recordOrderExecution order summary allocatedCostBasis)
  publishCompletedTrade environment trade

/-- `record_reconciled_external_trade`. -/
def recordReconciledExternalTrade (trade : Trade ctx) : HistoryM ctx (Trade ctx) := do
  raising (Except.require (trade.schemaVersion = .v4 ∧ trade.exitReason = some .externalManual)
    (.valueError "external reconciliation requires v4 SELL"))
  publishCompletedTrade environment trade

/-- The save of a waiting candidate is tried again. -/
def retryCandidate (orderId : String) (candidate : PendingPublication ctx) :
    HistoryM ctx (Trade ctx) :=
  fun controller =>
    match persist environment candidate controller with
    | (candidate, .error error, next) =>
        .error error { next with
          pendingPublications := Dict.insert orderId candidate next.pendingPublications }
    | (candidate, .ok (), next) =>
        .ok candidate.trade { publish environment candidate next with
          pendingPublications := Dict.erase orderId next.pendingPublications }

/-- `retry_pending_persistence`. -/
def retryPendingPersistence (orderId : String) : HistoryM ctx (Trade ctx) := do
  raising (Except.require (orderId ≠ "" ∧ orderId.toList.all Char.isDigit = true)
    (.valueError "order_id must be a positive integer string"))
  let controller ← get
  match controller.pendingPublications.lookup orderId with
  | none => throw .keyError
  | some candidate => retryCandidate environment orderId candidate

end

/-- A call of the controller. -/
inductive HistoryCall (ctx : DecimalContext) where
  | recordOrderExecution (order : Order ctx) (summary : ExecutionSummary ctx)
      (allocatedCostBasis : Option ℚ)
  | recordReconciledExternalTrade (trade : Trade ctx)
  | retryPendingPersistence (orderId : String)

/-- What a call does. -/
def HistoryCall.call (environment : HistoryEnvironment) :
    HistoryCall ctx → HistoryM ctx (Trade ctx)
  | .recordOrderExecution order summary allocatedCostBasis =>
      TradeHistoryController.recordOrderExecution environment order summary allocatedCostBasis
  | .recordReconciledExternalTrade trade =>
      TradeHistoryController.recordReconciledExternalTrade environment trade
  | .retryPendingPersistence orderId =>
      TradeHistoryController.retryPendingPersistence environment orderId

/-- A sequence of calls; one that raises does not stop the next. -/
def runCalls (environment : HistoryEnvironment) (calls : List (HistoryCall ctx))
    (controller : TradeHistoryController ctx) : TradeHistoryController ctx :=
  runAll (calls.map (HistoryCall.call environment)) controller

/-! ## What is published and what waits -/

end TradeHistoryController

/-- The performance is the one of the trades. -/
structure TradeHistoryLoadState.Sound (state : TradeHistoryLoadState ctx) : Prop where
  trades : state.performance.trades = state.tradeHistory.trades
  aggregated : state.performance.Aggregated

theorem TradeHistoryLoadState.sound_of_load {trades : List (Trade ctx)} {today : ℤ}
    {state : TradeHistoryLoadState ctx} (h : load trades today = .ok state) : state.Sound := by
  obtain ⟨history, -, h⟩ := Except.bind_eq_ok_iff.mp h
  obtain ⟨performance, hperformance, h⟩ := Except.bind_eq_ok_iff.mp h
  cases h
  obtain ⟨htrades, -, haggregated⟩ := Performance.create_eq_ok hperformance
  exact ⟨htrades, haggregated⟩

/-- A candidate is what is published with its trade added. -/
structure PendingPublication.Extends (candidate : PendingPublication ctx)
    (state : TradeHistoryLoadState ctx) : Prop where
  trades : candidate.state.tradeHistory.trades = state.tradeHistory.trades ++ [candidate.trade]
  sound : candidate.state.Sound

namespace TradeHistoryController

open Stateful

variable {environment : HistoryEnvironment} {controller next : TradeHistoryController ctx}

/-- The trades whose candidates wait. -/
def waiting (controller : TradeHistoryController ctx) : List (Trade ctx) :=
  controller.pendingPublications.map (·.2.trade)

/-- The published performance is the one of the published trades, and at most one candidate
waits, under its order. -/
structure Sound (controller : TradeHistoryController ctx) : Prop where
  state : controller.state.Sound
  pending : controller.pendingPublications = [] ∨
    ∃ candidate : PendingPublication ctx,
      controller.pendingPublications = [(candidate.trade.orderId, candidate)] ∧
      candidate.Extends controller.state

/-! ### The preparation of a candidate -/

/-- Nothing happened but readings of the clock. -/
structure OnlyReads (controller next : TradeHistoryController ctx) : Prop where
  state : next.state = controller.state
  pending : next.pendingPublications = controller.pendingPublications
  events : next.events = controller.events

theorem OnlyReads.refl (controller : TradeHistoryController ctx) :
    OnlyReads controller controller := ⟨rfl, rfl, rfl⟩

theorem OnlyReads.trans {first second third : TradeHistoryController ctx}
    (h : OnlyReads first second) (h' : OnlyReads second third) : OnlyReads first third :=
  ⟨h'.state.trans h.state, h'.pending.trans h.pending, h'.events.trans h.events⟩

theorem onlyReads_bind {α β : Type} {m : HistoryM ctx α} {f : α → HistoryM ctx β}
    (hm : Relates OnlyReads m) (hf : ∀ a, Relates OnlyReads (f a)) :
    Relates OnlyReads (m >>= f) :=
  Relates.bind (fun h h' => h.trans h') hm hf

theorem onlyReads_raising {α : Type} (outcome : Except TradingError α) :
    Relates OnlyReads (raising outcome : HistoryM ctx α) := by
  intro controller
  cases outcome <;> exact OnlyReads.refl controller

theorem onlyReads_readCurrentKstDate :
    Relates OnlyReads (readCurrentKstDate environment : HistoryM ctx ℤ) := by
  intro controller
  rw [readCurrentKstDate, bind_run, get_run]
  dsimp only
  rw [bind_run, modify_run]
  dsimp only
  cases kstDateAt environment controller.clockReadings <;> exact ⟨rfl, rfl, rfl⟩

theorem onlyReads_applyNewTrade (performance : Performance ctx) (trade : Trade ctx) :
    Relates OnlyReads (applyNewTrade environment performance trade) := by
  unfold applyNewTrade
  split
  · split
    · exact fun controller => OnlyReads.refl controller
    · exact fun controller => OnlyReads.refl controller
  · exact onlyReads_bind onlyReads_readCurrentKstDate fun today => onlyReads_raising _

theorem onlyReads_prepareCandidate (trade : Trade ctx) :
    Relates OnlyReads (prepareCandidate environment trade) := by
  refine onlyReads_bind (fun controller => OnlyReads.refl controller) fun read => ?_
  refine onlyReads_bind (onlyReads_raising _) fun history => ?_
  refine onlyReads_bind (onlyReads_raising _) fun nextHistory => ?_
  split
  · exact fun controller => OnlyReads.refl controller
  · refine onlyReads_bind onlyReads_readCurrentKstDate fun today => ?_
    refine onlyReads_bind (onlyReads_raising _) fun performance => ?_
    refine onlyReads_bind (onlyReads_applyNewTrade _ _) fun nextPerformance => ?_
    exact fun controller => OnlyReads.refl controller

theorem raising_eq_ok_iff {α : Type} {outcome : Except TradingError α} {value : α} :
    (raising outcome : HistoryM ctx α) controller = .ok value next ↔
      outcome = .ok value ∧ controller = next := by
  cases outcome with
  | ok a =>
      rw [raising_ok]
      constructor
      · intro h; cases h; exact ⟨rfl, rfl⟩
      · rintro ⟨h, rfl⟩; cases h; rfl
  | error e => simp

/-- The performance of a new trade. -/
theorem applyNewTrade_eq_ok {performance updated : Performance ctx} {trade : Trade ctx}
    (hnew : performance.existing trade = none)
    (h : applyNewTrade environment performance trade controller = .ok updated next) :
    updated.trades = performance.trades ++ [trade] ∧ updated.Aggregated := by
  rw [applyNewTrade, hnew] at h
  obtain ⟨today, middle, -, h⟩ := bind_eq_ok_iff.mp h
  obtain ⟨htrades, -, haggregated⟩ := Performance.create_eq_ok (raising_eq_ok_iff.mp h).1
  exact ⟨htrades, haggregated⟩

/-- A prepared candidate extends what is published. -/
theorem prepareCandidate_eq_some {trade : Trade ctx} {candidate : PendingPublication ctx}
    (h : prepareCandidate environment trade controller = .ok (some candidate) next) :
    candidate.trade = trade ∧ candidate.Extends controller.state := by
  rw [prepareCandidate, bind_run, get_run] at h
  dsimp only at h
  obtain ⟨history, first, hcopied, h⟩ := bind_eq_ok_iff.mp h
  obtain ⟨hhistory, rfl⟩ := raising_eq_ok_iff.mp hcopied
  rw [TradeHistory.ofTrades_trades] at hhistory
  cases hhistory
  obtain ⟨nextHistory, second, hadded, h⟩ := bind_eq_ok_iff.mp h
  obtain ⟨hadd, rfl⟩ := raising_eq_ok_iff.mp hadded
  rcases TradeHistory.addTrade_eq_ok hadd with ⟨rfl, -⟩ | ⟨htrades, hnew⟩
  · rw [if_pos rfl] at h
    cases h
  · rw [if_neg (by simp [htrades])] at h
    obtain ⟨today, third, -, h⟩ := bind_eq_ok_iff.mp h
    obtain ⟨performance, fourth, hcreated, h⟩ := bind_eq_ok_iff.mp h
    obtain ⟨hperformance, rfl⟩ := raising_eq_ok_iff.mp hcreated
    obtain ⟨hcounted, -, -⟩ := Performance.create_eq_ok hperformance
    obtain ⟨updated, fifth, hupdated, h⟩ := bind_eq_ok_iff.mp h
    cases h
    obtain ⟨hupdatedTrades, haggregated⟩ := applyNewTrade_eq_ok
      (by rw [Performance.existing, hcounted]; exact hnew) hupdated
    exact ⟨rfl, htrades, ⟨by rw [hupdatedTrades, hcounted, htrades], haggregated⟩⟩

/-! ### The save of a candidate -/

/-- The stabilization keeps the trades of the performance. -/
theorem stabilizePerformanceAccountDay_sound (attempts : ℕ) {performance : Performance ctx}
    (h : performance.Aggregated) (readings : ℕ) :
    (stabilizePerformanceAccountDay environment attempts performance readings).performance.trades =
        performance.trades ∧
      (stabilizePerformanceAccountDay environment attempts performance
        readings).performance.Aggregated := by
  induction attempts generalizing performance readings with
  | zero => exact ⟨rfl, h⟩
  | succ attempts ih =>
      unfold stabilizePerformanceAccountDay
      split
      · exact ⟨rfl, h⟩
      split
      · exact ⟨rfl, h⟩
      split
      · exact ⟨rfl, h⟩
      rename_i current hcurrent
      obtain ⟨htrades, hcurrentAggregated⟩ := h.of_atDate hcurrent
      split
      · exact ⟨htrades, hcurrentAggregated⟩
      split
      · exact ⟨htrades, hcurrentAggregated⟩
      · obtain ⟨hlast, hlastAggregated⟩ := ih hcurrentAggregated (readings + 3)
        exact ⟨hlast.trans htrades, hlastAggregated⟩

/-- What a save and the stabilization after it leave. -/
structure Persisted (controller : TradeHistoryController ctx) (candidate : PendingPublication ctx)
    (left : PendingPublication ctx) (outcome : Except TradingError Unit)
    (next : TradeHistoryController ctx) : Prop where
  trade : left.trade = candidate.trade
  candidateExtends : left.Extends controller.state
  state : next.state = controller.state
  pending : next.pendingPublications = controller.pendingPublications
  events : next.events = controller.events ∨
    next.events = controller.events ++ [.saved candidate.trade]
  saved : outcome = .ok () → next.events = controller.events ++ [.saved candidate.trade]

theorem persisted {candidate : PendingPublication ctx} (h : candidate.Extends controller.state) :
    Persisted controller candidate (persist environment candidate controller).1
      (persist environment candidate controller).2.1
      (persist environment candidate controller).2.2 := by
  unfold persist
  split
  · exact ⟨rfl, h, rfl, rfl, .inl rfl, nofun⟩
  · obtain ⟨htrades, haggregated⟩ := stabilizePerformanceAccountDay_sound 2 h.sound.aggregated
      controller.clockReadings
    exact ⟨rfl, ⟨h.trades, ⟨htrades.trans h.sound.trades, haggregated⟩⟩, rfl, rfl, .inr rfl,
      fun _ => rfl⟩

/-! ### A single call -/

/-- What a call does: it publishes nothing, and at most one more candidate waits; or it
saves and publishes one trade, which is the waiting one if there is one. -/
inductive PublicationStep (environment : HistoryEnvironment)
    (controller next : TradeHistoryController ctx) : Prop
  | unpublished (hstate : next.state = controller.state)
      (hwaiting : waiting next = waiting controller ∨
        waiting controller = [] ∧ ∃ trade, waiting next = [trade])
      (hevents : next.events = controller.events ∨
        ∃ trade, next.events = controller.events ++ [.saved trade])
  | published (candidate : PendingPublication ctx) (hextends : candidate.Extends controller.state)
      (hstate : next.state = candidate.state)
      (hwaiting : waiting controller = [] ∨ waiting controller = [candidate.trade])
      (hdone : waiting next = [])
      (hevents : next.events = controller.events ++ .saved candidate.trade ::
        .published candidate.trade next.state :: notification environment candidate)

/-- A call from a sound controller is a step, and the controller stays sound. -/
def Publishes (environment : HistoryEnvironment)
    (controller next : TradeHistoryController ctx) : Prop :=
  PublicationStep environment controller next ∧ next.Sound

theorem OnlyReads.sound (h : OnlyReads controller next) (hsound : controller.Sound) :
    next.Sound := by
  refine ⟨h.state ▸ hsound.state, ?_⟩
  rw [h.pending, h.state]
  exact hsound.pending

theorem OnlyReads.publishes (h : OnlyReads controller next) (hsound : controller.Sound) :
    Publishes environment controller next :=
  ⟨.unpublished h.state (.inl (by rw [waiting, waiting, h.pending])) (.inl h.events),
    h.sound hsound⟩

/-- Readings before a step do not change it. -/
theorem OnlyReads.publishes_trans {middle : TradeHistoryController ctx}
    (h : OnlyReads controller middle) (hstep : Publishes environment middle next) :
    Publishes environment controller next := by
  obtain ⟨hstep, hsound⟩ := hstep
  refine ⟨?_, hsound⟩
  have hsame : waiting middle = waiting controller := by rw [waiting, waiting, h.pending]
  cases hstep with
  | unpublished hstate hwaiting hevents =>
      rw [hsame] at hwaiting
      rw [h.events] at hevents
      exact .unpublished (hstate.trans h.state) hwaiting hevents
  | published candidate hextends hstate hwaiting hdone hevents =>
      rw [h.state] at hextends
      rw [hsame] at hwaiting
      rw [h.events] at hevents
      exact .published candidate hextends hstate hwaiting hdone hevents

/-- A candidate that could not be saved waits under its order. -/
theorem publishes_of_waits {candidate left : PendingPublication ctx}
    {outcome : Except TradingError Unit} (hsound : controller.Sound)
    (hwaiting : waiting controller = [] ∨ waiting controller = [candidate.trade])
    (h : Persisted controller candidate left outcome next) :
    Publishes environment controller
      { next with pendingPublications := [(left.trade.orderId, left)] } := by
  refine ⟨.unpublished h.state ?_ ?_, ?_, .inr ⟨left, rfl, ?_⟩⟩
  · rcases hwaiting with hnone | hone
    · exact .inr ⟨hnone, left.trade, rfl⟩
    · refine .inl ?_
      rw [hone, ← h.trade]
      rfl
  · rcases h.events with hsame | hsaved
    · exact .inl hsame
    · exact .inr ⟨candidate.trade, hsaved⟩
  · show next.state.Sound
    rw [h.state]
    exact hsound.state
  · show left.Extends next.state
    rw [h.state]
    exact h.candidateExtends

/-- A candidate that was saved is published. -/
theorem publishes_of_saved {candidate left : PendingPublication ctx}
    {pending : List (String × PendingPublication ctx)} (hpending : pending = [])
    (hwaiting : waiting controller = [] ∨ waiting controller = [candidate.trade])
    (h : Persisted controller candidate left (.ok ()) next) :
    Publishes environment controller
      { publish environment left next with pendingPublications := pending } := by
  subst hpending
  refine ⟨.published left h.candidateExtends rfl ?_ rfl ?_, h.candidateExtends.sound, .inl rfl⟩
  · rw [h.trade]
    exact hwaiting
  · show next.events ++ _ = _
    rw [h.saved rfl, h.trade, List.append_assoc]
    rfl

/-- A first save is a retry with nothing waiting. -/
theorem persistCandidate_eq_retryCandidate {candidate : PendingPublication ctx}
    (hpending : controller.pendingPublications = []) :
    persistCandidate environment candidate controller =
      retryCandidate environment candidate.trade.orderId candidate controller := by
  unfold persistCandidate retryCandidate persist
  cases environment.saveTrade controller.saves with
  | error error => rfl
  | ok =>
      dsimp only
      cases (stabilizePerformanceAccountDay environment 2 candidate.state.performance
        controller.clockReadings).outcome with
      | error error => rfl
      | ok => simp [publish, hpending, Dict.erase]

/-- What waits under an order after its save. -/
theorem pending_after_save {candidate : PendingPublication ctx}
    (hpending : controller.pendingPublications = [] ∨
      controller.pendingPublications = [(candidate.trade.orderId, candidate)]) :
    (∀ left, Dict.insert candidate.trade.orderId left controller.pendingPublications =
      [(candidate.trade.orderId, left)]) ∧
    Dict.erase candidate.trade.orderId controller.pendingPublications = [] := by
  rcases hpending with h | h <;> simp [h, Dict.insert, Dict.erase]

theorem publishes_retryCandidate {candidate : PendingPublication ctx}
    (hsound : controller.Sound)
    (hpending : controller.pendingPublications = [] ∨
      controller.pendingPublications = [(candidate.trade.orderId, candidate)])
    (hextends : candidate.Extends controller.state) :
    Publishes environment controller
      (finalState (retryCandidate environment candidate.trade.orderId candidate controller)) := by
  have hpersisted := @persisted _ environment _ _ hextends
  have hwaiting : waiting controller = [] ∨ waiting controller = [candidate.trade] := by
    rcases hpending with h | h <;> simp [waiting, h]
  obtain ⟨hinsert, herase⟩ := pending_after_save hpending
  unfold retryCandidate
  generalize persist environment candidate controller = result at hpersisted ⊢
  obtain ⟨left, outcome, next⟩ := result
  have hsame : next.pendingPublications = controller.pendingPublications := hpersisted.pending
  cases outcome with
  | error error =>
      dsimp only
      rw [hsame, hinsert, ← hpersisted.trade]
      exact publishes_of_waits hsound hwaiting hpersisted
  | ok =>
      dsimp only
      rw [hsame, herase]
      exact publishes_of_saved rfl hwaiting hpersisted

theorem publishes_persistCandidate {candidate : PendingPublication ctx}
    (hsound : controller.Sound) (hpending : controller.pendingPublications = [])
    (hextends : candidate.Extends controller.state) :
    Publishes environment controller
      (finalState (persistCandidate environment candidate controller)) := by
  rw [persistCandidate_eq_retryCandidate hpending]
  exact publishes_retryCandidate hsound (.inl hpending) hextends

/-- A check that raises leaves the controller alone. -/
theorem publishes_raising_bind {α : Type} {outcome : Except TradingError α}
    {rest : α → HistoryM ctx (Trade ctx)} (hsound : controller.Sound)
    (h : ∀ a, outcome = .ok a → Publishes environment controller (finalState (rest a controller))) :
    Publishes environment controller (finalState ((raising outcome >>= rest) controller)) := by
  cases outcome with
  | error error => exact (OnlyReads.refl controller).publishes hsound
  | ok a => exact h a rfl

/-- A read of the state comes before anything else. -/
theorem publishes_get_bind {rest : TradeHistoryController ctx → HistoryM ctx (Trade ctx)}
    (h : Publishes environment controller (finalState (rest controller controller))) :
    Publishes environment controller (finalState ((get >>= rest) controller)) := h

theorem publishes_publishCompletedTrade (trade : Trade ctx) (hsound : controller.Sound) :
    Publishes environment controller
      (finalState (publishCompletedTrade environment trade controller)) := by
  refine publishes_get_bind (publishes_raising_bind hsound fun _ hrequire => ?_)
  have hpending := List.isEmpty_iff.mp (Except.require_eq_ok_iff.mp hrequire)
  rw [bind_run]
  have hreads := @onlyReads_prepareCandidate _ environment trade controller
  cases hprepared : prepareCandidate environment trade controller with
  | error error middle =>
      rw [hprepared] at hreads
      exact hreads.publishes hsound
  | ok prepared middle =>
      rw [hprepared] at hreads
      change OnlyReads controller middle at hreads
      cases prepared with
      | none =>
          refine OnlyReads.publishes ?_ hsound
          dsimp only
          cases controller.state.tradeHistory.find trade.orderId <;> exact hreads
      | some candidate =>
          obtain ⟨-, hextends⟩ := prepareCandidate_eq_some hprepared
          refine hreads.publishes_trans (publishes_persistCandidate (hreads.sound hsound) ?_ ?_)
          · exact hreads.pending.trans hpending
          · rw [hreads.state]
            exact hextends

theorem publishes_retryPendingPersistence (orderId : String) (hsound : controller.Sound) :
    Publishes environment controller
      (finalState (retryPendingPersistence environment orderId controller)) := by
  refine publishes_raising_bind hsound fun _ _ => publishes_get_bind ?_
  rcases hsound.pending with hnone | ⟨candidate, hone, hextends⟩
  · rw [hnone, List.lookup_nil]
    exact (OnlyReads.refl controller).publishes hsound
  · by_cases hid : orderId = candidate.trade.orderId
    · rw [hone, hid, List.lookup_cons, beq_self_eq_true]
      exact publishes_retryCandidate hsound (.inr hone) hextends
    · rw [hone, List.lookup_cons, beq_false_of_ne hid, List.lookup_nil]
      exact (OnlyReads.refl controller).publishes hsound

/-- Every call is such a step. -/
theorem publishes_call (call : HistoryCall ctx) (hsound : controller.Sound) :
    Publishes environment controller (finalState (call.call environment controller)) := by
  cases call with
  | recordOrderExecution order summary allocatedCostBasis =>
      refine publishes_get_bind (publishes_raising_bind hsound fun _ _ => ?_)
      exact publishes_raising_bind hsound fun trade _ =>
        publishes_publishCompletedTrade trade hsound
  | recordReconciledExternalTrade trade =>
      exact publishes_raising_bind hsound fun _ _ => publishes_publishCompletedTrade trade hsound
  | retryPendingPersistence orderId => exact publishes_retryPendingPersistence orderId hsound

/-! ### What a call returns -/

/-- The result of a call. -/
abbrev HistoryResult (ctx : DecimalContext) :=
  EStateM.Result TradingError (TradeHistoryController ctx) (Trade ctx)

section

variable (environment : HistoryEnvironment) (controller : TradeHistoryController ctx)

/-- The stabilization of the performance of a candidate, from the present clock. -/
def stabilized (candidate : PendingPublication ctx) : Stabilized ctx :=
  stabilizePerformanceAccountDay environment 2 candidate.state.performance
    controller.clockReadings

/-- The save of a candidate: if it or the stabilization fails, the failure is raised and the
trade waits; otherwise the trade is published and returned, and nothing waits. -/
inductive SaveResult (candidate : PendingPublication ctx) : HistoryResult ctx → Prop
  | unsaved {error : TradingError} {next : TradeHistoryController ctx}
      (hsave : environment.saveTrade controller.saves = .error error)
      (hstate : next.state = controller.state) (hwaiting : waiting next = [candidate.trade])
      (hevents : next.events = controller.events) : SaveResult candidate (.error error next)
  | unstable {error : TradingError} {next : TradeHistoryController ctx}
      (hsave : environment.saveTrade controller.saves = .ok ())
      (hstabilized : (stabilized environment controller candidate).outcome = .error error)
      (hstate : next.state = controller.state) (hwaiting : waiting next = [candidate.trade])
      (hevents : next.events = controller.events ++ [.saved candidate.trade]) :
      SaveResult candidate (.error error next)
  | published {next : TradeHistoryController ctx} {left : PendingPublication ctx}
      (hsave : environment.saveTrade controller.saves = .ok ())
      (hstabilized : (stabilized environment controller candidate).outcome = .ok ())
      (hleft : left = refreshed candidate (stabilized environment controller candidate).performance)
      (hstate : next.state = left.state) (hwaiting : waiting next = [])
      (hevents : next.events = controller.events ++ .saved candidate.trade ::
        .published candidate.trade next.state :: notification environment left) :
      SaveResult candidate (.ok candidate.trade next)

/-- The performance with a new trade, from two readings of the clock. -/
def performanceWith (trade : Trade ctx) : Except TradingError (Performance ctx) := do
  let published := controller.state.tradeHistory.trades
  let today ← kstDateAt environment controller.clockReadings
  let _ ← Performance.create published today
  let later ← kstDateAt environment (controller.clockReadings + 1)
  Performance.create (published ++ [trade]) later

/-- The result of recording a trade while nothing waits. -/
inductive RecordResult (trade : Trade ctx) : HistoryResult ctx → Prop
  | known (hknown : controller.state.tradeHistory.find trade.orderId = some trade) :
      RecordResult trade (.ok trade controller)
  | conflicting {existing : Trade ctx} {error : TradingError}
      (hexisting : controller.state.tradeHistory.find trade.orderId = some existing)
      (hdiffers : existing ≠ trade) : RecordResult trade (.error error controller)
  | unprepared {error : TradingError} {next : TradeHistoryController ctx}
      (hnew : controller.state.tradeHistory.find trade.orderId = none)
      (hperformance : performanceWith environment controller trade = .error error)
      (hreads : OnlyReads controller next) : RecordResult trade (.error error next)
  | prepared {candidate : PendingPublication ctx} {result : HistoryResult ctx}
      (hnew : controller.state.tradeHistory.find trade.orderId = none)
      (htrade : candidate.trade = trade)
      (hhistory : candidate.state.tradeHistory.trades =
        controller.state.tradeHistory.trades ++ [trade])
      (hperformance : performanceWith environment controller trade =
        .ok candidate.state.performance)
      (hsaved : SaveResult environment
        { controller with clockReadings := controller.clockReadings + 2 } candidate result) :
      RecordResult trade result

/-- The trade that a recording call makes or is given; a retry records none. -/
def HistoryCall.recorded : HistoryCall ctx → Option (Except TradingError (Trade ctx))
  | .recordOrderExecution order summary allocatedCostBasis =>
      some (Trading.recordOrderExecution order summary allocatedCostBasis)
  | .recordReconciledExternalTrade trade =>
      some (if trade.schemaVersion = .v4 ∧ trade.exitReason = some .externalManual then .ok trade
        else .error (.valueError "external reconciliation requires v4 SELL"))
  | .retryPendingPersistence _ => none

/-- The result of a call: nothing is recorded while a trade waits or without a trade, and a
retry saves the candidate that waits under its order, or does nothing. -/
inductive CallResult : HistoryCall ctx → HistoryResult ctx → Prop
  | blocked {call : HistoryCall ctx} {outcome : Except TradingError (Trade ctx)}
      {error : TradingError} (hrecorded : HistoryCall.recorded call = some outcome)
      (hwaiting : waiting controller ≠ []) : CallResult call (.error error controller)
  | refused {call : HistoryCall ctx} {error : TradingError}
      (hrecorded : HistoryCall.recorded call = some (.error error))
      (hwaiting : waiting controller = []) : CallResult call (.error error controller)
  | recorded {call : HistoryCall ctx} {trade : Trade ctx} {result : HistoryResult ctx}
      (hrecorded : HistoryCall.recorded call = some (.ok trade))
      (hwaiting : waiting controller = [])
      (hresult : RecordResult environment controller trade result) : CallResult call result
  | notWaiting {orderId : String} {error : TradingError}
      (hwaiting : ∀ trade ∈ waiting controller, trade.orderId = orderId →
        ¬ (orderId ≠ "" ∧ orderId.toList.all Char.isDigit = true)) :
      CallResult (.retryPendingPersistence orderId) (.error error controller)
  | retried {orderId : String} {candidate : PendingPublication ctx} {result : HistoryResult ctx}
      (hwaiting : controller.pendingPublications = [(orderId, candidate)])
      (horder : candidate.trade.orderId = orderId)
      (hresult : SaveResult environment controller candidate result) :
      CallResult (.retryPendingPersistence orderId) result

end

theorem saveResult_retryCandidate {candidate : PendingPublication ctx}
    (hpending : controller.pendingPublications = [] ∨
      controller.pendingPublications = [(candidate.trade.orderId, candidate)]) :
    SaveResult environment controller candidate
      (retryCandidate environment candidate.trade.orderId candidate controller) := by
  obtain ⟨hinsert, herase⟩ := pending_after_save hpending
  unfold retryCandidate persist
  cases hsave : environment.saveTrade controller.saves with
  | error error => exact .unsaved hsave rfl (by simp [waiting, hinsert]) rfl
  | ok =>
      cases houtcome : (stabilized environment controller candidate).outcome with
      | error error =>
          rw [stabilized] at houtcome
          simp only [houtcome]
          exact .unstable hsave houtcome rfl (by simp [waiting, hinsert, refreshed]) rfl
      | ok =>
          rw [stabilized] at houtcome
          simp only [houtcome]
          refine .published hsave houtcome rfl rfl (by simp [waiting, herase]) ?_
          simp [publish, stabilized, refreshed]

theorem saveResult_persistCandidate {candidate : PendingPublication ctx}
    (hpending : controller.pendingPublications = []) :
    SaveResult environment controller candidate
      (persistCandidate environment candidate controller) := by
  rw [persistCandidate_eq_retryCandidate hpending]
  exact saveResult_retryCandidate (.inl hpending)

theorem readCurrentKstDate_run :
    readCurrentKstDate environment controller =
      raising (kstDateAt environment controller.clockReadings)
        { controller with clockReadings := controller.clockReadings + 1 } := rfl

/-- The candidate of a new trade has the performance from two readings of the clock. -/
theorem prepareCandidate_of_new {trade : Trade ctx} {nextHistory : TradeHistory ctx}
    (hnew : controller.state.tradeHistory.find trade.orderId = none)
    (hadd : controller.state.tradeHistory.addTrade trade = .ok nextHistory)
    (htrades : nextHistory.trades = controller.state.tradeHistory.trades ++ [trade]) :
    match performanceWith environment controller trade with
    | .error error => ∃ next, prepareCandidate environment trade controller = .error error next
    | .ok performance => prepareCandidate environment trade controller =
        .ok (some ⟨trade, nextHistory, performance⟩)
          { controller with clockReadings := controller.clockReadings + 2 } := by
  have hlonger : nextHistory.trades.length ≠ controller.state.tradeHistory.trades.length := by
    simp [htrades]
  rw [prepareCandidate, bind_run, get_run]
  simp only [TradeHistory.ofTrades_trades, bind_run, raising_ok, hadd, if_neg hlonger,
    readCurrentKstDate_run, performanceWith]
  cases kstDateAt environment controller.clockReadings with
  | error error => exact ⟨_, rfl⟩
  | ok today =>
      simp only [raising_ok, Except.ok_bind]
      cases hbefore : Performance.create controller.state.tradeHistory.trades today with
      | error error => exact ⟨_, rfl⟩
      | ok before =>
          have hnone : before.existing trade = none := by
            rw [Performance.existing, (Performance.create_eq_ok hbefore).1]
            exact hnew
          simp only [raising_ok, Except.ok_bind, applyNewTrade, hnone, bind_run,
            readCurrentKstDate_run, (Performance.create_eq_ok hbefore).1]
          cases kstDateAt environment (controller.clockReadings + 1) with
          | error error => exact ⟨_, rfl⟩
          | ok later =>
              simp only [raising_ok, Except.ok_bind]
              cases Performance.create (controller.state.tradeHistory.trades ++ [trade]) later with
              | error error => exact ⟨_, rfl⟩
              | ok performance => rfl

/-- The trade of an order that is published already has no candidate. -/
theorem prepareCandidate_of_find {trade existing : Trade ctx}
    (hfind : controller.state.tradeHistory.find trade.orderId = some existing) :
    prepareCandidate environment trade controller =
      if existing = trade then .ok none controller
      else .error (.valueError s!"order_id {trade.orderId} has conflicting trade content")
        controller := by
  rw [prepareCandidate, bind_run, get_run]
  simp only [TradeHistory.ofTrades_trades, bind_run, raising_ok,
    TradeHistory.addTrade_of_find hfind]
  by_cases hsame : existing = trade
  · simp [hsame]
  · simp [hsame]

/-- A trade recorded while nothing waits. -/
theorem recordResult_publishCompletedTrade (trade : Trade ctx)
    (hpending : controller.pendingPublications = []) :
    RecordResult environment controller trade
      (publishCompletedTrade environment trade controller) := by
  have hreads := @onlyReads_prepareCandidate _ environment trade controller
  rw [publishCompletedTrade, bind_run, get_run]
  simp only [hpending, List.isEmpty_nil, Except.require, if_pos, bind_run, raising_ok]
  cases hfind : controller.state.tradeHistory.find trade.orderId with
  | none =>
      obtain ⟨nextHistory, hadd, htrades⟩ := TradeHistory.addTrade_of_new hfind
      have hprepared := @prepareCandidate_of_new _ environment _ _ _ hfind hadd htrades
      cases hperformance : performanceWith environment controller trade with
      | error error =>
          rw [hperformance] at hprepared
          obtain ⟨next, hraised⟩ := hprepared
          rw [hraised] at hreads ⊢
          exact .unprepared hfind hperformance hreads
      | ok performance =>
          simp only [hperformance] at hprepared
          rw [hprepared]
          exact .prepared hfind rfl htrades hperformance (saveResult_persistCandidate hpending)
  | some existing =>
      rw [prepareCandidate_of_find hfind]
      by_cases hsame : existing = trade
      · rw [if_pos hsame]
        subst hsame
        exact .known hfind
      · rw [if_neg hsame]
        exact .conflicting hfind hsame

/-- Nothing is published while a candidate waits. -/
theorem publishCompletedTrade_of_pending (trade : Trade ctx)
    (hpending : controller.pendingPublications ≠ []) :
    publishCompletedTrade environment trade controller =
      .error (.runtimeError "pending trade persistence blocks publication") controller := by
  rw [publishCompletedTrade, bind_run, get_run]
  simp [Except.require, List.isEmpty_iff, hpending]

/-- What each call returns or raises. -/
theorem callResult (call : HistoryCall ctx) (hsound : controller.Sound) :
    CallResult environment controller call (call.call environment controller) := by
  have hnone : waiting controller = [] ↔ controller.pendingPublications = [] := List.map_eq_nil_iff
  cases call with
  | recordOrderExecution order summary allocatedCostBasis =>
      rw [HistoryCall.call, recordOrderExecution, bind_run, get_run]
      by_cases hwaiting : waiting controller = []
      · have hpending := hnone.mp hwaiting
        simp only [hpending, List.isEmpty_nil, Except.require, if_pos, bind_run, raising_ok]
        cases htrade : Trading.recordOrderExecution order summary allocatedCostBasis with
        | error error => exact .refused (congrArg some htrade) hwaiting
        | ok trade =>
            exact .recorded (congrArg some htrade) hwaiting
              (recordResult_publishCompletedTrade trade hpending)
      · simp only [List.isEmpty_iff, mt hnone.mpr hwaiting, Except.require, if_neg, bind_run,
          not_false_eq_true, raising_error]
        exact .blocked rfl hwaiting
  | recordReconciledExternalTrade trade =>
      rw [HistoryCall.call, recordReconciledExternalTrade, bind_run, Except.require]
      by_cases hv4 : trade.schemaVersion = .v4 ∧ trade.exitReason = some .externalManual
      · simp only [if_pos hv4, raising_ok]
        by_cases hwaiting : waiting controller = []
        · exact .recorded (congrArg some (if_pos hv4)) hwaiting
            (recordResult_publishCompletedTrade trade (hnone.mp hwaiting))
        · rw [publishCompletedTrade_of_pending trade (mt hnone.mpr hwaiting)]
          exact .blocked rfl hwaiting
      · simp only [if_neg hv4, raising_error]
        by_cases hwaiting : waiting controller = []
        · exact .refused (congrArg some (if_neg hv4)) hwaiting
        · exact .blocked rfl hwaiting
  | retryPendingPersistence orderId =>
      rw [HistoryCall.call, retryPendingPersistence, bind_run, Except.require]
      by_cases hdigits : orderId ≠ "" ∧ orderId.toList.all Char.isDigit = true
      · simp only [if_pos hdigits, raising_ok, bind_run, get_run]
        rcases hsound.pending with hpending | ⟨candidate, hpending, -⟩
        · rw [hpending, List.lookup_nil]
          exact .notWaiting (by simp [waiting, hpending])
        · by_cases hid : orderId = candidate.trade.orderId
          · subst hid
            rw [hpending, List.lookup_cons, beq_self_eq_true]
            exact .retried hpending rfl (saveResult_retryCandidate (.inr hpending))
          · rw [hpending, List.lookup_cons, beq_false_of_ne hid, List.lookup_nil]
            refine .notWaiting ?_
            rintro trade htrade rfl
            rw [waiting, hpending, List.map_singleton, List.mem_singleton] at htrade
            exact absurd (congrArg (·.orderId) htrade) hid
      · simp only [if_neg hdigits, raising_error]
        exact .notWaiting fun _ _ _ => hdigits

/-! ## Runs -/

/-- A controller after its load. -/
def loaded (state : TradeHistoryLoadState ctx) : TradeHistoryController ctx := { state }

/-- The trades published so far, in their order. -/
def publishedTrades : List (PublicationEvent ctx) → List (Trade ctx) :=
  List.filterMap fun
    | .published trade _ => some trade
    | _ => none

/-- The trades the observer was told about, in their order. -/
def notifiedTrades : List (PublicationEvent ctx) → List (Trade ctx) :=
  List.filterMap fun
    | .notified trade _ => some trade
    | _ => none

/-- A trade is saved before it is published. -/
def SavedFirst (events : List (PublicationEvent ctx)) : Prop :=
  ∀ before after trade state, events = before ++ .published trade state :: after →
    PublicationEvent.saved trade ∈ before

/-- What holds after any calls since the load. -/
structure RunInvariant (environment : HistoryEnvironment) (state : TradeHistoryLoadState ctx)
    (controller : TradeHistoryController ctx) : Prop where
  sound : controller.Sound
  /-- The history is the loaded one and what was published since. -/
  history : controller.state.tradeHistory.trades =
    state.tradeHistory.trades ++ publishedTrades controller.events
  /-- The observer hears of every published trade once, in the same order. -/
  notified : notifiedTrades controller.events =
    if environment.hasObserver then publishedTrades controller.events else []
  savedFirst : SavedFirst controller.events

theorem publishedTrades_append (first second : List (PublicationEvent ctx)) :
    publishedTrades (first ++ second) = publishedTrades first ++ publishedTrades second :=
  List.filterMap_append

theorem notifiedTrades_append (first second : List (PublicationEvent ctx)) :
    notifiedTrades (first ++ second) = notifiedTrades first ++ notifiedTrades second :=
  List.filterMap_append

theorem SavedFirst.append {first second : List (PublicationEvent ctx)} (h : SavedFirst first)
    (h' : SavedFirst second) : SavedFirst (first ++ second) := by
  intro before after trade state hevents
  rcases List.append_eq_append_iff.mp hevents with ⟨rest, rfl, hsecond⟩ | ⟨rest, hfirst, hrest⟩
  · exact List.mem_append_right _ (h' rest after trade state hsecond)
  · cases rest with
    | nil =>
        rw [List.append_nil] at hfirst
        subst hfirst
        exact absurd (h' [] after trade state hrest.symm) List.not_mem_nil
    | cons event rest =>
        rw [List.cons_append, List.cons.injEq] at hrest
        obtain ⟨rfl, -⟩ := hrest
        exact h before rest trade state hfirst

theorem savedFirst_of_unpublished {events : List (PublicationEvent ctx)}
    (h : publishedTrades events = []) : SavedFirst events := by
  intro before after trade state hevents
  rw [hevents, publishedTrades_append] at h
  simp [publishedTrades] at h

theorem publishedTrades_notification (candidate : PendingPublication ctx) :
    publishedTrades (notification environment candidate) = [] := by
  unfold notification
  split <;> rfl

theorem notifiedTrades_notification (candidate : PendingPublication ctx) :
    notifiedTrades (notification environment candidate) =
      if environment.hasObserver then [candidate.trade] else [] := by
  unfold notification
  split <;> rfl

theorem savedFirst_published (candidate : PendingPublication ctx)
    (state : TradeHistoryLoadState ctx) :
    SavedFirst (.saved candidate.trade :: .published candidate.trade state ::
      notification environment candidate) := by
  intro before after trade other hevents
  cases before with
  | nil => cases hevents
  | cons event before =>
      rw [List.cons_append, List.cons.injEq] at hevents
      obtain ⟨rfl, hevents⟩ := hevents
      cases before with
      | nil => cases hevents; exact List.mem_singleton_self _
      | cons event before =>
          rw [List.cons_append, List.cons.injEq] at hevents
          have hnone := @publishedTrades_notification _ environment candidate
          rw [hevents.2, publishedTrades_append] at hnone
          simp [publishedTrades] at hnone

/-- A call that publishes nothing changes nothing that was published or told. -/
theorem RunInvariant.unpublished {state : TradeHistoryLoadState ctx}
    (h : RunInvariant environment state controller) (hsound : next.Sound)
    (hstate : next.state = controller.state) {events : List (PublicationEvent ctx)}
    (hevents : next.events = controller.events ++ events) (hnone : publishedTrades events = [])
    (hsilent : notifiedTrades events = []) : RunInvariant environment state next := by
  refine ⟨hsound, ?_, ?_, ?_⟩
  · rw [hstate, hevents, publishedTrades_append, hnone, List.append_nil]
    exact h.history
  · rw [hevents, notifiedTrades_append, publishedTrades_append, hnone, hsilent, List.append_nil,
      List.append_nil]
    exact h.notified
  · rw [hevents]
    exact h.savedFirst.append (savedFirst_of_unpublished hnone)

theorem RunInvariant.step {state : TradeHistoryLoadState ctx}
    (h : RunInvariant environment state controller)
    (hstep : Publishes environment controller next) : RunInvariant environment state next := by
  obtain ⟨hstep, hsound⟩ := hstep
  cases hstep with
  | unpublished hstate hwaiting hevents =>
      rcases hevents with hsame | ⟨trade, hsaved⟩
      · exact @RunInvariant.unpublished _ _ _ _ _ h hsound hstate []
          (by rw [hsame, List.append_nil]) rfl rfl
      · exact h.unpublished hsound hstate hsaved rfl rfl
  | published candidate hextends hstate hwaiting hdone hevents =>
      have hpublished : publishedTrades (.saved candidate.trade ::
          .published candidate.trade next.state :: notification environment candidate) =
            [candidate.trade] :=
        congrArg (candidate.trade :: ·) (publishedTrades_notification candidate)
      have hnotified : notifiedTrades (.saved candidate.trade ::
          .published candidate.trade next.state :: notification environment candidate) =
            if environment.hasObserver then [candidate.trade] else [] :=
        notifiedTrades_notification candidate
      refine ⟨hsound, ?_, ?_, ?_⟩
      · rw [hstate, hextends.trades, hevents, publishedTrades_append, hpublished, h.history,
          List.append_assoc]
      · rw [hevents, notifiedTrades_append, publishedTrades_append, hpublished, hnotified,
          h.notified]
        split <;> rfl
      · rw [hevents]
        exact h.savedFirst.append (savedFirst_published candidate next.state)

theorem runInvariant_loaded {state : TradeHistoryLoadState ctx} (h : state.Sound) :
    RunInvariant environment state (loaded state) := by
  refine ⟨⟨h, .inl rfl⟩, (List.append_nil _).symm, ?_, ?_⟩
  · show [] = if environment.hasObserver then [] else []
    split <;> rfl
  · exact savedFirst_of_unpublished rfl

theorem RunInvariant.runCalls {state : TradeHistoryLoadState ctx}
    (h : RunInvariant environment state controller) (calls : List (HistoryCall ctx)) :
    RunInvariant environment state (runCalls environment calls controller) := by
  refine runAll_induction (fun call hcall middle hmiddle => ?_) h
  obtain ⟨called, -, rfl⟩ := List.mem_map.mp hcall
  exact hmiddle.step (publishes_call called hmiddle.sound)

theorem Sound.waiting_length (h : controller.Sound) : (waiting controller).length ≤ 1 := by
  rcases h.pending with hnone | ⟨candidate, hone, -⟩
  · simp [waiting, hnone]
  · simp [waiting, hone]

/-- What a call does keeps what happened before it. -/
theorem PublicationStep.events_prefix (h : PublicationStep environment controller next) :
    controller.events <+: next.events := by
  cases h with
  | unpublished hstate hwaiting hevents =>
      rcases hevents with hsame | ⟨trade, hsaved⟩
      · exact hsame ▸ List.prefix_rfl
      · exact hsaved ▸ List.prefix_append ..
  | published candidate hextends hstate hwaiting hdone hevents =>
      exact hevents ▸ List.prefix_append ..

theorem Sound.runs (hsound : controller.Sound) (calls : List (HistoryCall ctx)) :
    (runCalls environment calls controller).Sound ∧
      controller.events <+: (runCalls environment calls controller).events := by
  induction calls generalizing controller with
  | nil => exact ⟨hsound, List.prefix_rfl⟩
  | cons call calls ih =>
      obtain ⟨hstep, hnext⟩ := @publishes_call _ environment _ call hsound
      obtain ⟨hlast, hevents⟩ := ih hnext
      exact ⟨hlast, hstep.events_prefix.trans hevents⟩

/-- A trade waits through any calls, or it is the next one published. -/
theorem Sound.waits {trade : Trade ctx} (hsound : controller.Sound)
    (hwaiting : waiting controller = [trade]) (calls : List (HistoryCall ctx)) :
    let last := runCalls environment calls controller
    (waiting last = [trade] ∧ last.state = controller.state ∧
      publishedTrades last.events = publishedTrades controller.events) ∨
    publishedTrades controller.events ++ [trade] <+: publishedTrades last.events := by
  induction calls generalizing controller with
  | nil => exact .inl ⟨hwaiting, rfl, rfl⟩
  | cons call calls ih =>
      obtain ⟨hstep, hnext⟩ := @publishes_call _ environment _ call hsound
      cases hstep with
      | unpublished hstate hstill hevents =>
          have hsame : publishedTrades (finalState (call.call environment controller)).events =
              publishedTrades controller.events := by
            rcases hevents with hsame | ⟨saved, hsaved⟩
            · rw [hsame]
            · rw [hsaved, publishedTrades_append]
              exact List.append_nil _
          have hwaits : waiting (finalState (call.call environment controller)) = [trade] := by
            rcases hstill with hstill | ⟨hnone, -⟩
            · rw [hstill, hwaiting]
            · rw [hwaiting] at hnone
              cases hnone
          have hrest := ih hnext hwaits
          rw [hsame, hstate] at hrest
          exact hrest
      | published candidate hextends hstate hbefore hdone hevents =>
          obtain rfl : trade = candidate.trade := by
            rcases hbefore with hnone | hone
            · rw [hwaiting] at hnone
              cases hnone
            · rw [hwaiting] at hone
              exact List.singleton_inj.mp hone
          refine .inr (List.IsPrefix.trans ?_ ((hnext.runs calls).2.filterMap _))
          show _ <+: publishedTrades _
          rw [hevents, publishedTrades_append]
          exact (List.prefix_append_right_inj _).mpr (List.prefix_append [candidate.trade] _)

/-- In every run after a load, with any failures of the clock and of the saves: the
published performance on any day is the one built from the published trades, at most one
candidate waits, the observer hears of each published trade once, each is saved first, and
every call publishes nothing or the waiting trade with its performance.  What a call returns
follows from what waits, the save and the stabilization, and a trade that waits is the next
one published. -/
theorem publication_law (environment : HistoryEnvironment) {trades : List (Trade ctx)}
    {today : ℤ} {state : TradeHistoryLoadState ctx}
    (hload : TradeHistoryLoadState.load trades today = .ok state)
    (calls : List (HistoryCall ctx)) {controller : TradeHistoryController ctx}
    (hrun : controller = TradeHistoryController.runCalls environment calls (loaded state)) :
    RunInvariant environment state controller ∧
    (∀ day, controller.state.performance.atDate day =
      Performance.create controller.state.tradeHistory.trades day) ∧
    (waiting controller).length ≤ 1 ∧
    (∀ call : HistoryCall ctx, PublicationStep environment controller
      (finalState (call.call environment controller))) ∧
    (∀ call : HistoryCall ctx,
      CallResult environment controller call (call.call environment controller)) ∧
    ∀ trade, waiting controller = [trade] → ∀ more : List (HistoryCall ctx),
      let last := TradeHistoryController.runCalls environment more controller
      (waiting last = [trade] ∧ last.state = controller.state ∧
        publishedTrades last.events = publishedTrades controller.events) ∨
      publishedTrades controller.events ++ [trade] <+: publishedTrades last.events := by
  have hinvariant : RunInvariant environment state controller := by
    rw [hrun]
    exact (runInvariant_loaded (TradeHistoryLoadState.sound_of_load hload)).runCalls calls
  have hsound := hinvariant.sound
  refine ⟨hinvariant, fun day => ?_, hsound.waiting_length, fun call =>
    (publishes_call call hsound).1, fun call => callResult call hsound,
    fun trade hwaiting more => hsound.waits hwaiting more⟩
  rw [hsound.state.aggregated.atDate, hsound.state.trades]

/-- One unit, sold by hand. -/
def soldFill : Fill DecimalContext.exact where
  exchangeOrderId := "7"
  tradeId := "1"
  quantity := 1
  price := 100
  feeAmount := 0
  feeAsset := .usdt
  feeQuoteAmount := 0
  executedAt := 0
  valid := by decide +kernel

/-- The trade of that sale. -/
def soldTrade : Trade DecimalContext.exact where
  tradeId := "trade-7"
  orderId := "7"
  clientOrderId := "manual"
  executedAt := 0
  side := .sell
  regimeType := .type1
  strategy := .caseC
  requestedQuantity := 1
  executedQuantity := 1
  executedAmount := 100
  averageFillPrice := 100
  marketPriceAtDecision := none
  feeAmount := 0
  feeAsset := .single .usdt
  feeQuoteAmount := 0
  allocatedCostBasis := some 80
  realizedPnl := some 20
  realizedReturnRate := some 25
  exitReason := some .externalManual
  schemaVersion := .v4
  feeFills := [soldFill]
  valid := by decide +kernel

/-- The fill of a purchase of one unit. -/
def boughtFill : Fill DecimalContext.exact where
  exchangeOrderId := "5"
  tradeId := "1"
  quantity := 1
  price := 80
  feeAmount := 0
  feeAsset := .usdt
  feeQuoteAmount := 0
  executedAt := 0
  valid := by decide +kernel

/-- The order of that purchase, filled. -/
def boughtOrder : Order DecimalContext.exact where
  intentId := "buy"
  clientOrderId := "bat-buy"
  submissionAttempt := 0
  side := .buy
  strategy := .caseC
  regimeType := .type1
  requestedQuantity := 1
  submittedQuantity := 1
  marketPriceAtDecision := 80
  exchangeOrderId := some "5"
  status := some .filled
  fills := [boughtFill]
  hasAppliedResult := true
  valid := by decide +kernel

/-- The summary of that order. -/
def boughtSummary : ExecutionSummary DecimalContext.exact where
  exchangeOrderId := "5"
  clientOrderId := "bat-buy"
  symbol := supportedSymbol
  side := .buy
  strategy := .caseC
  regimeType := .type1
  exitReason := none
  requestedQuantity := 1
  submittedQuantity := 1
  aggregate := {
    executedQuantity := 1
    executedAmount := 80
    averageFillPrice := 80
    feeAmount := 0
    feeAsset := .single .usdt
    feeQuoteAmount := 0
    executedAt := 0 }
  fills := [boughtFill]

/-- The trade of that order. -/
def boughtTrade : Trade DecimalContext.exact where
  toTradeFields := tradeFieldsOf boughtOrder boughtSummary none
  valid := by decide +kernel

/-- The first save fails, and so does the reading of the clock after the second. -/
def failingTwice : HistoryEnvironment where
  clock reading := if reading = 2 then .error (.osError "clock") else .ok 0
  saveTrade
    | 0 => .error (.osError "disk full")
    | _ + 1 => .ok ()
  hasObserver := true

/-- The purchase is recorded, the sale refused while it waits, and the purchase retried. -/
def retriedCalls : List (HistoryCall DecimalContext.exact) :=
  [.recordOrderExecution boughtOrder boughtSummary none,
    .recordReconciledExternalTrade soldTrade, .retryPendingPersistence "5"]

/-- The purchase waits for the save and for the clock; the second retry publishes it before
the sale, and the observer hears of both. -/
theorem publication_law_retried : ∃ state waits controller,
    TradeHistoryLoadState.load [] 0 = .ok state ∧
    waits = TradeHistoryController.runCalls failingTwice retriedCalls (loaded state) ∧
    waiting waits = [boughtTrade] ∧ publishedTrades waits.events = [] ∧
    CallResult failingTwice waits (.retryPendingPersistence "5")
      ((HistoryCall.retryPendingPersistence "5").call failingTwice waits) ∧
    controller = TradeHistoryController.runCalls failingTwice
      [.retryPendingPersistence "5", .recordReconciledExternalTrade soldTrade] waits ∧
    publishedTrades controller.events = [boughtTrade, soldTrade] ∧
    notifiedTrades controller.events = [boughtTrade, soldTrade] ∧
    ∀ day, controller.state.performance.atDate day =
      Performance.create controller.state.tradeHistory.trades day := by
  have hload : TradeHistoryLoadState.load ([] : List (Trade DecimalContext.exact)) 0 =
      .ok ⟨{}, ⟨TradeTotals.values DecimalContext.exact {}, [], 0⟩⟩ := rfl
  have hwaits := publication_law failingTwice hload retriedCalls rfl
  have hlaw := publication_law failingTwice hload (retriedCalls ++
    [.retryPendingPersistence "5", .recordReconciledExternalTrade soldTrade]) rfl
  exact ⟨_, _, _, hload, rfl, by decide +kernel, by decide +kernel, hwaits.2.2.2.2.1 _, rfl,
    by decide +kernel, by decide +kernel, hlaw.2.1⟩

end TradeHistoryController

end Trading
