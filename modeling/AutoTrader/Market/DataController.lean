import AutoTrader.Market.MarketSnapshot
import AutoTrader.Market.StreamOrdering

/-!
# The market data controller

`MarketDataController` of `application/market_data_controller.py`: how the candles of the live
stream become versions of the market snapshot.

* `MarketData` — the fields of the controller, and what it committed and published.
* `mergeKlinesIntoSnapshot` — one version of the snapshot, and the candles that wait for it.
* `coordinateAtomicBoundary` — the candles that close or open several intervals at once wait
  for each other.
* `observeKline`, `beginInitialization`, `completeInitialization`, `dropGeneration` — what
  happens to the controller, and `MarketData.run` a sequence of it.

`publish_recovery_evaluation` is no input: it publishes an evaluation of the snapshot once more
and changes no field of the controller.
-/

namespace Market

open Trading

/-! ## The state -/

/-- What an operation of the controller raises. -/
inductive StreamError where
  /-- `_PendingCandleBoundary`. -/
  | pendingCandleBoundary
  /-- `MarketDataStreamStateError`. -/
  | streamState (message : String)
  /-- `MarketStreamUnavailableError`. -/
  | streamUnavailable (message : String)
  | indexError
  /-- An exception of a callee. -/
  | raised (error : TradingError)
  deriving DecidableEq, Repr

/-- A version that the live stream made: its candles, and the snapshot that holds them. -/
structure LiveCommit where
  sources : List Kline
  snapshot : MarketState

/-- A market evaluation that was handed to the observer. -/
structure Publication where
  version : ℕ
  sources : List Kline

/-- The key under which a candle is deferred. -/
structure DeferKey where
  interval : Interval
  openTime : Timestamp
  deriving DecidableEq

/-- The deferred candles, in the order they came. -/
abbrev DeferredKlines := List (DeferKey × Kline)

/-- The controller.  `initializing` is whether an initialization holds its lock, `updates` how
many updates of the snapshot read the clock; the last three fields record what was done. -/
structure MarketData where
  snapshot : MarketState := {}
  initializing : Bool := false
  collectingInitialBuffer : Bool := false
  initialBuffer : List Kline := []
  initialized : Bool := false
  marketAvailable : Bool := false
  streamCursor : Interval → Option Kline := fun _ => none
  deferredLiveKlines : DeferredKlines := []
  pendingClose : Interval → Option Kline := fun _ => none
  pendingOpen : Interval → Option Kline := fun _ => none
  pendingBoundaryTime : Option Timestamp := none
  pendingPostBoundaryOneMinute : Option Kline := none
  awaitingThirtyMinuteOpen : Bool := false
  updates : ℕ := 0
  commits : List LiveCommit := []
  regimeEvaluations : List ℕ := []
  publications : List Publication := []

/-- What the controller works with.  What a collaborator does with a version of the snapshot may
depend on everything before it, so it is given for each version. -/
structure Collaborators where
  klineLimit : ℕ
  /-- The clock at each update of the snapshot. -/
  clock : ℕ → Timestamp
  /-- `evaluate_regime` and `reconcile_regime`: the version of the result, if there is one. -/
  evaluateRegime : ℕ → Except TradingError (Option ℕ)
  /-- Whether a builder and an observer of evaluations are there. -/
  evaluates : Bool
  /-- The builder: whether it makes an evaluation. -/
  buildEvaluation : ℕ → Except TradingError Bool
  /-- `rebase` of the builder. -/
  rebase : ℕ → Except TradingError Unit
  /-- `observe_market_evaluation`. -/
  observeEvaluation : ℕ → Except TradingError Unit
  /-- `complete_market_stream_reconciliation`. -/
  completeReconciliation : ℕ → Except TradingError Unit

/-- An operation of the controller. -/
abbrev MarketAction (α : Type) := EStateM StreamError MarketData α

/-- A call that raises its own exception. -/
def raiseCallee {α : Type} : Except TradingError α → MarketAction α
  | .ok a => pure a
  | .error error => throw (.raised error)

/-! ## Boundaries -/

def minuteOf (time : Timestamp) : ℤ := time / 60000000 % 60

def hourOf (time : Timestamp) : ℤ := time / 3600000000 % 24

/-- `_is_four_hour_boundary`. -/
def isFourHourBoundary (time : Timestamp) : Bool :=
  hourOf time % 4 = 0 ∧ minuteOf time = 0 ∧ time % 60000000 = 0

/-- `_is_one_day_boundary`. -/
def isOneDayBoundary (time : Timestamp) : Bool :=
  hourOf time = 0 ∧ minuteOf time = 0 ∧ time % 60000000 = 0

/-- The intervals whose candles a boundary closes.  For the upper two,
`_boundary_requires_interval`. -/
def boundaryRequires (time : Timestamp) : Interval → Bool
  | .oneMinute | .thirtyMinutes => true
  | .fourHours => isFourHourBoundary time
  | .oneDay => isOneDayBoundary time

/-- Four hours and one day, whose next candle is part of the boundary. -/
def Interval.isUpper : Interval → Bool
  | .oneMinute | .thirtyMinutes => false
  | .fourHours | .oneDay => true

/-- `_is_thirty_minute_boundary_close`. -/
def isThirtyMinuteBoundaryClose (kline : Kline) : Bool :=
  kline.closed && match kline.interval with
    | .thirtyMinutes => true
    | .oneMinute => (minuteOf kline.closeTime = 0 ∨ minuteOf kline.closeTime = 30) ∧
        kline.closeTime % 60000000 = 0
    | _ => false

/-! ## Checks -/

/-- `klines_by_interval[interval][-1]` of the snapshot. -/
def latestOf (interval : Interval) : MarketAction Kline := do
  match ((← get).snapshot.klinesByInterval interval).getLast? with
  | some latest => pure latest
  | none => throw .indexError

/-- `_validate_kline_event_time`. -/
def validateKlineEventTime (kline : Kline) : MarketAction PUnit := do
  match kline.eventTime with
  | none => throw (.streamState "Kline event time must not precede its open time")
  | some eventTime =>
      if eventTime < kline.openTime then
        throw (.streamState "Kline event time must not precede its open time")
      else if kline.closed ∧ eventTime < kline.closeTime then
        throw (.streamState "closed Kline event time must reach its close boundary")

/-- `_validate_stream_cursor`: whether the candle says nothing new. -/
def validateStreamCursor (previous current : Kline) : MarketAction Bool := do
  if previous.eventTime = none ∨ current.eventTime = none then
    throw (.streamState "stream cursors require WebSocket event times")
  match ← raiseCallee (classifyKline previous current) with
  | .conflict => throw (.streamState "conflicting Kline update requires resync")
  | .duplicate | .stale => pure true
  | .accept | .lateClose => pure false

/-- `_validate_snapshot_sequence`. -/
def validateSnapshotSequence (kline : Kline) : MarketAction PUnit := do
  let latest ← latestOf kline.interval
  if latest.openTime + kline.interval.duration < kline.openTime then
    throw (.streamState "Kline gap requires a full market resynchronization")
  if kline.openTime < latest.openTime then
    throw (.streamState "Kline is older than the authoritative snapshot")
  if kline.interval ≠ .fourHours ∧ kline.openTime = latest.openTime ∧ latest.closed ∧
      kline.closed = false then
    throw (.streamState "a closed Kline cannot become open again")
  if kline.interval ≠ .fourHours ∧ kline.openTime = latest.openTime + kline.interval.duration ∧
      latest.closed = false then
    throw (.streamState "new Kline arrived before the previous close")

/-- `_validate_thirty_minute_boundary_pair`. -/
def validateThirtyMinuteBoundaryPair (oneMinute thirtyMinutes : Kline) : MarketAction PUnit := do
  if oneMinute.interval ≠ .oneMinute ∨ thirtyMinutes.interval ≠ .thirtyMinutes ∨
      oneMinute.closed = false ∨ thirtyMinutes.closed = false then
    throw (.streamState "boundary pair requires closed one- and thirty-minute Klines")
  if oneMinute.symbol ≠ thirtyMinutes.symbol then
    throw (.streamState "boundary pair Kline symbols must match")
  if oneMinute.closeTime ≠ thirtyMinutes.closeTime then
    throw (.streamState "one- and thirty-minute Klines must close at the same boundary")
  if ∃ kline ∈ [oneMinute, thirtyMinutes], ∀ eventTime ∈ kline.eventTime,
      eventTime < oneMinute.closeTime then
    throw (.streamState "boundary close event time must reach the shared boundary")

/-- `_validate_upper_boundary_pair`. -/
def validateUpperBoundaryPair (closed opened : Kline) (time : Timestamp) (interval : Interval) :
    MarketAction PUnit := do
  if closed.interval ≠ interval ∨ opened.interval ≠ interval ∨ closed.closed = false ∨
      opened.closed then
    throw (.streamState "upper boundary requires one closed and one open Kline")
  if closed.symbol ≠ opened.symbol then
    throw (.streamState "upper boundary Kline symbols must match")
  if closed.openTime + interval.duration ≠ time ∨ opened.openTime ≠ time then
    throw (.streamState "upper boundary Klines must share the active boundary")
  if ∃ kline ∈ [closed, opened], ∀ eventTime ∈ kline.eventTime, eventTime < time then
    throw (.streamState "upper boundary event time must reach the boundary")

/-! ## One version of the snapshot -/

def Kline.deferKey (kline : Kline) : DeferKey := ⟨kline.interval, kline.openTime⟩

/-- The candle is deferred, unless it would reopen a closed one. -/
def defer (deferred : DeferredKlines) (kline : Kline) : DeferredKlines :=
  match deferred.lookup kline.deferKey with
  | some previous =>
      if previous.closed && !kline.closed then deferred
      else Dict.insert kline.deferKey kline deferred
  | none => Dict.insert kline.deferKey kline deferred

/-- The committed candles are no longer deferred. -/
def undefer (deferred : DeferredKlines) (committed : List Kline) : DeferredKlines :=
  committed.foldl (fun entries kline => Dict.erase kline.deferKey entries) deferred

/-- The candles of an interval after the observed ones took the place of those with their open
times; the last ones of them. -/
def mergedKlines (limit : ℕ) (existing observed : List Kline) : List Kline :=
  let entries := (existing ++ observed).foldl
    (fun entries kline => Dict.insert kline.openTime kline entries)
    ([] : List (Timestamp × Kline))
  let sorted := (entries.map Prod.snd).insertionSort fun first second =>
    first.openTime ≤ second.openTime
  sorted.drop (sorted.length - limit)

/-- The candles of every interval with the observed ones among them. -/
def nextKlines (limit : ℕ) (snapshot : MarketState) (observed : List Kline) :
    Interval → Option (List Kline) := fun interval =>
  some (mergedKlines limit (snapshot.klinesByInterval interval)
    (observed.filter fun kline => kline.interval = interval))

/-- The errors of an update that say that the clock has not reached the candles yet. -/
def isSnapshotTimeError : TradingError → Bool
  | .valueError message => message ∈ [
      "open Kline must contain the snapshot time",
      "closed Kline must end by the snapshot time",
      "Kline open time must not be in the future",
      "the open four-hour Kline must contain the snapshot time",
      "the latest four-hour Kline must be open",
      "only the latest four-hour Kline may be open"]
  | _ => false

section Operations

variable (collaborators : Collaborators)

/-- `_merge_klines_into_snapshot`. -/
def mergeKlinesIntoSnapshot (observed : List Kline) (includeDeferred : Bool) :
    MarketAction PUnit := do
  modify fun data =>
    { data with deferredLiveKlines := observed.foldl defer data.deferredLiveKlines }
  let data ← get
  if ∃ interval ∈ supportedIntervals,
      2 < data.deferredLiveKlines.countP fun entry => entry.1.interval = interval then
    throw (.streamState "pending boundary exceeded two candles per interval")
  let sources := if includeDeferred then data.deferredLiveKlines.map Prod.snd else observed
  match MarketSnapshot.update (nextKlines collaborators.klineLimit data.snapshot sources)
      (some sources) (collaborators.clock data.updates) data.snapshot with
  | .ok _ snapshot => set { data with
      snapshot
      updates := data.updates + 1
      deferredLiveKlines := undefer data.deferredLiveKlines sources
      commits := data.commits ++ [LiveCommit.mk sources snapshot] }
  | .error error snapshot => do
      set { data with snapshot, updates := data.updates + 1 }
      if isSnapshotTimeError error then throw .pendingCandleBoundary else throw (.raised error)

/-- `_publish_market_evaluation`. -/
def publishMarketEvaluation (sources : List Kline) : MarketAction PUnit := do
  if collaborators.evaluates then
    let version := (← get).snapshot.version
    if ← raiseCallee (collaborators.buildEvaluation version) then
      modify fun data => { data with publications := data.publications ++ [⟨version, sources⟩] }
      raiseCallee (collaborators.observeEvaluation version)

/-- A version of one candle, and its evaluation. -/
def mergeAndPublish (kline : Kline) (includeDeferred : Bool) : MarketAction PUnit := do
  mergeKlinesIntoSnapshot collaborators [kline] includeDeferred
  publishMarketEvaluation collaborators [kline]

/-- A version of a candle that follows the present one. -/
def mergeNext (kline : Kline) : MarketAction PUnit := do
  validateSnapshotSequence kline
  mergeAndPublish collaborators kline true

/-! ## The boundary -/

/-- `_clear_pending_atomic_boundary`. -/
def clearPendingAtomicBoundary (data : MarketData) : MarketData :=
  { data with
    pendingClose := fun _ => none
    pendingOpen := fun _ => none
    pendingBoundaryTime := none }

/-- The regime is evaluated for the version, once. -/
def evaluateFourHourRegime : MarketAction PUnit := do
  let version := (← get).snapshot.version
  modify fun data => { data with regimeEvaluations := data.regimeEvaluations ++ [version] }
  if (← raiseCallee (collaborators.evaluateRegime version)) ≠ some version then
    throw (.streamState "four-hour REGIME evaluation did not bind the market version")

/-- The deferred candles after a boundary, each in a version of its own. -/
def commitDeferred : List Kline → MarketAction PUnit
  | [] => pure ⟨⟩
  | kline :: klines => do
      if kline.interval.isUpper = false then
        throw (.streamState "unexpected deferred strategy source at atomic boundary")
      mergeAndPublish collaborators kline false
      commitDeferred klines

/-- The minute that opened while the boundary waited.  It waits on if the thirty minutes have not
opened. -/
def commitMinuteSuccessor (thirtyMinutesOpened : Bool) : Option Kline → MarketAction PUnit
  | none => pure ⟨⟩
  | some kline =>
      if thirtyMinutesOpened then mergeNext collaborators kline
      else modify fun data => { data with pendingPostBoundaryOneMinute := some kline }

/-- The candles that opened while the boundary waited, the thirty minutes first. -/
def commitSuccessors (thirtyMinutes oneMinute : Option Kline) : MarketAction PUnit := do
  match thirtyMinutes with
  | none => commitMinuteSuccessor collaborators false oneMinute
  | some kline => do
      mergeNext collaborators kline
      modify fun data => { data with awaitingThirtyMinuteOpen := false }
      commitMinuteSuccessor collaborators true oneMinute

/-- What follows the version of a boundary. -/
def finishAtomicBoundary (sources : List Kline) (thirtyMinutes oneMinute : Option Kline) :
    MarketAction PUnit := do
  publishMarketEvaluation collaborators sources
  commitDeferred collaborators ((← get).deferredLiveKlines.map Prod.snd)
  commitSuccessors collaborators thirtyMinutes oneMinute

/-- `_commit_atomic_boundary`. -/
def commitAtomicBoundary (time : Timestamp) (sources : List Kline) : MarketAction PUnit := do
  let pending ← get
  mergeKlinesIntoSnapshot collaborators sources false
  modify fun data => clearPendingAtomicBoundary { data with awaitingThirtyMinuteOpen := true }
  if isFourHourBoundary time then evaluateFourHourRegime collaborators
  finishAtomicBoundary collaborators sources (pending.pendingOpen .thirtyMinutes)
    (pending.pendingOpen .oneMinute)

/-- The two sources of an upper interval, if the boundary requires them; `none` while they are
not all there. -/
def upperSources (time : Timestamp) (interval : Interval) : MarketAction (Option (List Kline)) := do
  if boundaryRequires time interval then
    let data ← get
    match data.pendingClose interval, data.pendingOpen interval with
    | some closed, some opened => do
        validateUpperBoundaryPair closed opened time interval
        pure (some [closed, opened])
    | _, _ => pure none
  else pure (some [])

/-- `_try_commit_atomic_boundary`. -/
def tryCommitAtomicBoundary : MarketAction PUnit := do
  let data ← get
  match data.pendingBoundaryTime, data.pendingClose .oneMinute,
      data.pendingClose .thirtyMinutes with
  | some time, some oneMinute, some thirtyMinutes => do
      validateThirtyMinuteBoundaryPair oneMinute thirtyMinutes
      match ← upperSources time .fourHours with
      | none => pure ⟨⟩
      | some fourHours =>
          match ← upperSources time .oneDay with
          | none => pure ⟨⟩
          | some oneDay =>
              commitAtomicBoundary collaborators time
                ([oneMinute, thirtyMinutes] ++ fourHours ++ oneDay)
  | _, _, _ => pure ⟨⟩

/-- The close of an interval waits for the boundary. -/
def storeClose (kline : Kline) (data : MarketData) : MarketData :=
  { data with pendingClose := Function.update data.pendingClose kline.interval (some kline) }

/-- The next candle of an interval waits for the boundary. -/
def storeOpen (kline : Kline) (data : MarketData) : MarketData :=
  { data with pendingOpen := Function.update data.pendingOpen kline.interval (some kline) }

/-- `_stage_upper_boundary_source`. -/
def stageUpperBoundarySource (kline : Kline) (time : Timestamp) : MarketAction PUnit := do
  if boundaryRequires time kline.interval = false then
    throw (.streamState "upper Kline does not belong to the active UTC boundary")
  else if kline.closed then
    validateSnapshotSequence kline
    modify (storeClose kline)
  else
    match (← get).pendingClose kline.interval with
    | none => do
        let latest ← latestOf kline.interval
        if kline.openTime ≠ latest.openTime + kline.interval.duration then
          throw (.streamState "upper boundary requires the exact next open Kline")
        else modify (storeOpen kline)
    | some closed =>
        if kline.openTime ≠ closed.openTime + kline.interval.duration ∨ kline.openTime ≠ time then
          throw (.streamState "upper boundary requires the exact next open Kline")
        else modify (storeOpen kline)

/-- The source takes its slot. -/
def storeBoundarySource (kline : Kline) (time : Timestamp) : MarketAction PUnit := do
  if kline.interval.isUpper then
    stageUpperBoundarySource kline time
  else
    validateSnapshotSequence kline
    modify (storeClose kline)

/-- `_stage_atomic_boundary_source`. -/
def stageAtomicBoundarySource (kline : Kline) (time : Timestamp) : MarketAction PUnit := do
  if ∃ pendingTime ∈ (← get).pendingBoundaryTime, pendingTime ≠ time then
    throw (.streamState "atomic Kline sources must share one boundary")
  else
    storeBoundarySource kline time
    modify fun data => { data with pendingBoundaryTime := some time }
    tryCommitAtomicBoundary collaborators

/-- The boundary at which an open candle of an upper interval starts, if it is not the present
one. -/
def resolveUpperOpen (kline : Kline) : MarketAction (Option Timestamp) := do
  let data ← get
  match data.pendingClose kline.interval with
  | some closed =>
      if kline.openTime ≠ closed.openTime + kline.interval.duration then
        throw (.streamState "upper boundary exceeded its bounded next-open slot")
      return some (closed.openTime + kline.interval.duration)
  | none => do
      let latest ← latestOf kline.interval
      if kline.openTime = latest.openTime + kline.interval.duration then
        return some kline.openTime
      if ∃ time ∈ data.pendingBoundaryTime, boundaryRequires time kline.interval then
        throw (.streamState "upper boundary open arrived before its closed Kline")
      return none

/-- `_resolve_atomic_boundary_time`: the boundary that the candle closes, or opens for an upper
interval. -/
def resolveAtomicBoundaryTime (kline : Kline) : MarketAction (Option Timestamp) := do
  if kline.interval.isUpper then
    if kline.closed then return some kline.closeTime
    resolveUpperOpen kline
  else return if isThirtyMinuteBoundaryClose kline then some kline.closeTime else none

/-- `_stage_same_interval_boundary_successor`, for a minute or thirty minutes. -/
def stageSameIntervalBoundarySuccessor (kline : Kline) : MarketAction Bool := do
  match (← get).pendingClose kline.interval with
  | none => do
      let latest ← latestOf kline.interval
      let boundary := latest.openTime + kline.interval.duration
      if kline.closed = false ∧ latest.closed = false ∧ kline.openTime = boundary ∧
          (minuteOf boundary = 0 ∨ minuteOf boundary = 30) then
        modify (storeOpen kline)
        return true
      else return false
  | some closed =>
      if kline.openTime = closed.openTime then
        if kline.closed = false then
          throw (.streamState "a pending boundary close cannot become open again")
        else
          modify (storeClose kline)
          return true
      else if kline.openTime ≠ closed.openTime + kline.interval.duration ∨ kline.closed then
        throw (.streamState "thirty-minute boundary exceeded its bounded next-open buffer")
      else
        modify (storeOpen kline)
        return true

/-- `_coordinate_post_boundary_rollover` for a minute: it waits for the thirty minutes. -/
def rolloverOneMinute (latest kline : Kline) : MarketAction Bool := do
  if kline.openTime ≠ latest.openTime + Interval.thirtyMinutes.duration then
    throw (.streamState "one-minute rollover exceeded its bounded boundary slot")
  else
    validateSnapshotSequence kline
    if (∃ pending ∈ (← get).pendingPostBoundaryOneMinute, pending.closed) ∧
        kline.closed = false then
      throw (.streamState "a pending one-minute rollover cannot reopen")
    else
      modify fun data => { data with pendingPostBoundaryOneMinute := some kline }
      return true

/-- `_coordinate_post_boundary_rollover` for thirty minutes: a version of them, and then one of
the minute that waited. -/
def rolloverThirtyMinutes (latest kline : Kline) : MarketAction Bool := do
  if kline.openTime ≠ latest.openTime + Interval.thirtyMinutes.duration ∨ kline.closed then
    throw (.streamState "closed boundary requires the exact next thirty-minute open")
  else
    mergeNext collaborators kline
    modify fun data => { data with awaitingThirtyMinuteOpen := false }
    match (← get).pendingPostBoundaryOneMinute with
    | none => return true
    | some oneMinute => do
        modify fun data => { data with pendingPostBoundaryOneMinute := none }
        mergeNext collaborators oneMinute
        return true

/-- `_coordinate_post_boundary_rollover`. -/
def coordinatePostBoundaryRollover (kline : Kline) : MarketAction Bool := do
  let data ← get
  if data.awaitingThirtyMinuteOpen = false then
    if data.pendingPostBoundaryOneMinute.isSome then
      throw (.streamState "pending one-minute rollover outlived the closed boundary")
    else return false
  else
    let latest ← latestOf .thirtyMinutes
    if latest.closed = false then
      throw (.streamState "post-boundary rollover requires a closed thirty-minute Kline")
    else if kline.interval = .oneMinute then rolloverOneMinute latest kline
    else rolloverThirtyMinutes collaborators latest kline

/-- The boundary that the candle belongs to, if any, takes it. -/
def coordinateBoundarySource (kline : Kline) : MarketAction Bool := do
  match ← resolveAtomicBoundaryTime kline with
  | none => return false
  | some time => do
      stageAtomicBoundarySource collaborators kline time
      return true

/-- `_coordinate_atomic_boundary`: whether the boundary took the candle. -/
def coordinateAtomicBoundary (kline : Kline) : MarketAction Bool := do
  if kline.interval.isUpper then coordinateBoundarySource collaborators kline
  else if ← stageSameIntervalBoundarySuccessor kline then return true
  else if ← coordinatePostBoundaryRollover collaborators kline then return true
  else coordinateBoundarySource collaborators kline

/-! ## Candles -/

/-- The cursor of the candle's interval. -/
def moveCursor (kline : Kline) (data : MarketData) : MarketData :=
  { data with streamCursor := Function.update data.streamCursor kline.interval (some kline) }

/-- A tick of four hours is of the present candle. -/
def validateFourHourTick (kline : Kline) : MarketAction PUnit := do
  if kline.interval = .fourHours then
    let latest ← latestOf .fourHours
    if kline.closed ∨ kline.openTime ≠ latest.openTime then
      throw (.streamState "four-hour rollover requires an atomic boundary batch")

/-- A version of a candle that no boundary took, `_observe_four_hour_kline` among them. -/
def processTick (kline : Kline) : MarketAction PUnit := do
  validateSnapshotSequence kline
  validateFourHourTick kline
  mergeKlinesIntoSnapshot collaborators [kline] true
  modify (moveCursor kline)
  publishMarketEvaluation collaborators [kline]

/-- `_observe_validated_kline` after the candle was found to be new. -/
def processKline (previous : Option Kline) (kline : Kline) : MarketAction PUnit := do
  validateKlineEventTime kline
  if ← coordinateAtomicBoundary collaborators kline then
    if ∀ cursor ∈ previous, cursor.openTime ≤ kline.openTime then
      modify (moveCursor kline)
  else processTick collaborators kline

/-- `_observe_validated_kline`. -/
def observeValidatedKline (kline : Kline) : MarketAction PUnit := do
  let data ← get
  if data.collectingInitialBuffer then
    set { data with initialBuffer := data.initialBuffer ++ [kline] }
  else if data.initialized = false then
    throw (.streamState "market data must be initialized before live observation")
  else do
    let latest ← latestOf kline.interval
    if kline.openTime < latest.openTime ∨
        kline.openTime = latest.openTime ∧ latest.closed ∧ kline.closed = false then
      pure ⟨⟩
    else match data.streamCursor kline.interval with
      | none => processKline collaborators none kline
      | some previous =>
          if ← validateStreamCursor previous kline then pure ⟨⟩
          else processKline collaborators (some previous) kline

/-- `observe_kline`. -/
def observeKline (kline : Kline) : MarketAction PUnit :=
  if kline.eventTime = none then
    throw (.raised (.valueError "observed Kline must contain an event time"))
  else if kline.symbol ≠ supportedMarketSymbol then
    throw (.raised (.valueError "Kline symbol must match the MarketSnapshot"))
  else tryCatch (observeValidatedKline collaborators kline) fun
    | .pendingCandleBoundary => pure ⟨⟩
    | error => throw error

/-! ## Generations of the stream -/

/-- What belongs to one generation of the stream is dropped; the snapshot stays. -/
def dropGeneration (data : MarketData) : MarketData :=
  clearPendingAtomicBoundary { data with
    collectingInitialBuffer := false
    initialBuffer := []
    initialized := false
    marketAvailable := false
    streamCursor := fun _ => none
    pendingPostBoundaryOneMinute := none
    awaitingThirtyMinuteOpen := false }

/-- `_initialize_market_data` up to the subscription. -/
def beginInitialization (data : MarketData) : MarketData :=
  { dropGeneration data with
    initializing := true
    collectingInitialBuffer := true
    deferredLiveKlines := [] }

/-- The buffered candles of an interval take the place of those of REST that are not closed. -/
def mergeBuffered (limit : ℕ) (rest buffered : List Kline) : List Kline :=
  let candidates := buffered.foldl
    (fun candidates kline =>
      match candidates.lookup kline.openTime with
      | some previous =>
          if previous.closed then candidates else Dict.insert kline.openTime kline candidates
      | none => Dict.insert kline.openTime kline candidates)
    (rest.foldl (fun entries kline => Dict.insert kline.openTime kline entries)
      ([] : List (Timestamp × Kline)))
  let sorted := (candidates.map Prod.snd).insertionSort fun first second =>
    first.openTime ≤ second.openTime
  sorted.drop (sorted.length - limit)

/-- The snapshot is loaded from REST and the buffered candles. -/
def loadSnapshot (rest : KlinesByInterval) : MarketAction PUnit := do
  let data ← get
  let input := fun interval => some (mergeBuffered collaborators.klineLimit (rest interval)
    (data.initialBuffer.filter fun kline => kline.interval = interval))
  match MarketSnapshot.update input none (collaborators.clock data.updates) data.snapshot with
  | .ok _ snapshot => set { data with snapshot, updates := data.updates + 1 }
  | .error error snapshot => do
      set { data with snapshot, updates := data.updates + 1 }
      throw (.raised error)

/-- The stream is observed from the snapshot on.  The latest candles that came from the stream
are its cursors. -/
def openGeneration (data : MarketData) : MarketData :=
  { data with
    streamCursor := fun interval =>
      ((data.snapshot.klinesByInterval interval).getLast?).filter fun latest =>
        latest.eventTime.isSome
    collectingInitialBuffer := false
    initialBuffer := []
    initialized := true }

/-- The market is available when the stream is still connected. -/
def completeGeneration (version : ℕ) (liveReady : Bool) : MarketAction PUnit := do
  if liveReady = false then
    throw (.streamUnavailable "Kline stream disconnected during market evaluation")
  else
    raiseCallee (collaborators.completeReconciliation version)
    modify fun data => { data with marketAvailable := true }

/-- `_initialize_market_data` from the merge of the REST candles on. -/
def buildGeneration (rest : KlinesByInterval) (liveReady : Bool) : MarketAction PUnit := do
  loadSnapshot collaborators rest
  let version := (← get).snapshot.version
  if (← raiseCallee (collaborators.evaluateRegime version)) ≠ some version then
    throw (.streamState "REGIME reconciliation did not bind the market version")
  else
    raiseCallee (if collaborators.evaluates then collaborators.rebase version else .ok ())
    modify openGeneration
    completeGeneration collaborators version liveReady

/-- `_initialize_market_data` after REST answered; a failure drops the generation. -/
def completeInitialization (rest : KlinesByInterval) (liveReady : Bool) : MarketAction PUnit := do
  if (← get).initializing then
    modify fun data => { data with initializing := false }
    tryCatch (buildGeneration collaborators rest liveReady) fun error => do
      modify dropGeneration
      throw error

/-- What happens to the controller: an initialization begins, ends after REST answered, or fails
before; a candle comes; or the stream is lost or closed. -/
inductive MarketInput where
  | begin
  | complete (rest : KlinesByInterval) (liveReady : Bool)
  | abandon
  | observe (kline : Kline)
  | lose

namespace MarketData

/-- One of these.  An exception of it leaves the changes made before. -/
def step (data : MarketData) : MarketInput → MarketData
  | .begin => if data.initializing then data else beginInitialization data
  | .complete rest liveReady =>
      Stateful.finalState (completeInitialization collaborators rest liveReady data)
  | .abandon =>
      if data.initializing then { dropGeneration data with initializing := false } else data
  | .observe kline => Stateful.finalState (observeKline collaborators kline data)
  | .lose => dropGeneration data

/-- The controller after all of these. -/
def run (inputs : List MarketInput) : MarketData := inputs.foldl (step collaborators) {}

end MarketData

end Operations

end Market
