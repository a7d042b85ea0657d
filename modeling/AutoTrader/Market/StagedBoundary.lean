import AutoTrader.Market.BoundaryCommits

/-!
# A boundary that waits

What a candle of a boundary does while others of it are still missing.

* `BoundaryKlines` — the candles of a boundary; `sources` those that are committed together.
* `AwaitsBoundary` — a state of the controller that none of them has reached.
* `staged` — the state that some of them have reached.
* `observeKline_staged` — a source that comes is staged, and the boundary looks whether it is
  whole: `tryCommitAtomicBoundary_missing`, `tryCommitAtomicBoundary_whole`.
-/

namespace Market

open Trading Stateful

/-- The candles that end and start at a time, as the stream sends them: none before the time, and
the next candle of an interval no earlier than the close.  Those of an interval that the boundary
does not require play no part. -/
structure BoundaryKlines (time : Timestamp) where
  closing : Interval → Kline
  opening : Interval → Kline
  closing_interval : ∀ interval, (closing interval).interval = interval
  closing_closed : ∀ interval, (closing interval).closed = true
  closing_time : ∀ interval, (closing interval).closeTime = time
  opening_interval : ∀ interval, (opening interval).interval = interval
  opening_open : ∀ interval, (opening interval).closed = false
  opening_time : ∀ interval, (opening interval).openTime = time
  closing_symbol : ∀ interval, (closing interval).symbol = supportedMarketSymbol
  opening_symbol : ∀ interval, (opening interval).symbol = supportedMarketSymbol
  closing_event : ∀ interval, ∃ eventTime, (closing interval).eventTime = some eventTime ∧
    time ≤ eventTime
  opening_event : ∀ interval, ∃ closed opened, (closing interval).eventTime = some closed ∧
    (opening interval).eventTime = some opened ∧ time ≤ opened ∧ closed ≤ opened
  half_hour : (minuteOf time = 0 ∨ minuteOf time = 30) ∧ time % 60000000 = 0

namespace BoundaryKlines

variable {time : Timestamp} (boundary : BoundaryKlines time)

/-- The candles of an upper interval, if the boundary requires it. -/
def upper (interval : Interval) : List Kline :=
  if boundaryRequires time interval then
    [boundary.closing interval, boundary.opening interval]
  else []

/-- The candles that are committed together. -/
def sources : List Kline :=
  [boundary.closing .oneMinute, boundary.closing .thirtyMinutes] ++ boundary.upper .fourHours ++
    boundary.upper .oneDay

theorem mem_upper {interval : Interval} {kline : Kline} :
    kline ∈ boundary.upper interval ↔ boundaryRequires time interval = true ∧
      (kline = boundary.closing interval ∨ kline = boundary.opening interval) := by
  unfold upper
  split <;> simp_all

theorem mem_sources {kline : Kline} :
    kline ∈ boundary.sources ↔ ∃ interval, boundaryRequires time interval = true ∧
      (kline = boundary.closing interval ∨
        interval.isUpper = true ∧ kline = boundary.opening interval) := by
  simp only [sources, List.mem_append, List.mem_cons, List.not_mem_nil, or_false, mem_upper]
  constructor
  · rintro (((rfl | rfl) | ⟨hrequires, hkline⟩) | ⟨hrequires, hkline⟩)
    · exact ⟨.oneMinute, rfl, .inl rfl⟩
    · exact ⟨.thirtyMinutes, rfl, .inl rfl⟩
    · exact ⟨.fourHours, hrequires, hkline.imp id fun h => ⟨rfl, h⟩⟩
    · exact ⟨.oneDay, hrequires, hkline.imp id fun h => ⟨rfl, h⟩⟩
  · rintro ⟨interval, hrequires, hkline⟩
    cases interval with
    | oneMinute => exact .inl (.inl (.inl (hkline.resolve_right fun h => by cases h.1)))
    | thirtyMinutes => exact .inl (.inl (.inr (hkline.resolve_right fun h => by cases h.1)))
    | fourHours => exact .inl (.inr ⟨hrequires, hkline.imp id And.right⟩)
    | oneDay => exact .inr ⟨hrequires, hkline.imp id And.right⟩

theorem closing_ne {first second : Interval} (h : first ≠ second) :
    boundary.closing first ≠ boundary.closing second := by
  intro heq
  have := boundary.closing_interval first
  rw [heq, boundary.closing_interval] at this
  exact h this.symm

theorem opening_ne {first second : Interval} (h : first ≠ second) :
    boundary.opening first ≠ boundary.opening second := by
  intro heq
  have := boundary.opening_interval first
  rw [heq, boundary.opening_interval] at this
  exact h this.symm

theorem closing_ne_opening (first second : Interval) :
    boundary.closing first ≠ boundary.opening second := by
  intro heq
  have := boundary.closing_closed first
  rw [heq, boundary.opening_open] at this
  cases this

theorem closing_openTime (interval : Interval) :
    (boundary.closing interval).openTime + interval.duration = time := by
  have := boundary.closing_time interval
  unfold Kline.closeTime at this
  rwa [boundary.closing_interval] at this

/-- The next candle after the close is accepted. -/
theorem classify_opening (interval : Interval) :
    classifyKline (boundary.closing interval) (boundary.opening interval) = .ok .accept := by
  obtain ⟨closed, opened, hclosed, hopened, hreached, hafter⟩ := boundary.opening_event interval
  have hstart := boundary.closing_openTime interval
  have hduration := interval.duration_pos
  have hopen := boundary.opening_open interval
  unfold classifyKline
  rw [if_neg (boundary.closing_ne_opening interval interval), if_neg (by simp [hopen])]
  simp only [hclosed, hopened]
  unfold classifyTimed
  rw [boundary.opening_time, if_neg fun h => by linarith, if_neg fun h => by linarith [h.1],
    if_neg (not_lt.mpr hafter)]
  split
  · rw [if_pos]
    exact ⟨(boundary.closing_symbol interval).trans (boundary.opening_symbol interval).symm,
      (boundary.closing_interval interval).trans (boundary.opening_interval interval).symm,
      boundary.closing_closed interval, hopen,
      by rw [boundary.opening_time, boundary.opening_interval, hstart],
      by rw [boundary.opening_time]; exact hreached⟩
  · rw [if_neg fun h => by linarith [h.1]]

/-- The close after the next candle is late. -/
theorem classify_closing (interval : Interval) :
    classifyKline (boundary.opening interval) (boundary.closing interval) = .ok .lateClose := by
  obtain ⟨closed, opened, hclosed, hopened, hreached, hafter⟩ := boundary.opening_event interval
  have hstart := boundary.closing_openTime interval
  have hduration := interval.duration_pos
  have hopen := boundary.opening_open interval
  unfold classifyKline
  rw [if_neg (boundary.closing_ne_opening interval interval).symm, if_neg (by simp [hopen])]
  simp only [hclosed, hopened]
  unfold classifyTimed
  rw [boundary.opening_time, if_pos (by linarith), if_pos]
  exact ⟨boundary.closing_closed interval, hopen,
    by rw [boundary.closing_time, boundary.opening_time]⟩

end BoundaryKlines

/-! ## The state before and in between -/

/-- Nothing of the boundary has come: the latest candles are open up to its time, nothing waits,
and the candles that it commits are new to the cursors of their intervals. -/
structure AwaitsBoundary {time : Timestamp} (boundary : BoundaryKlines time) (data : MarketData) :
    Prop where
  initialized : data.initialized = true
  collecting : data.collectingInitialBuffer = false
  awaiting : data.awaitingThirtyMinuteOpen = false
  rollover : data.pendingPostBoundaryOneMinute = none
  closes : ∀ interval, data.pendingClose interval = none
  opens : ∀ interval, data.pendingOpen interval = none
  pending : data.pendingBoundaryTime = none
  deferred : data.deferredLiveKlines = []
  latest : ∀ interval, boundaryRequires time interval = true → ∃ latest,
    (data.snapshot.klinesByInterval interval).getLast? = some latest ∧ latest.closed = false ∧
      latest.openTime + interval.duration = time
  cursors : ∀ kline ∈ boundary.sources, ∀ cursor, data.streamCursor kline.interval = some cursor →
    classifyKline cursor kline = .ok .accept ∧ cursor.eventTime.isSome

namespace BoundaryKlines

variable {time : Timestamp} (boundary : BoundaryKlines time)

/-- The candles that have come wait. -/
def staged (data : MarketData) (done : List Kline) (cursors : Interval → Option Kline) :
    MarketData :=
  { data with
    pendingClose := fun interval =>
      if boundary.closing interval ∈ done then some (boundary.closing interval) else none
    pendingOpen := fun interval =>
      if boundary.opening interval ∈ done then some (boundary.opening interval) else none
    pendingBoundaryTime := if done = [] then none else some time
    streamCursor := cursors }

/-- A cursor is the one before the boundary, or a candle of the boundary that has come. -/
def CursorsOf (data : MarketData) (done : List Kline) (cursors : Interval → Option Kline) : Prop :=
  ∀ interval, cursors interval = data.streamCursor interval ∨
    (boundary.closing interval ∈ done ∧ cursors interval = some (boundary.closing interval)) ∨
    (boundary.opening interval ∈ done ∧ cursors interval = some (boundary.opening interval))

variable {boundary} {data : MarketData} {done : List Kline} {cursors : Interval → Option Kline}
  {kline : Kline}

@[simp] theorem staged_pendingClose (interval : Interval) :
    (boundary.staged data done cursors).pendingClose interval =
      if boundary.closing interval ∈ done then some (boundary.closing interval) else none := rfl

@[simp] theorem staged_pendingOpen (interval : Interval) :
    (boundary.staged data done cursors).pendingOpen interval =
      if boundary.opening interval ∈ done then some (boundary.opening interval) else none := rfl

@[simp] theorem staged_pendingBoundaryTime :
    (boundary.staged data done cursors).pendingBoundaryTime =
      if done = [] then none else some time := rfl

theorem staged_nil (h : AwaitsBoundary boundary data) :
    boundary.staged data [] data.streamCursor = data := by
  have hsame : ∀ (closes opens : Interval → Option Kline) (pending : Option Timestamp),
      closes = data.pendingClose → opens = data.pendingOpen → pending = data.pendingBoundaryTime →
      ({ data with
        pendingClose := closes
        pendingOpen := opens
        pendingBoundaryTime := pending } : MarketData) = data := by
    rintro _ _ _ rfl rfl rfl
    rfl
  exact hsame _ _ _ (funext fun interval => by simp [h.closes])
    (funext fun interval => by simp [h.opens]) (by simp [h.pending])

theorem storeClose_staged (interval : Interval) :
    { storeClose (boundary.closing interval) (boundary.staged data done cursors) with
        pendingBoundaryTime := some time } =
      boundary.staged data (boundary.closing interval :: done) cursors := by
  unfold storeClose staged
  simp only [boundary.closing_interval, MarketData.mk.injEq, true_and, and_true, reduceCtorEq,
    if_false]
  refine ⟨funext fun other => ?_, funext fun other => ?_⟩
  · by_cases hsame : other = interval
    · subst hsame
      simp
    · simp [Function.update_of_ne hsame, boundary.closing_ne hsame]
  · simp [(boundary.closing_ne_opening interval other).symm]

theorem storeOpen_staged (interval : Interval) :
    { storeOpen (boundary.opening interval) (boundary.staged data done cursors) with
        pendingBoundaryTime := some time } =
      boundary.staged data (boundary.opening interval :: done) cursors := by
  unfold storeOpen staged
  simp only [boundary.opening_interval, MarketData.mk.injEq, true_and, and_true, reduceCtorEq,
    if_false]
  refine ⟨funext fun other => ?_, funext fun other => ?_⟩
  · simp [boundary.closing_ne_opening other interval]
  · by_cases hsame : other = interval
    · subst hsame
      simp
    · simp [Function.update_of_ne hsame, boundary.opening_ne hsame]

/-! ## One candle of the boundary -/

/-- The latest candle of a required interval. -/
theorem latestOf_staged (h : AwaitsBoundary boundary data) (done : List Kline)
    (cursors : Interval → Option Kline) {interval : Interval}
    (hrequires : boundaryRequires time interval = true) :
    ∃ latest, latestOf interval (boundary.staged data done cursors) =
        .ok latest (boundary.staged data done cursors) ∧ latest.closed = false ∧
      latest.openTime + interval.duration = time := by
  obtain ⟨latest, hlatest, hopen, hend⟩ := h.latest interval hrequires
  refine ⟨latest, ?_, hopen, hend⟩
  unfold latestOf
  simp only [bind_run, get_run]
  rw [show (boundary.staged data done cursors).snapshot = data.snapshot from rfl, hlatest]
  rfl

/-- A close follows the latest candle. -/
theorem validateSnapshotSequence_closing (h : AwaitsBoundary boundary data) (done : List Kline)
    (cursors : Interval → Option Kline) {interval : Interval}
    (hrequires : boundaryRequires time interval = true) :
    validateSnapshotSequence (boundary.closing interval) (boundary.staged data done cursors) =
      .ok ⟨⟩ (boundary.staged data done cursors) := by
  obtain ⟨latest, hrun, hopen, hend⟩ := latestOf_staged h done cursors hrequires
  have hstart := boundary.closing_openTime interval
  have hsame : (boundary.closing interval).openTime = latest.openTime :=
    add_right_cancel (hstart.trans hend.symm)
  have hduration := interval.duration_pos
  unfold validateSnapshotSequence
  rw [boundary.closing_interval, bind_run, hrun]
  simp only [hsame, hopen]
  simp [not_lt.mpr hduration.le, hduration.ne']

/-- A close of the boundary, or the next candle of an upper interval. -/
theorem belongs_source (hmem : kline ∈ boundary.sources) :
    (∃ interval, boundaryRequires time interval = true ∧ kline = boundary.closing interval) ∨
      ∃ interval, boundaryRequires time interval = true ∧ interval.isUpper = true ∧
        kline = boundary.opening interval := by
  obtain ⟨interval, hrequires, rfl | ⟨hupper, rfl⟩⟩ := boundary.mem_sources.mp hmem
  · exact .inl ⟨interval, hrequires, rfl⟩
  · exact .inr ⟨interval, hrequires, hupper, rfl⟩

/-- The source takes its slot. -/
theorem storeBoundarySource_closing (h : AwaitsBoundary boundary data) {interval : Interval}
    (hrequires : boundaryRequires time interval = true) :
    storeBoundarySource (boundary.closing interval) time (boundary.staged data done cursors) =
      .ok ⟨⟩ (storeClose (boundary.closing interval) (boundary.staged data done cursors)) := by
  have hvalid := validateSnapshotSequence_closing h done cursors hrequires
  unfold storeBoundarySource stageUpperBoundarySource
  simp only [boundary.closing_interval, boundary.closing_closed, hrequires]
  split
  · simp [hvalid]
  · simp [hvalid]

theorem storeBoundarySource_opening (h : AwaitsBoundary boundary data) {interval : Interval}
    (hrequires : boundaryRequires time interval = true) (hupper : interval.isUpper = true) :
    storeBoundarySource (boundary.opening interval) time (boundary.staged data done cursors) =
      .ok ⟨⟩ (storeOpen (boundary.opening interval) (boundary.staged data done cursors)) := by
  obtain ⟨latest, hrun, -, hend⟩ := latestOf_staged h done cursors hrequires
  unfold storeBoundarySource stageUpperBoundarySource
  simp only [boundary.opening_interval, boundary.opening_open, boundary.opening_time, hrequires,
    hupper, if_true]
  simp only [staged]
  by_cases hdone : boundary.closing interval ∈ done
  · simp [hdone, boundary.closing_openTime]
  · simp only [staged] at hrun
    simp [hdone, hrun, hend]

variable (collaborators : Collaborators)

/-- What the boundary does with a source: it is stored, and the boundary looks whether it is
whole. -/
theorem stageAtomicBoundarySource_staged (h : AwaitsBoundary boundary data)
    (hmem : kline ∈ boundary.sources) :
    stageAtomicBoundarySource collaborators kline time (boundary.staged data done cursors) =
      tryCommitAtomicBoundary collaborators (boundary.staged data (kline :: done) cursors) := by
  have hshared : ¬ ∃ pendingTime ∈ (boundary.staged data done cursors).pendingBoundaryTime,
      pendingTime ≠ time := by
    unfold staged
    split <;> simp
  unfold stageAtomicBoundarySource
  simp only [bind_run, get_run]
  rw [if_neg hshared]
  rcases belongs_source hmem with ⟨interval, hrequires, rfl⟩ | ⟨interval, hrequires, hupper, rfl⟩
  · rw [bind_run, storeBoundarySource_closing h hrequires]
    simp only [bind_run, modify_run]
    rw [storeClose_staged]
  · rw [bind_run, storeBoundarySource_opening h hrequires hupper]
    simp only [bind_run, modify_run]
    rw [storeOpen_staged]

/-- A source belongs to the boundary. -/
theorem resolveAtomicBoundaryTime_staged (h : AwaitsBoundary boundary data)
    (hmem : kline ∈ boundary.sources) :
    resolveAtomicBoundaryTime kline (boundary.staged data done cursors) =
      .ok (some time) (boundary.staged data done cursors) := by
  unfold resolveAtomicBoundaryTime
  rcases belongs_source hmem with ⟨interval, hrequires, rfl⟩ | ⟨interval, hrequires, hupper, rfl⟩
  · rw [boundary.closing_interval, boundary.closing_closed, boundary.closing_time]
    split
    · rfl
    · rename_i hlower
      have hcloses : isThirtyMinuteBoundaryClose (boundary.closing interval) = true := by
        have hhalf := boundary.half_hour
        cases interval with
        | oneMinute | thirtyMinutes =>
            simp [isThirtyMinuteBoundaryClose, boundary.closing_closed, boundary.closing_interval,
              boundary.closing_time, hhalf]
        | fourHours | oneDay => simp [Interval.isUpper] at hlower
      rw [hcloses]
      rfl
  · obtain ⟨latest, hrun, -, hend⟩ := latestOf_staged h done cursors hrequires
    rw [boundary.opening_interval, boundary.opening_open, if_pos hupper]
    unfold resolveUpperOpen
    simp only [boundary.opening_interval, boundary.opening_time, staged]
    by_cases hdone : boundary.closing interval ∈ done
    · simp [hdone, boundary.closing_openTime]
    · simp only [staged] at hrun
      simp [hdone, hrun, hend]

theorem coordinateBoundarySource_staged (h : AwaitsBoundary boundary data)
    (hmem : kline ∈ boundary.sources) :
    finalState (coordinateBoundarySource collaborators kline (boundary.staged data done cursors)) =
        finalState (tryCommitAtomicBoundary collaborators
          (boundary.staged data (kline :: done) cursors)) ∧
      ∀ taken next, coordinateBoundarySource collaborators kline
          (boundary.staged data done cursors) = .ok taken next → taken = true := by
  unfold coordinateBoundarySource
  rw [bind_run, resolveAtomicBoundaryTime_staged h hmem]
  simp only [bind_run]
  rw [stageAtomicBoundarySource_staged collaborators h hmem]
  cases tryCommitAtomicBoundary collaborators (boundary.staged data (kline :: done) cursors) with
  | ok _ next => exact ⟨rfl, fun taken t hok => by cases hok; rfl⟩
  | error error next => exact ⟨rfl, fun taken t hok => by cases hok⟩

/-- A close that came first does not look like a successor or a rollover. -/
theorem coordinateAtomicBoundary_staged (h : AwaitsBoundary boundary data)
    (hmem : kline ∈ boundary.sources) (hnew : kline ∉ done) :
    finalState (coordinateAtomicBoundary collaborators kline (boundary.staged data done cursors)) =
        finalState (tryCommitAtomicBoundary collaborators
          (boundary.staged data (kline :: done) cursors)) ∧
      ∀ taken next, coordinateAtomicBoundary collaborators kline
          (boundary.staged data done cursors) = .ok taken next → taken = true := by
  unfold coordinateAtomicBoundary
  split
  · exact coordinateBoundarySource_staged collaborators h hmem
  · rename_i hlower
    rcases belongs_source hmem with ⟨interval, hrequires, rfl⟩ | ⟨interval, _, hupper, rfl⟩
    · obtain ⟨latest, hrun, -, -⟩ := latestOf_staged h done cursors hrequires
      have hsuccessor : stageSameIntervalBoundarySuccessor (boundary.closing interval)
          (boundary.staged data done cursors) = .ok false (boundary.staged data done cursors) := by
        unfold stageSameIntervalBoundarySuccessor
        simp only [bind_run, get_run, boundary.closing_interval, boundary.closing_closed, staged,
          if_neg hnew]
        simp only [staged] at hrun
        simp [hrun]
      have hrollover : coordinatePostBoundaryRollover collaborators (boundary.closing interval)
          (boundary.staged data done cursors) = .ok false (boundary.staged data done cursors) := by
        unfold coordinatePostBoundaryRollover
        simp [staged, h.awaiting, h.rollover]
      rw [bind_run, hsuccessor]
      simp only [Bool.false_eq_true, if_false]
      rw [bind_run, hrollover]
      simp only [Bool.false_eq_true, if_false]
      exact coordinateBoundarySource_staged collaborators h hmem
    · rw [boundary.opening_interval] at hlower
      exact absurd hupper hlower

/-- A source comes with an event time that the boundary has reached. -/
theorem validateKlineEventTime_source (hmem : kline ∈ boundary.sources) (state : MarketData) :
    kline.eventTime.isSome ∧ kline.symbol = supportedMarketSymbol ∧
      validateKlineEventTime kline state = .ok ⟨⟩ state := by
  rcases belongs_source hmem with ⟨interval, _, rfl⟩ | ⟨interval, _, _, rfl⟩
  · obtain ⟨eventTime, hevent, hreached⟩ := boundary.closing_event interval
    refine ⟨by rw [hevent]; rfl, boundary.closing_symbol interval, ?_⟩
    have hclose := boundary.closing_time interval
    have hstart := openTime_lt_closeTime (boundary.closing interval)
    unfold validateKlineEventTime
    simp only [hevent]
    rw [if_neg (by rw [not_lt]; linarith), if_neg fun hlate => by linarith [hlate.2]]
    rfl
  · obtain ⟨_, eventTime, -, hevent, hreached, -⟩ := boundary.opening_event interval
    refine ⟨by rw [hevent]; rfl, boundary.opening_symbol interval, ?_⟩
    unfold validateKlineEventTime
    simp only [hevent, boundary.opening_time, boundary.opening_open]
    rw [if_neg (by rw [not_lt]; linarith)]
    simp

theorem validateStreamCursor_new {previous current : Kline} (hprevious : previous.eventTime.isSome)
    (hcurrent : current.eventTime.isSome) (hclass : classifyKline previous current = .ok .accept ∨
      classifyKline previous current = .ok .lateClose) (state : MarketData) :
    validateStreamCursor previous current state = .ok false state := by
  unfold validateStreamCursor
  rw [if_neg (by simp [Option.isSome_iff_ne_none.mp hprevious,
    Option.isSome_iff_ne_none.mp hcurrent])]
  rcases hclass with hclass | hclass <;> rw [hclass] <;> rfl

/-- A source that has not come is new to every cursor. -/
theorem validateStreamCursor_staged (h : AwaitsBoundary boundary data)
    (hmem : kline ∈ boundary.sources) (hnew : kline ∉ done)
    (hcursors : CursorsOf boundary data done cursors) {previous : Kline}
    (hprevious : cursors kline.interval = some previous) (state : MarketData) :
    validateStreamCursor previous kline state = .ok false state := by
  have hcurrent := (validateKlineEventTime_source hmem state).1
  rcases hcursors kline.interval with hold | ⟨hclosing, hclosed⟩ | ⟨hopening, hopened⟩
  · obtain ⟨haccept, hevent⟩ := h.cursors kline hmem previous (hold ▸ hprevious)
    exact validateStreamCursor_new hevent hcurrent (.inl haccept) state
  · rw [hclosed] at hprevious
    cases hprevious
    rcases belongs_source hmem with ⟨interval, _, rfl⟩ | ⟨interval, _, _, rfl⟩
    · rw [boundary.closing_interval] at hclosing
      exact absurd hclosing hnew
    · rw [boundary.opening_interval]
      obtain ⟨eventTime, hevent, -⟩ := boundary.closing_event interval
      exact validateStreamCursor_new (by rw [hevent]; rfl) hcurrent
        (.inl (boundary.classify_opening interval)) state
  · rw [hopened] at hprevious
    cases hprevious
    rcases belongs_source hmem with ⟨interval, _, rfl⟩ | ⟨interval, _, _, rfl⟩
    · rw [boundary.closing_interval]
      obtain ⟨_, eventTime, -, hevent, -⟩ := boundary.opening_event interval
      exact validateStreamCursor_new (by rw [hevent]; rfl) hcurrent
        (.inr (boundary.classify_closing interval)) state
    · rw [boundary.opening_interval] at hopening
      exact absurd hopening hnew

theorem processKline_staged (h : AwaitsBoundary boundary data) (hmem : kline ∈ boundary.sources)
    (hnew : kline ∉ done) (previous : Option Kline) :
    let next := finalState (tryCommitAtomicBoundary collaborators
      (boundary.staged data (kline :: done) cursors))
    finalState (processKline collaborators previous kline (boundary.staged data done cursors)) =
        next ∨
      finalState (processKline collaborators previous kline (boundary.staged data done cursors)) =
        moveCursor kline next := by
  intro next
  obtain ⟨hstate, htaken⟩ := @coordinateAtomicBoundary_staged _ _ _ _ cursors _ collaborators h
    hmem hnew
  unfold processKline
  rw [bind_run, (validateKlineEventTime_source hmem _).2.2]
  simp only [bind_run]
  cases hrun : coordinateAtomicBoundary collaborators kline (boundary.staged data done cursors) with
  | error error t =>
      rw [hrun] at hstate
      exact .inl hstate
  | ok taken t =>
      rw [hrun] at hstate
      obtain rfl := htaken taken t hrun
      simp only [if_true]
      split
      · exact .inr (congrArg (moveCursor kline) hstate)
      · exact .inl hstate

/-- What an observed source does. -/
theorem observeKline_staged (h : AwaitsBoundary boundary data) (hmem : kline ∈ boundary.sources)
    (hnew : kline ∉ done) (hcursors : CursorsOf boundary data done cursors) :
    let next := finalState (tryCommitAtomicBoundary collaborators
      (boundary.staged data (kline :: done) cursors))
    finalState (observeKline collaborators kline (boundary.staged data done cursors)) = next ∨
      finalState (observeKline collaborators kline (boundary.staged data done cursors)) =
        moveCursor kline next := by
  intro next
  obtain ⟨hevent, hsymbol, -⟩ := validateKlineEventTime_source hmem data
  have hobserve :
      finalState (observeKline collaborators kline (boundary.staged data done cursors)) =
        finalState
          (observeValidatedKline collaborators kline (boundary.staged data done cursors)) := by
    unfold observeKline
    rw [if_neg (Option.isSome_iff_ne_none.mp hevent), if_neg (not_not.mpr hsymbol), tryCatch_run]
    cases observeValidatedKline collaborators kline (boundary.staged data done cursors) with
    | ok _ t => rfl
    | error error t => cases error <;> rfl
  have hlatest : ∃ latest, latestOf kline.interval (boundary.staged data done cursors) =
      .ok latest (boundary.staged data done cursors) ∧ latest.closed = false ∧
        latest.openTime ≤ kline.openTime := by
    rcases belongs_source hmem with ⟨interval, hrequires, rfl⟩ | ⟨interval, hrequires, _, rfl⟩
    · obtain ⟨latest, hrun, hopen, hend⟩ := latestOf_staged h done cursors hrequires
      rw [boundary.closing_interval]
      exact ⟨latest, hrun, hopen,
        (add_right_cancel (hend.trans (boundary.closing_openTime interval).symm)).le⟩
    · obtain ⟨latest, hrun, hopen, hend⟩ := latestOf_staged h done cursors hrequires
      have := interval.duration_pos
      rw [boundary.opening_interval, boundary.opening_time]
      exact ⟨latest, hrun, hopen, by linarith⟩
  obtain ⟨latest, hrun, hopen, hle⟩ := hlatest
  have hvalidated : ∃ previous,
      observeValidatedKline collaborators kline (boundary.staged data done cursors) =
        processKline collaborators previous kline (boundary.staged data done cursors) := by
    unfold observeValidatedKline
    simp only [bind_run, get_run]
    rw [if_neg (by simp [staged, h.collecting]), if_neg (by simp [staged, h.initialized]), bind_run,
      hrun]
    dsimp only
    rw [if_neg (by simp [hopen, hle])]
    cases hcursor : cursors kline.interval with
    | none => exact ⟨none, by simp only [staged, hcursor]⟩
    | some previous =>
        refine ⟨some previous, ?_⟩
        have hknown := validateStreamCursor_staged h hmem hnew hcursors hcursor
          (boundary.staged data done cursors)
        simp only [staged] at hknown
        simp [staged, hcursor, hknown]
  obtain ⟨previous, hprocess⟩ := hvalidated
  rw [hobserve, hprocess]
  exact processKline_staged collaborators h hmem hnew previous

/-! ## The whole boundary -/

theorem validateThirtyMinuteBoundaryPair_closing (boundary : BoundaryKlines time)
    (state : MarketData) :
    validateThirtyMinuteBoundaryPair (boundary.closing .oneMinute)
      (boundary.closing .thirtyMinutes) state = .ok ⟨⟩ state := by
  obtain ⟨first, hfirst, hfirstReached⟩ := boundary.closing_event .oneMinute
  obtain ⟨second, hsecond, hsecondReached⟩ := boundary.closing_event .thirtyMinutes
  unfold validateThirtyMinuteBoundaryPair
  simp [boundary.closing_interval, boundary.closing_closed, boundary.closing_symbol,
    boundary.closing_time, hfirst, hsecond, not_lt.mpr hfirstReached, not_lt.mpr hsecondReached]

theorem validateUpperBoundaryPair_source (boundary : BoundaryKlines time) (interval : Interval)
    (state : MarketData) :
    validateUpperBoundaryPair (boundary.closing interval) (boundary.opening interval) time interval
      state = .ok ⟨⟩ state := by
  obtain ⟨closed, opened, hclosed, hopened, hreached, -⟩ := boundary.opening_event interval
  obtain ⟨_, hevent, hclosedReached⟩ := boundary.closing_event interval
  rw [hclosed] at hevent
  cases hevent
  unfold validateUpperBoundaryPair
  simp [boundary.closing_interval, boundary.closing_closed, boundary.closing_symbol,
    boundary.opening_interval, boundary.opening_open, boundary.opening_symbol,
    boundary.closing_openTime, boundary.opening_time, hclosed, hopened,
    not_lt.mpr hclosedReached, not_lt.mpr hreached]

/-- The sources of an upper interval are there when all of them have come. -/
theorem upperSources_staged (boundary : BoundaryKlines time) (data : MarketData)
    (done : List Kline) (cursors : Interval → Option Kline) (interval : Interval) :
    upperSources time interval (boundary.staged data done cursors) =
      .ok (if ∀ kline ∈ boundary.upper interval, kline ∈ done then some (boundary.upper interval)
        else none) (boundary.staged data done cursors) := by
  unfold upperSources upper
  by_cases hrequires : boundaryRequires time interval = true
  · have hvalid := validateUpperBoundaryPair_source boundary interval
      (boundary.staged data done cursors)
    simp only [hrequires, if_true, bind_run, get_run, staged_pendingClose, staged_pendingOpen]
    by_cases hclosing : boundary.closing interval ∈ done
    · by_cases hopening : boundary.opening interval ∈ done
      · simp only [hclosing, hopening, if_true, bind_run, hvalid]
        simp [hclosing, hopening]
      · simp [hclosing, hopening]
    · simp [hclosing]
  · simp [hrequires]

/-- A boundary of which the minute and the thirty minutes have closed. -/
theorem tryCommitAtomicBoundary_staged (hone : boundary.closing .oneMinute ∈ done)
    (hthirty : boundary.closing .thirtyMinutes ∈ done) :
    tryCommitAtomicBoundary collaborators (boundary.staged data done cursors) =
      if (∀ kline ∈ boundary.upper .fourHours, kline ∈ done) ∧
          ∀ kline ∈ boundary.upper .oneDay, kline ∈ done then
        commitAtomicBoundary collaborators time boundary.sources
          (boundary.staged data done cursors)
      else .ok ⟨⟩ (boundary.staged data done cursors) := by
  have hsome : done ≠ [] := List.ne_nil_of_mem hone
  unfold tryCommitAtomicBoundary
  simp only [bind_run, get_run, staged_pendingClose, staged_pendingBoundaryTime, hone, hthirty,
    hsome, if_true, if_false]
  rw [validateThirtyMinuteBoundaryPair_closing]
  dsimp only
  rw [upperSources_staged]
  by_cases hfour : ∀ kline ∈ boundary.upper .fourHours, kline ∈ done
  · simp only [if_pos hfour, bind_run]
    rw [upperSources_staged]
    by_cases hday : ∀ kline ∈ boundary.upper .oneDay, kline ∈ done
    · simp only [if_pos hday, if_pos (And.intro hfour hday)]
      rfl
    · rw [if_neg hday, if_neg (hday ∘ And.right)]
      rfl
  · rw [if_neg hfour, if_neg (hfour ∘ And.left)]
    rfl

/-- While a source is missing, nothing is committed. -/
theorem tryCommitAtomicBoundary_missing {missing : Kline} (hmem : missing ∈ boundary.sources)
    (hmissing : missing ∉ done) :
    tryCommitAtomicBoundary collaborators (boundary.staged data done cursors) =
      .ok ⟨⟩ (boundary.staged data done cursors) := by
  by_cases hboth : boundary.closing .oneMinute ∈ done ∧ boundary.closing .thirtyMinutes ∈ done
  · rw [tryCommitAtomicBoundary_staged collaborators hboth.1 hboth.2, if_neg]
    rintro ⟨hfour, hday⟩
    simp only [sources, List.mem_append, List.mem_cons, List.not_mem_nil, or_false] at hmem
    rcases hmem with ((rfl | rfl) | hupper) | hupper
    · exact hmissing hboth.1
    · exact hmissing hboth.2
    · exact hmissing (hfour _ hupper)
    · exact hmissing (hday _ hupper)
  · unfold tryCommitAtomicBoundary
    simp only [bind_run, get_run, staged_pendingClose, staged_pendingBoundaryTime]
    by_cases hempty : done = []
    · simp [hempty]
    by_cases hone : boundary.closing .oneMinute ∈ done
    · simp [hempty, hone, show boundary.closing .thirtyMinutes ∉ done from fun h => hboth ⟨hone, h⟩]
    · simp [hempty, hone]

/-- The last source commits the boundary. -/
theorem tryCommitAtomicBoundary_whole (hall : ∀ kline ∈ boundary.sources, kline ∈ done) :
    tryCommitAtomicBoundary collaborators (boundary.staged data done cursors) =
      commitAtomicBoundary collaborators time boundary.sources
        (boundary.staged data done cursors) := by
  rw [tryCommitAtomicBoundary_staged collaborators (hall _ (by simp [sources]))
    (hall _ (by simp [sources])), if_pos]
  exact ⟨fun kline hmem => hall kline (by simp [sources, hmem]),
    fun kline hmem => hall kline (by simp [sources, hmem])⟩

end BoundaryKlines

end Market
