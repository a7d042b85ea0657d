import AutoTrader.Market.BoundaryCommits

/-!
# The law of the market data controller

* `Live.stageAtomicBoundarySource`, `Live.stageSuccessor`, `Live.coordinatePostBoundaryRollover`
  — candles that wait for a boundary, or for the thirty minutes after it.
* `Ready.step` — what every input keeps, and `ready_run` every run.
* `boundary_law` — which versions the live stream makes, and which of them are evaluated.
-/

namespace Market

open Trading Stateful

namespace MarketData

variable (collaborators : Collaborators) {data : MarketData} {kline : Kline}

/-! ## Candles that wait for the boundary -/

/-- The candle belongs to the boundary: it closes there, or opens there an upper interval. -/
structure Belongs (kline : Kline) (time : Timestamp) : Prop where
  closes : kline.closed = true → kline.closeTime = time
  opens : kline.closed = false → kline.interval.isUpper = true ∧ kline.openTime = time

theorem resolveUpperOpen_eq_ok {next : MarketData} {time : Timestamp}
    (hok : resolveUpperOpen kline data = .ok (some time) next) : kline.openTime = time := by
  obtain ⟨_, _, hget, hok⟩ := bind_eq_ok_iff.mp hok
  cases hget
  cases hclose : data.pendingClose kline.interval with
  | some closed =>
      simp only [hclose] at hok
      split at hok
      · cases hok
      · rename_i heq
        cases hok
        exact not_not.mp heq
  | none =>
      simp only [hclose] at hok
      obtain ⟨latest, _, -, hok⟩ := bind_eq_ok_iff.mp hok
      split at hok
      · cases hok
        rfl
      · split at hok <;> cases hok

theorem resolveAtomicBoundaryTime_eq_ok {next : MarketData} {resolved : Option Timestamp}
    (hok : resolveAtomicBoundaryTime kline data = .ok resolved next) :
    (resolved = none → Tick kline) ∧ ∀ time, resolved = some time → Belongs kline time := by
  unfold resolveAtomicBoundaryTime at hok
  split at hok
  · rename_i hupper
    split at hok
    · rename_i hclosed
      cases hok
      refine ⟨fun hnone => (by cases hnone), fun time htime => ?_⟩
      cases htime
      exact ⟨fun _ => rfl, fun hopen => absurd hclosed (by simp [hopen])⟩
    · rename_i hclosed
      have hopen : kline.closed = false := by simpa using hclosed
      refine ⟨fun _ => tick_of_open hopen, fun time htime => ?_⟩
      cases htime
      exact ⟨fun h => absurd h hclosed, fun _ => ⟨hupper, resolveUpperOpen_eq_ok hok⟩⟩
  · rename_i hupper
    cases hok
    split
    · rename_i hcloses
      refine ⟨fun hnone => (by cases hnone), fun time htime => ?_⟩
      cases htime
      simp only [isThirtyMinuteBoundaryClose, Bool.and_eq_true] at hcloses
      exact ⟨fun _ => rfl, fun hopen => absurd hcloses.1 (by simp [hopen])⟩
    · rename_i hcloses
      refine ⟨fun _ hclosed => ?_, fun time htime => (by cases htime)⟩
      cases hinterval : kline.interval with
      | oneMinute => rfl
      | thirtyMinutes => simp [isThirtyMinuteBoundaryClose, hclosed, hinterval] at hcloses
      | fourHours | oneDay => simp [hinterval, Interval.isUpper] at hupper

/-- A boundary that nothing waits for begins. -/
theorem Live.beginBoundary (h : data.Live) (hinitialized : data.initialized = true)
    (time : Timestamp) (htime : data.pendingBoundaryTime = none ∨
      data.pendingBoundaryTime = some time) :
    Live { data with pendingBoundaryTime := some time } := by
  rcases htime with hnone | hsome
  · refine { h with
      waits := (h.settled hinitialized hnone).waits h.waits.keys _
      settled := fun _ hcontra => (by cases hcontra)
      closes := fun interval kline hkline => ?_
      opens := fun interval kline hkline => ?_ }
    · have := (h.closes interval kline hkline).2.2.1
      rw [hnone] at this
      cases this
    · obtain ⟨hinterval, hopen, hstart⟩ := h.opens interval kline hkline
      refine ⟨hinterval, hopen, fun hupper => ?_⟩
      have := hstart hupper
      rw [hnone] at this
      cases this
  · rw [← hsome]
    exact h

/-- A close waits. -/
theorem Live.storeClose (h : data.Live) (hclosed : kline.closed = true)
    (htime : data.pendingBoundaryTime = some kline.closeTime)
    (hrequires : boundaryRequires kline.closeTime kline.interval = true) :
    Live (Market.storeClose kline data) := by
  refine { h with closes := fun interval other hother => ?_ }
  simp only [Market.storeClose, Function.update_apply] at hother
  split at hother
  · rename_i heq
    cases hother
    subst heq
    exact ⟨rfl, hclosed, htime, hrequires⟩
  · exact h.closes interval other hother

/-- A next candle waits. -/
theorem Live.storeOpen (h : data.Live) (hopen : kline.closed = false)
    (htime : kline.interval.isUpper = true → data.pendingBoundaryTime = some kline.openTime) :
    Live (Market.storeOpen kline data) := by
  refine { h with opens := fun interval other hother => ?_ }
  simp only [Market.storeOpen, Function.update_apply] at hother
  split at hother
  · rename_i heq
    cases hother
    subst heq
    exact ⟨rfl, hopen, htime⟩
  · exact h.opens interval other hother

/-- A source is refused, or it takes its slot. -/
theorem storeBoundarySource_cases {time : Timestamp} (hbelongs : Belongs kline time)
    (data : MarketData) :
    (∃ error, storeBoundarySource kline time data = .error error data) ∨
      (storeBoundarySource kline time data = .ok ⟨⟩ (storeClose kline data) ∧
        kline.closed = true ∧ boundaryRequires time kline.interval = true) ∨
      (storeBoundarySource kline time data = .ok ⟨⟩ (storeOpen kline data) ∧
        kline.closed = false) := by
  unfold storeBoundarySource
  split
  · unfold stageUpperBoundarySource
    split
    · exact .inl ⟨_, rfl⟩
    · rename_i hrequires
      split
      · rename_i hclosed
        rw [bind_run]
        rcases (reads_validateSnapshotSequence kline).cases data with ⟨error, hrun⟩ | ⟨_, hrun⟩ <;>
          rw [hrun]
        · exact .inl ⟨error, rfl⟩
        · exact .inr (.inl ⟨rfl, hclosed, by simpa using hrequires⟩)
      · rename_i hclosed
        have hopen : kline.closed = false := by simpa using hclosed
        simp only [bind_run, get_run]
        cases hclose : data.pendingClose kline.interval with
        | none =>
            simp only [bind_run]
            rcases (reads_latestOf kline.interval).cases data with
              ⟨error, hrun⟩ | ⟨latest, hrun⟩ <;> rw [hrun]
            · exact .inl ⟨error, rfl⟩
            · dsimp only
              split
              · exact .inl ⟨_, rfl⟩
              · exact .inr (.inr ⟨rfl, hopen⟩)
        | some closed =>
            dsimp only
            split
            · exact .inl ⟨_, rfl⟩
            · exact .inr (.inr ⟨rfl, hopen⟩)
  · rename_i hupper
    have hclosed : kline.closed = true := by
      by_contra hclosed
      exact hupper (hbelongs.opens (by simpa using hclosed)).1
    rw [bind_run]
    rcases (reads_validateSnapshotSequence kline).cases data with ⟨error, hrun⟩ | ⟨_, hrun⟩ <;>
      rw [hrun]
    · exact .inl ⟨error, rfl⟩
    · refine .inr (.inl ⟨rfl, hclosed, ?_⟩)
      cases hinterval : kline.interval with
      | oneMinute | thirtyMinutes => rfl
      | fourHours | oneDay => simp [hinterval, Interval.isUpper] at hupper

theorem Live.stageAtomicBoundarySource (h : data.Live) (hinitialized : data.initialized = true)
    {time : Timestamp} (hbelongs : Belongs kline time) :
    Live (finalState (Market.stageAtomicBoundarySource collaborators kline time data)) := by
  unfold Market.stageAtomicBoundarySource
  refine reads_get.finalState_bind h fun pending hget => ?_
  cases hget
  split
  · exact h
  · rename_i hshared
    have htime : data.pendingBoundaryTime = none ∨ data.pendingBoundaryTime = some time := by
      cases hpending : data.pendingBoundaryTime with
      | none => exact .inl rfl
      | some pendingTime =>
          right
          rw [hpending] at hshared
          simpa using hshared
    have hbegun := h.beginBoundary hinitialized time htime
    rw [bind_run]
    rcases storeBoundarySource_cases hbelongs data with
      ⟨error, hrun⟩ | ⟨hrun, hclosed, hrequires⟩ | ⟨hrun, hopen⟩ <;> rw [hrun]
    · exact h
    · have hclose := hbelongs.closes hclosed
      have hstored := hbegun.storeClose hclosed (by rw [hclose]) (hclose ▸ hrequires)
      exact hstored.tryCommitAtomicBoundary collaborators
    · refine (hbegun.storeOpen hopen fun hupper => ?_).tryCommitAtomicBoundary collaborators
      rw [(hbelongs.opens hopen).2]

theorem Live.coordinateBoundarySource (h : data.Live) (hinitialized : data.initialized = true) :
    Live (finalState (Market.coordinateBoundarySource collaborators kline data)) := by
  unfold Market.coordinateBoundarySource
  refine (reads_resolveAtomicBoundaryTime kline).finalState_bind h fun resolved hok => ?_
  cases resolved with
  | none => exact h
  | some time =>
      have hbelongs := (resolveAtomicBoundaryTime_eq_ok hok).2 time rfl
      exact finalState_bind (h.stageAtomicBoundarySource collaborators hinitialized hbelongs)
        fun _ _ _ hnext => hnext

theorem coordinateBoundarySource_eq_false {next : MarketData}
    (hok : Market.coordinateBoundarySource collaborators kline data = .ok false next) :
    Tick kline := by
  obtain ⟨resolved, _, hresolve, hok⟩ := bind_eq_ok_iff.mp hok
  cases resolved with
  | none => exact (resolveAtomicBoundaryTime_eq_ok hresolve).1 rfl
  | some time =>
      obtain ⟨_, _, -, hok⟩ := bind_eq_ok_iff.mp hok
      cases hok

/-! ## A minute or thirty minutes -/

theorem Live.stageSuccessor (h : data.Live) (kline : Kline)
    (hupper : kline.interval.isUpper = false) :
    Live (finalState (stageSameIntervalBoundarySuccessor kline data)) ∧
      ∀ t, stageSameIntervalBoundarySuccessor kline data = .ok false t → t = data := by
  have hnot : kline.interval.isUpper = true →
      data.pendingBoundaryTime = some kline.openTime := by simp [hupper]
  unfold stageSameIntervalBoundarySuccessor
  simp only [bind_run, get_run]
  cases hclose : data.pendingClose kline.interval with
  | none =>
      simp only [bind_run]
      rcases (reads_latestOf kline.interval).cases data with ⟨error, hrun⟩ | ⟨latest, hrun⟩ <;>
        rw [hrun]
      · exact ⟨h, fun t hok => by cases hok⟩
      · dsimp only
        split
        · rename_i hopens
          exact ⟨h.storeOpen hopens.1 hnot, fun t hok => by cases hok⟩
        · exact ⟨h, fun t hok => by cases hok; rfl⟩
  | some closed =>
      obtain ⟨hinterval, -, htime, hrequires⟩ := h.closes _ closed hclose
      dsimp only
      split
      · rename_i hsame
        split
        · exact ⟨h, fun t hok => by cases hok⟩
        · rename_i hclosed
          have hend : kline.closeTime = closed.closeTime := by
            unfold Kline.closeTime
            rw [hsame, hinterval]
          exact ⟨h.storeClose (by simpa using hclosed) (hend ▸ htime) (hend ▸ hrequires),
            fun t hok => by cases hok⟩
      · split
        · exact ⟨h, fun t hok => by cases hok⟩
        · rename_i hnext
          simp only [not_or, not_not, Bool.not_eq_true] at hnext
          exact ⟨h.storeOpen hnext.2 hnot, fun t hok => by cases hok⟩

theorem Live.rolloverOneMinute (h : data.Live) (latest : Kline)
    (hinterval : kline.interval = .oneMinute) :
    Live (finalState (Market.rolloverOneMinute latest kline data)) := by
  unfold Market.rolloverOneMinute
  split
  · exact h
  · refine (reads_validateSnapshotSequence kline).finalState_bind h fun _ _ => ?_
    refine reads_get.finalState_bind h fun pending hget => ?_
    split
    · exact h
    · refine h.awaiting data.awaitingThirtyMinuteOpen fun other hother => ?_
      rw [← Option.some.inj hother]
      exact hinterval

theorem Live.rolloverThirtyMinutes (h : data.Live) (latest : Kline) :
    Live (finalState (Market.rolloverThirtyMinutes collaborators latest kline data)) := by
  unfold Market.rolloverThirtyMinutes
  split
  · exact h
  · rename_i hnext
    simp only [not_or, not_not, Bool.not_eq_true] at hnext
    refine finalState_bind (h.mergeNext collaborators (tick_of_open hnext.2))
      fun _ t _ hopened => ?_
    have hawaits := hopened.awaiting false hopened.rollover
    refine finalState_bind hawaits fun _ u hmodify _ => ?_
    cases hmodify
    refine reads_get.finalState_bind hawaits fun pending hget => ?_
    cases hget
    cases hminute : t.pendingPostBoundaryOneMinute with
    | none => exact hawaits
    | some oneMinute =>
        have htick := tick_of_oneMinute (hopened.rollover oneMinute hminute)
        have hlast : Live { t with
            awaitingThirtyMinuteOpen := false
            pendingPostBoundaryOneMinute := none } :=
          hopened.awaiting false fun _ hnone => (by cases hnone)
        refine finalState_bind hlast fun _ v hmodify _ => ?_
        cases hmodify
        exact finalState_bind (hlast.mergeNext collaborators htick) fun _ _ _ hmerged => hmerged

theorem Live.coordinatePostBoundaryRollover (h : data.Live) :
    Live (finalState (Market.coordinatePostBoundaryRollover collaborators kline data)) := by
  unfold Market.coordinatePostBoundaryRollover
  refine reads_get.finalState_bind h fun pending hget => ?_
  cases hget
  split
  · split <;> exact h
  · refine (reads_latestOf _).finalState_bind h fun latest _ => ?_
    split
    · exact h
    · split
      · rename_i hinterval
        exact h.rolloverOneMinute latest hinterval
      · exact h.rolloverThirtyMinutes collaborators latest

/-- A rollover that does not take the candle leaves the state. -/
theorem coordinatePostBoundaryRollover_eq_false {next : MarketData}
    (hok : Market.coordinatePostBoundaryRollover collaborators kline data = .ok false next) :
    next = data := by
  obtain ⟨_, _, hget, hok⟩ := bind_eq_ok_iff.mp hok
  cases hget
  split at hok
  · split at hok
    · cases hok
    · cases hok
      rfl
  · exfalso
    obtain ⟨latest, _, -, hok⟩ := bind_eq_ok_iff.mp hok
    split at hok
    · cases hok
    · split at hok
      · unfold Market.rolloverOneMinute at hok
        split at hok
        · cases hok
        · obtain ⟨_, _, -, hok⟩ := bind_eq_ok_iff.mp hok
          obtain ⟨_, _, -, hok⟩ := bind_eq_ok_iff.mp hok
          split at hok
          · cases hok
          · obtain ⟨_, _, -, hok⟩ := bind_eq_ok_iff.mp hok
            cases hok
      · unfold Market.rolloverThirtyMinutes at hok
        split at hok
        · cases hok
        · obtain ⟨_, _, -, hok⟩ := bind_eq_ok_iff.mp hok
          obtain ⟨_, _, -, hok⟩ := bind_eq_ok_iff.mp hok
          obtain ⟨pending, _, -, hok⟩ := bind_eq_ok_iff.mp hok
          cases hminute : pending.pendingPostBoundaryOneMinute with
          | none =>
              simp only [hminute] at hok
              cases hok
          | some oneMinute =>
              simp only [hminute] at hok
              obtain ⟨_, _, -, hok⟩ := bind_eq_ok_iff.mp hok
              obtain ⟨_, _, -, hok⟩ := bind_eq_ok_iff.mp hok
              cases hok

/-! ## A candle -/

theorem Live.coordinateAtomicBoundary (h : data.Live) (hinitialized : data.initialized = true) :
    Live (finalState (Market.coordinateAtomicBoundary collaborators kline data)) := by
  unfold Market.coordinateAtomicBoundary
  split
  · exact h.coordinateBoundarySource collaborators hinitialized
  · rename_i hupper
    obtain ⟨hsuccessor, hleft⟩ := h.stageSuccessor kline (by simpa using hupper)
    refine finalState_bind hsuccessor fun taken t hok hnext => ?_
    cases taken with
    | true => exact hnext
    | false =>
        obtain rfl := hleft t hok
        refine finalState_bind (h.coordinatePostBoundaryRollover collaborators)
          fun taken u hok hnext => ?_
        cases taken with
        | true => exact hnext
        | false =>
            obtain rfl := coordinatePostBoundaryRollover_eq_false collaborators hok
            exact h.coordinateBoundarySource collaborators hinitialized

/-- A candle that no boundary takes closes at most a minute. -/
theorem coordinateAtomicBoundary_eq_false {next : MarketData}
    (hok : Market.coordinateAtomicBoundary collaborators kline data = .ok false next) :
    Tick kline := by
  unfold Market.coordinateAtomicBoundary at hok
  split at hok
  · exact coordinateBoundarySource_eq_false collaborators hok
  · obtain ⟨taken, _, -, hok⟩ := bind_eq_ok_iff.mp hok
    cases taken with
    | true => cases hok
    | false =>
        obtain ⟨taken, _, -, hok⟩ := bind_eq_ok_iff.mp hok
        cases taken with
        | true => cases hok
        | false => exact coordinateBoundarySource_eq_false collaborators hok

theorem Live.moveCursor (h : data.Live) : Live (Market.moveCursor kline data) := { h with }

theorem Live.processTick (h : data.Live) (htick : Tick kline) :
    Live (finalState (Market.processTick collaborators kline data)) := by
  unfold Market.processTick
  refine (reads_validateSnapshotSequence kline).finalState_bind h fun _ _ => ?_
  refine (reads_validateFourHourTick kline).finalState_bind h fun _ _ => ?_
  obtain ⟨hmerged, hfresh⟩ := h.mergeTick collaborators htick
  refine finalState_bind hmerged fun _ t hok hnext => ?_
  have hmoved : Live (Market.moveCursor kline t) := hnext.moveCursor
  refine finalState_bind hmoved fun _ u hmodify _ => ?_
  cases hmodify
  have hfresh := hfresh t hok
  exact hmoved.publish collaborators ⟨hfresh.made, hfresh.publications⟩ [kline]

theorem Live.processKline (h : data.Live) (hinitialized : data.initialized = true)
    (previous : Option Kline) :
    Live (finalState (Market.processKline collaborators previous kline data)) := by
  unfold Market.processKline
  refine (reads_validateKlineEventTime kline).finalState_bind h fun _ _ => ?_
  refine finalState_bind (h.coordinateAtomicBoundary collaborators hinitialized)
    fun taken t hok hnext => ?_
  cases taken with
  | true =>
      simp only [reduceIte]
      split
      · exact hnext.moveCursor
      · exact hnext
  | false => exact hnext.processTick collaborators (coordinateAtomicBoundary_eq_false _ hok)

/-- What the controller keeps between two inputs. -/
structure Ready (data : MarketData) : Prop extends Sound data where
  starting : data.initializing = true → data.deferredLiveKlines = [] ∧ data.initialized = false

theorem Live.ready (h : data.Live) : Ready data :=
  { h with starting := fun hinitializing => by rw [h.live] at hinitializing; cases hinitializing }

theorem Ready.live (h : data.Ready) (hinitialized : data.initialized = true) : Live data where
  toSound := h.toSound
  live := by
    by_contra hinitializing
    have := (h.starting (by simpa using hinitializing)).2
    rw [hinitialized] at this
    cases this

theorem Ready.observeValidatedKline (h : data.Ready) :
    Ready (finalState (Market.observeValidatedKline collaborators kline data)) := by
  unfold Market.observeValidatedKline
  refine reads_get.finalState_bind h fun pending hget => ?_
  cases hget
  split
  · exact { h with }
  · split
    · exact h
    · rename_i hinitialized
      have hlive := h.live (by simpa using hinitialized)
      have hprocess : ∀ previous,
          Ready (finalState (Market.processKline collaborators previous kline data)) :=
        fun previous =>
          (hlive.processKline collaborators (by simpa using hinitialized) previous).ready
      refine (reads_latestOf _).finalState_bind h fun latest _ => ?_
      split
      · exact h
      · cases data.streamCursor kline.interval with
        | none => exact hprocess none
        | some previous =>
            refine (reads_validateStreamCursor previous kline).finalState_bind h fun known _ => ?_
            cases known with
            | true => exact h
            | false => exact hprocess (some previous)

theorem Ready.observeKline (h : data.Ready) :
    Ready (finalState (Market.observeKline collaborators kline data)) := by
  unfold Market.observeKline
  split
  · exact h
  · split
    · exact h
    · refine finalState_tryCatch (h.observeValidatedKline collaborators) fun error t hnext => ?_
      cases error <;> exact hnext

/-! ## Generations -/

theorem Sound.dropGeneration (h : data.Sound) : Sound (Market.dropGeneration data) :=
  { h with
    waits := ⟨h.waits.keys, h.waits.atomic, fun _ htime => (by cases htime)⟩
    settled := fun hinitialized => (by cases hinitialized)
    closes := fun _ _ hkline => (by cases hkline)
    opens := fun _ _ hkline => (by cases hkline)
    rollover := fun _ hkline => (by cases hkline) }

theorem Ready.beginInitialization (h : data.Ready) :
    Ready (Market.beginInitialization data) :=
  { h.toSound.dropGeneration with
    waits := Clear.waits (fun _ hmem => (by cases hmem)) Wellkeyed.nil _
    settled := fun hinitialized => (by cases hinitialized)
    starting := fun _ => ⟨rfl, rfl⟩ }

/-- A snapshot that was not made by the live stream. -/
theorem Live.newSnapshot (h : data.Live) {snapshot : MarketState}
    (hversion : data.snapshot.version ≤ snapshot.version) (updates : ℕ) :
    Live { data with snapshot := snapshot, updates := updates } :=
  { h with commits_le := fun commit hmem => (h.commits_le commit hmem).trans hversion }

/-- A generation that is built, with nothing of a boundary deferred. -/
def Building (data : MarketData) : Prop := data.Live ∧ Clear data.deferredLiveKlines

theorem Building.loadSnapshot (h : data.Building) (rest : KlinesByInterval) :
    Building (finalState (Market.loadSnapshot collaborators rest data)) := by
  unfold Market.loadSnapshot
  simp only [bind_run, get_run, MarketSnapshot.update_run]
  cases hcandidate : MarketSnapshot.candidate _ _ _ _ with
  | ok snapshot =>
      have hversion := (MarketSnapshot.candidate_eq_ok hcandidate).version
      exact ⟨h.1.newSnapshot (by omega) _, h.2⟩
  | error error => exact ⟨h.1.newSnapshot le_rfl _, h.2⟩

theorem Building.openGeneration (h : data.Building) : Building (Market.openGeneration data) :=
  ⟨{ h.1 with settled := fun _ _ => h.2 }, h.2⟩

theorem Building.completeGeneration (h : data.Building) (version : ℕ) (liveReady : Bool) :
    Building (finalState (Market.completeGeneration collaborators version liveReady data)) := by
  unfold Market.completeGeneration
  split
  · exact h
  · exact (reads_raiseCallee _).finalState_bind h fun _ _ => ⟨{ h.1 with }, h.2⟩

theorem Building.buildGeneration (h : data.Building) (rest : KlinesByInterval) (liveReady : Bool) :
    Building (finalState (Market.buildGeneration collaborators rest liveReady data)) := by
  unfold Market.buildGeneration
  refine finalState_bind (h.loadSnapshot collaborators rest) fun _ t _ hloaded => ?_
  refine reads_get.finalState_bind hloaded fun _ _ => ?_
  refine (reads_raiseCallee _).finalState_bind hloaded fun _ _ => ?_
  split
  · exact hloaded
  · refine (reads_raiseCallee _).finalState_bind hloaded fun _ _ => ?_
    refine finalState_bind hloaded.openGeneration fun _ u hmodify _ => ?_
    cases hmodify
    exact hloaded.openGeneration.completeGeneration collaborators _ liveReady

theorem Ready.dropGeneration (h : data.Ready) : Ready (Market.dropGeneration data) :=
  { h.toSound.dropGeneration with
    starting := fun hinitializing => ⟨(h.starting hinitializing).1, rfl⟩ }

theorem Ready.completeInitialization (h : data.Ready) (rest : KlinesByInterval)
    (liveReady : Bool) :
    Ready (finalState (Market.completeInitialization collaborators rest liveReady data)) := by
  unfold Market.completeInitialization
  refine reads_get.finalState_bind h fun pending hget => ?_
  cases hget
  split
  · rename_i hinitializing
    have hempty := (h.starting hinitializing).1
    have hbuilding : Building { data with initializing := false } := by
      refine ⟨{ h.toSound with live := rfl }, ?_⟩
      rw [show ({ data with initializing := false } : MarketData).deferredLiveKlines = [] from
        hempty]
      exact fun _ hmem => (by cases hmem)
    refine finalState_bind hbuilding.1.ready fun _ t hmodify _ => ?_
    cases hmodify
    refine finalState_tryCatch
      (hbuilding.buildGeneration collaborators rest liveReady).1.ready fun error t hnext => ?_
    exact finalState_bind hnext.dropGeneration fun _ _ _ hdropped => hdropped
  · exact h

theorem Ready.step (h : data.Ready) (input : MarketInput) :
    Ready (step collaborators data input) := by
  cases input with
  | begin =>
      unfold MarketData.step
      dsimp only
      split
      · exact h
      · exact h.beginInitialization
  | complete rest liveReady => exact h.completeInitialization collaborators rest liveReady
  | abandon =>
      unfold MarketData.step
      dsimp only
      split
      · exact { h.toSound.dropGeneration with starting := fun hcontra => (by cases hcontra) }
      · exact h
  | observe kline => exact h.observeKline collaborators
  | lose => exact h.dropGeneration

theorem ready_start : Ready {} where
  waits := Clear.waits (fun _ hmem => (by cases hmem)) Wellkeyed.nil _
  settled _ _ := fun _ hmem => (by cases hmem)
  closes _ _ hkline := by cases hkline
  opens _ _ hkline := by cases hkline
  rollover _ hkline := by cases hkline
  commits _ hmem := by cases hmem
  commits_le _ hmem := by cases hmem
  commits_increase := .nil
  publications _ hmem := by cases hmem
  publications_increase := .nil
  evaluations _ hmem := by cases hmem
  evaluations_increase := .nil
  starting hcontra := by cases hcontra

theorem ready_run (inputs : List MarketInput) : Ready (run collaborators inputs) := by
  unfold run
  generalize hstart : ({} : MarketData) = start
  have hready : Ready start := hstart ▸ ready_start
  clear hstart
  induction inputs generalizing start with
  | nil => exact hready
  | cons input inputs ih => exact ih _ (hready.step collaborators input)

end MarketData

/-! ## The law -/

/-- In every run, whatever the order in which the candles come, whatever the clock says, whoever
fails and however often the stream is lost: the live versions increase and each is as it should be,
its candles above the minute closing with their whole boundary only; evaluations are published of
live versions, of each at most once and in their order; and so is the regime evaluated, only of
versions that close four hours. -/
theorem boundary_law (collaborators : Collaborators) (inputs : List MarketInput) :
    let data := MarketData.run collaborators inputs
    (∀ commit ∈ data.commits, commit.Sound ∧ commit.snapshot.version ≤ data.snapshot.version) ∧
      (data.commits.map (·.snapshot.version)).Pairwise (· < ·) ∧
      (∀ publication ∈ data.publications, data.Made publication.version) ∧
      (data.publications.map (·.version)).Pairwise (· < ·) ∧
      (∀ version ∈ data.regimeEvaluations, data.ClosesFourHours version) ∧
      data.regimeEvaluations.Pairwise (· < ·) := by
  have h := MarketData.ready_run collaborators inputs
  exact ⟨fun commit hmem => ⟨h.commits commit hmem, h.commits_le commit hmem⟩, h.commits_increase,
    h.publications, h.publications_increase, h.evaluations, h.evaluations_increase⟩

end Market
