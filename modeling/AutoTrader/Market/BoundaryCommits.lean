import AutoTrader.Market.DeferredKlines
import AutoTrader.Support.ControlFlow

/-!
# The commit of a boundary

What the live stream keeps while versions of the snapshot are made.

* `MarketData.Sound` — what every operation keeps; `Live` while nothing is being initialized.
* `mergeKlinesIntoSnapshot_cases` — a merge makes a version, or leaves the candles deferred.
* `Live.mergeTick`, `Live.mergeBatch`, `Live.publish` — the versions and their evaluations.
* `Live.tryCommitAtomicBoundary` — a boundary whose sources are all there is committed.
-/

namespace Market

open Trading Stateful

/-! ## What every operation keeps -/

/-- A version of the live stream as it should be. -/
structure LiveCommit.Sound (commit : LiveCommit) : Prop where
  atomic : Atomic commit.sources
  present : ∀ source ∈ commit.sources, source ∈ commit.snapshot.klinesByInterval source.interval
  continuous : ∀ interval, Continuous interval (commit.snapshot.klinesByInterval interval)
  closed_before_last : ∀ interval, ∀ kline ∈ (commit.snapshot.klinesByInterval interval).dropLast,
    kline.closed = true
  four_hours_open : ∃ latest,
    (commit.snapshot.klinesByInterval .fourHours).getLast? = some latest ∧ latest.closed = false

namespace MarketData

/-- A live version with the number. -/
def Made (data : MarketData) (version : ℕ) : Prop :=
  ∃ commit ∈ data.commits, commit.snapshot.version = version

/-- A live version with the number, which closes four hours. -/
def ClosesFourHours (data : MarketData) (version : ℕ) : Prop :=
  ∃ commit ∈ data.commits, commit.snapshot.version = version ∧
    ∃ time, Ends commit.sources .fourHours time

structure Sound (data : MarketData) : Prop where
  waits : Waits data.pendingBoundaryTime data.deferredLiveKlines
  settled : data.initialized = true → data.pendingBoundaryTime = none →
    Clear data.deferredLiveKlines
  closes : ∀ interval kline, data.pendingClose interval = some kline →
    kline.interval = interval ∧ kline.closed = true ∧
      data.pendingBoundaryTime = some kline.closeTime ∧
      boundaryRequires kline.closeTime interval = true
  opens : ∀ interval kline, data.pendingOpen interval = some kline →
    kline.interval = interval ∧ kline.closed = false ∧
      (interval.isUpper = true → data.pendingBoundaryTime = some kline.openTime)
  rollover : ∀ kline, data.pendingPostBoundaryOneMinute = some kline → kline.interval = .oneMinute
  commits : ∀ commit ∈ data.commits, commit.Sound
  commits_le : ∀ commit ∈ data.commits, commit.snapshot.version ≤ data.snapshot.version
  commits_increase : (data.commits.map (·.snapshot.version)).Pairwise (· < ·)
  publications : ∀ publication ∈ data.publications, data.Made publication.version
  publications_increase : (data.publications.map (·.version)).Pairwise (· < ·)
  evaluations : ∀ version ∈ data.regimeEvaluations, data.ClosesFourHours version
  evaluations_increase : data.regimeEvaluations.Pairwise (· < ·)

/-- The present version is a live one that was not published. -/
structure Unpublished (data : MarketData) : Prop where
  made : data.Made data.snapshot.version
  publications : ∀ publication ∈ data.publications, publication.version < data.snapshot.version

/-- Its regime was not evaluated either. -/
structure Fresh (data : MarketData) : Prop extends Unpublished data where
  evaluations : ∀ version ∈ data.regimeEvaluations, version < data.snapshot.version

/-- In a live generation nothing is being initialized. -/
structure Live (data : MarketData) : Prop extends Sound data where
  live : data.initializing = false

variable {data : MarketData}

theorem Made.mono {version : ℕ} {next : MarketData} (h : data.Made version)
    (hsub : ∀ commit ∈ data.commits, commit ∈ next.commits) : next.Made version := by
  obtain ⟨commit, hmem, heq⟩ := h
  exact ⟨commit, hsub commit hmem, heq⟩

theorem ClosesFourHours.mono {version : ℕ} {next : MarketData} (h : data.ClosesFourHours version)
    (hsub : ∀ commit ∈ data.commits, commit ∈ next.commits) : next.ClosesFourHours version := by
  obtain ⟨commit, hmem, heq⟩ := h
  exact ⟨commit, hsub commit hmem, heq⟩

theorem Sound.publication_le (h : data.Sound) {publication : Publication}
    (hmem : publication ∈ data.publications) : publication.version ≤ data.snapshot.version := by
  obtain ⟨commit, hcommit, heq⟩ := h.publications publication hmem
  exact heq ▸ h.commits_le commit hcommit

theorem Sound.evaluation_le (h : data.Sound) {version : ℕ}
    (hmem : version ∈ data.regimeEvaluations) : version ≤ data.snapshot.version := by
  obtain ⟨commit, hcommit, heq, -⟩ := h.evaluations version hmem
  exact heq ▸ h.commits_le commit hcommit

/-- Other candles are deferred. -/
theorem Live.deferred (h : data.Live) {deferred : DeferredKlines} (updates : ℕ)
    (hwaits : Waits data.pendingBoundaryTime deferred)
    (hsettled : data.pendingBoundaryTime = none → Clear data.deferredLiveKlines → Clear deferred) :
    Live { data with deferredLiveKlines := deferred, updates := updates } :=
  { h with
    waits := hwaits
    settled := fun hinitialized hnone => hsettled hnone (h.settled hinitialized hnone) }

/-- A version is made. -/
theorem Live.commit (h : data.Live) {sources : List Kline} {snapshot : MarketState}
    {deferred : DeferredKlines} {input : Interval → Option (List Kline)} {now : Timestamp}
    (updates : ℕ)
    (hupdate : MarketSnapshot.UpdatedState data.snapshot input (some sources) now snapshot)
    (hatomic : Atomic sources) (hkeys : Wellkeyed deferred) (hclear : Clear deferred) :
    let next := { data with
      snapshot := snapshot
      updates := updates
      deferredLiveKlines := deferred
      commits := data.commits ++ [LiveCommit.mk sources snapshot] }
    Live next ∧ Fresh next := by
  intro next
  have hsub : ∀ commit ∈ data.commits, commit ∈ next.commits :=
    fun commit hmem => List.mem_append_left _ hmem
  have hlast : LiveCommit.mk sources snapshot ∈ next.commits := by simp [next]
  have hversion : snapshot.version = data.snapshot.version + 1 := hupdate.version
  have hmade : ∀ commit ∈ next.commits,
      commit ∈ data.commits ∨ commit = LiveCommit.mk sources snapshot := by simp [next]
  refine ⟨{
    waits := hclear.waits hkeys _
    settled := fun _ _ => hclear
    closes := h.closes
    opens := h.opens
    rollover := h.rollover
    commits := fun commit hmem => ?_
    commits_le := fun commit hmem => ?_
    commits_increase := ?_
    publications := fun publication hmem => (h.publications publication hmem).mono hsub
    publications_increase := h.publications_increase
    evaluations := fun version hmem => (h.evaluations version hmem).mono hsub
    evaluations_increase := h.evaluations_increase
    live := h.live }, ⟨⟨_, hlast, rfl⟩, fun publication hmem => ?_⟩, fun version hmem => ?_⟩
  · rcases hmade commit hmem with hold | rfl
    · exact h.commits commit hold
    · obtain ⟨latest, hlatest, hopen, -⟩ := hupdate.four_hours_open
      exact ⟨hatomic, hupdate.sources_present.2, hupdate.continuous, hupdate.closed_before_last,
        latest, hlatest, hopen⟩
  · rcases hmade commit hmem with hold | rfl
    · have := h.commits_le commit hold
      show commit.snapshot.version ≤ snapshot.version
      omega
    · exact le_rfl
  · show ((data.commits ++ [LiveCommit.mk sources snapshot]).map _).Pairwise _
    rw [List.map_append, List.pairwise_append]
    refine ⟨h.commits_increase, by simp, ?_⟩
    intro version hmem last hlast
    obtain ⟨commit, hcommit, rfl⟩ := List.mem_map.mp hmem
    have := h.commits_le commit hcommit
    simp only [List.map_cons, List.map_nil, List.mem_singleton] at hlast
    omega
  · have := h.publication_le hmem
    show publication.version < snapshot.version
    omega
  · have := h.evaluation_le hmem
    show version < snapshot.version
    omega

/-! ## A version of the snapshot -/

section Operations

variable (collaborators : Collaborators)

/-- A merge defers the candles, and if the snapshot takes them they are a version. -/
theorem mergeKlinesIntoSnapshot_cases (observed : List Kline) (includeDeferred : Bool)
    (data : MarketData) :
    let deferred := observed.foldl defer data.deferredLiveKlines
    let sources := if includeDeferred then candles deferred else observed
    (∃ error updates, mergeKlinesIntoSnapshot collaborators observed includeDeferred data =
        .error error { data with deferredLiveKlines := deferred, updates := updates }) ∨
      ∃ snapshot input now,
        mergeKlinesIntoSnapshot collaborators observed includeDeferred data = .ok ⟨⟩ { data with
          snapshot := snapshot
          updates := data.updates + 1
          deferredLiveKlines := undefer deferred sources
          commits := data.commits ++ [LiveCommit.mk sources snapshot] } ∧
        MarketSnapshot.UpdatedState data.snapshot input (some sources) now snapshot := by
  intro deferred sources
  unfold mergeKlinesIntoSnapshot
  simp only [bind_run, modify_run, get_run]
  split
  · exact .inl ⟨_, data.updates, rfl⟩
  · simp only [MarketSnapshot.update_run]
    cases hcandidate : MarketSnapshot.candidate _ _ _ _ with
    | ok snapshot => exact .inr ⟨snapshot, _, _, rfl, MarketSnapshot.candidate_eq_ok hcandidate⟩
    | error error =>
        left
        dsimp only
        split
        · exact ⟨_, data.updates + 1, rfl⟩
        · exact ⟨_, data.updates + 1, rfl⟩

/-- A tick is merged with everything that is deferred. -/
theorem Live.mergeTick (h : data.Live) {kline : Kline} (htick : Tick kline) :
    Live (finalState (mergeKlinesIntoSnapshot collaborators [kline] true data)) ∧
      ∀ t, mergeKlinesIntoSnapshot collaborators [kline] true data = .ok ⟨⟩ t → Fresh t := by
  have hwaits := h.waits.tick htick
  rcases mergeKlinesIntoSnapshot_cases collaborators [kline] true data with
    ⟨error, updates, hrun⟩ | ⟨snapshot, input, now, hrun, hupdate⟩
  · rw [hrun]
    refine ⟨h.deferred updates hwaits fun _ hclear => hclear.defer h.waits.keys htick, ?_⟩
    intro t hok
    cases hok
  · rw [hrun]
    have hnone : undefer (defer data.deferredLiveKlines kline)
        (candles (defer data.deferredLiveKlines kline)) = [] := undefer_values hwaits.keys
    obtain ⟨hlive, hfresh⟩ := h.commit (data.updates + 1) hupdate hwaits.atomic
      (hnone ▸ Wellkeyed.nil) (hnone ▸ by intro other hmem; cases hmem)
    refine ⟨hlive, fun t hok => ?_⟩
    cases hok
    exact hfresh

/-- The sources of a boundary are merged alone. -/
theorem Live.mergeBatch (h : data.Live) {time : Timestamp} {sources : List Kline}
    (htime : data.pendingBoundaryTime = some time) (hbatch : Batch time sources) :
    Live (finalState (mergeKlinesIntoSnapshot collaborators sources false data)) ∧
      ∀ t, mergeKlinesIntoSnapshot collaborators sources false data = .ok ⟨⟩ t →
        Fresh t ∧ Clear t.deferredLiveKlines ∧
          (∀ interval, Ends sources interval time →
            ∃ commit ∈ t.commits, commit.snapshot.version = t.snapshot.version ∧
              Ends commit.sources interval time) := by
  have hold := h.waits
  rw [htime] at hold
  obtain ⟨hwaits, hclear⟩ := hold.batch hbatch
  rcases mergeKlinesIntoSnapshot_cases collaborators sources false data with
    ⟨error, updates, hrun⟩ | ⟨snapshot, input, now, hrun, hupdate⟩
  · rw [hrun]
    refine ⟨h.deferred updates (by rw [htime]; exact hwaits) ?_, ?_⟩
    · rw [htime]
      exact fun hnone => by cases hnone
    · intro t hok
      cases hok
  · rw [hrun]
    obtain ⟨hlive, hfresh⟩ := h.commit (data.updates + 1) hupdate hbatch.atomic
      (hwaits.keys.undefer sources) hclear
    refine ⟨hlive, fun t hok => ?_⟩
    cases hok
    exact ⟨hfresh, hclear, fun interval hends =>
      ⟨LiveCommit.mk sources snapshot, by simp, rfl, hends⟩⟩

/-- A candle that opens is merged alone, with nothing of a boundary deferred. -/
theorem Live.mergeSingle (h : data.Live) {kline : Kline} (htick : Tick kline)
    (hclear : Clear data.deferredLiveKlines) :
    let r := mergeKlinesIntoSnapshot collaborators [kline] false data
    Live (finalState r) ∧ Clear (finalState r).deferredLiveKlines ∧
      ∀ t, r = .ok ⟨⟩ t → Fresh t := by
  intro r
  have hdeferred := hclear.defer h.waits.keys htick
  have hkeys := h.waits.keys.defer kline
  rcases mergeKlinesIntoSnapshot_cases collaborators [kline] false data with
    ⟨error, updates, hrun⟩ | ⟨snapshot, input, now, hrun, hupdate⟩
  · simp only [r, hrun]
    refine ⟨h.deferred updates (hdeferred.waits hkeys _) fun _ _ => hdeferred, hdeferred, ?_⟩
    intro t hok
    cases hok
  · simp only [r, hrun]
    have hatomic : Atomic [kline] := atomic_of_ticks (by simpa using htick)
    have hrest := hdeferred.undefer hkeys [kline]
    obtain ⟨hlive, hfresh⟩ := h.commit (data.updates + 1) hupdate hatomic
      (hkeys.undefer [kline]) hrest
    refine ⟨hlive, hrest, fun t hok => ?_⟩
    cases hok
    exact hfresh

/-! ## Evaluations -/

/-- An evaluation that is published, or none. -/
theorem publishMarketEvaluation_cases (sources : List Kline) (data : MarketData) :
    finalState (publishMarketEvaluation collaborators sources data) = data ∨
      finalState (publishMarketEvaluation collaborators sources data) = { data with
        publications := data.publications ++ [Publication.mk data.snapshot.version sources] } := by
  unfold publishMarketEvaluation
  split
  · simp only [bind_run, get_run]
    cases collaborators.buildEvaluation data.snapshot.version with
    | error error => exact .inl rfl
    | ok evaluated =>
        cases evaluated with
        | false => exact .inl rfl
        | true =>
            right
            cases collaborators.observeEvaluation data.snapshot.version <;>
              simp [raiseCallee]
  · exact .inl rfl

theorem Live.publish (h : data.Live) (hfresh : data.Unpublished) (sources : List Kline) :
    Live (finalState (publishMarketEvaluation collaborators sources data)) := by
  rcases publishMarketEvaluation_cases collaborators sources data with heq | heq <;> rw [heq]
  · exact h
  · refine { h with
      publications := fun publication hmem => ?_
      publications_increase := ?_ }
    · rcases List.mem_append.mp hmem with hold | hnew
      · exact h.publications publication hold
      · rw [List.mem_singleton.mp hnew]
        exact hfresh.made
    · rw [List.map_append, List.pairwise_append]
      refine ⟨h.publications_increase, by simp, ?_⟩
      intro version hmem last hlast
      obtain ⟨publication, hpublication, rfl⟩ := List.mem_map.mp hmem
      simp only [List.map_cons, List.map_nil, List.mem_singleton] at hlast
      rw [hlast]
      exact hfresh.publications publication hpublication

theorem publish_deferred (sources : List Kline) (data : MarketData) :
    (finalState (publishMarketEvaluation collaborators sources data)).deferredLiveKlines =
      data.deferredLiveKlines := by
  rcases publishMarketEvaluation_cases collaborators sources data with heq | heq <;> rw [heq]

theorem Live.mergeAndPublish (h : data.Live) {kline : Kline} (htick : Tick kline) :
    Live (finalState (mergeAndPublish collaborators kline true data)) := by
  unfold Market.mergeAndPublish
  obtain ⟨hlive, hfresh⟩ := h.mergeTick collaborators htick
  refine finalState_bind hlive fun a t hok hnext => ?_
  exact hnext.publish collaborators (hfresh t hok).toUnpublished [kline]

theorem Live.mergeAndPublishSingle (h : data.Live) {kline : Kline} (htick : Tick kline)
    (hclear : Clear data.deferredLiveKlines) :
    let next := finalState (Market.mergeAndPublish collaborators kline false data)
    Live next ∧ Clear next.deferredLiveKlines := by
  unfold Market.mergeAndPublish
  obtain ⟨hlive, hrest, hfresh⟩ := h.mergeSingle collaborators htick hclear
  refine @finalState_bind _ _ _ _
    (fun next : MarketData => Live next ∧ Clear next.deferredLiveKlines) _ _ _ ⟨hlive, hrest⟩
    fun a t hok hnext => ?_
  refine ⟨hnext.1.publish collaborators (hfresh t hok).toUnpublished [kline], ?_⟩
  rw [publish_deferred]
  exact hnext.2

end Operations

end MarketData

/-! ## Checks leave the state -/

theorem reads_raiseCallee {α : Type} (x : Except TradingError α) :
    Reads (raiseCallee x : MarketAction α) := by
  cases x with
  | ok a => exact reads_pure a
  | error error => exact reads_throw _

theorem reads_latestOf (interval : Interval) : Reads (latestOf interval) := by
  refine reads_get.bind fun data => ?_
  split
  · exact reads_pure _
  · exact reads_throw _

theorem reads_validateKlineEventTime (kline : Kline) : Reads (validateKlineEventTime kline) := by
  unfold validateKlineEventTime
  split
  · exact reads_throw _
  · split
    · exact reads_throw _
    · split
      · exact reads_throw _
      · exact reads_pure _

theorem reads_validateStreamCursor (previous current : Kline) :
    Reads (validateStreamCursor previous current) := by
  unfold validateStreamCursor
  split
  · exact reads_throw _
  · refine (reads_raiseCallee _).bind fun disposition => ?_
    cases disposition
    all_goals first | exact reads_throw _ | exact reads_pure _

/-- A check that raises, before what follows. -/
theorem reads_check {α : Type} {condition : Prop} [Decidable condition] (error : StreamError)
    {rest : MarketAction α} (hrest : Reads rest) :
    Reads (if condition then throw error else rest) := by
  split
  · exact reads_throw _
  · exact hrest

theorem reads_validateSnapshotSequence (kline : Kline) :
    Reads (validateSnapshotSequence kline) := by
  unfold validateSnapshotSequence
  refine (reads_latestOf _).bind fun latest => ?_
  repeat' first | exact reads_pure _ | exact reads_throw _ | split

theorem reads_validateThirtyMinuteBoundaryPair (oneMinute thirtyMinutes : Kline) :
    Reads (validateThirtyMinuteBoundaryPair oneMinute thirtyMinutes) := by
  unfold validateThirtyMinuteBoundaryPair
  repeat' first | exact reads_pure _ | exact reads_throw _ | split

theorem reads_validateUpperBoundaryPair (closed opened : Kline) (time : Timestamp)
    (interval : Interval) : Reads (validateUpperBoundaryPair closed opened time interval) := by
  unfold validateUpperBoundaryPair
  repeat' first | exact reads_pure _ | exact reads_throw _ | split

theorem reads_upperSources (time : Timestamp) (interval : Interval) :
    Reads (upperSources time interval) := by
  unfold upperSources
  split
  · refine reads_get.bind fun data => ?_
    split
    · exact (reads_validateUpperBoundaryPair _ _ _ _).bind fun _ => reads_pure _
    · exact reads_pure _
  · exact reads_pure _

theorem reads_resolveUpperOpen (kline : Kline) : Reads (resolveUpperOpen kline) := by
  refine reads_get.bind fun data => ?_
  cases data.pendingClose kline.interval with
  | some closed => exact reads_check _ (reads_pure _)
  | none =>
      refine (reads_latestOf _).bind fun latest => ?_
      repeat' first | exact reads_pure _ | exact reads_throw _ | split

theorem reads_resolveAtomicBoundaryTime (kline : Kline) :
    Reads (resolveAtomicBoundaryTime kline) := by
  unfold resolveAtomicBoundaryTime
  split
  · split
    · exact reads_pure _
    · exact reads_resolveUpperOpen kline
  · exact reads_pure _

theorem reads_validateFourHourTick (kline : Kline) : Reads (validateFourHourTick kline) := by
  unfold validateFourHourTick
  split
  · refine (reads_latestOf _).bind fun latest => ?_
    split
    · exact reads_throw _
    · exact reads_pure _
  · exact reads_pure _

namespace MarketData

variable (collaborators : Collaborators) {data : MarketData} {kline : Kline}

/-! ## The commit of a boundary -/

theorem Live.evaluateFourHourRegime (h : data.Live) (hfresh : data.Fresh)
    (hcloses : data.ClosesFourHours data.snapshot.version) :
    let next := { data with
      regimeEvaluations := data.regimeEvaluations ++ [data.snapshot.version] }
    finalState (Market.evaluateFourHourRegime collaborators data) = next ∧ Live next := by
  refine ⟨?_, { h with
    evaluations := fun version hmem => ?_
    evaluations_increase := ?_ }⟩
  · unfold Market.evaluateFourHourRegime
    simp only [bind_run, get_run, modify_run]
    cases collaborators.evaluateRegime data.snapshot.version with
    | error error => rfl
    | ok version =>
        simp only [raiseCallee, pure_run]
        split <;> rfl
  · rcases List.mem_append.mp hmem with hold | hnew
    · exact h.evaluations version hold
    · rw [List.mem_singleton.mp hnew]
      exact hcloses
  · rw [List.pairwise_append]
    refine ⟨h.evaluations_increase, by simp, fun version hmem last hlast => ?_⟩
    rw [List.mem_singleton.mp hlast]
    exact hfresh.evaluations version hmem

theorem Live.commitDeferred (h : data.Live) (hclear : Clear data.deferredLiveKlines)
    {klines : List Kline} (hticks : ∀ kline ∈ klines, Tick kline) :
    Live (finalState (Market.commitDeferred collaborators klines data)) := by
  induction klines generalizing data with
  | nil => exact h
  | cons kline klines ih =>
      unfold Market.commitDeferred
      split
      · exact h
      · obtain ⟨hlive, hrest⟩ :=
          h.mergeAndPublishSingle collaborators (hticks kline (by simp)) hclear
        refine finalState_bind hlive fun a t hok hnext => ?_
        rw [hok] at hrest
        exact ih hnext hrest fun kline hmem => hticks kline (by simp [hmem])

/-- The thirty minutes are no longer awaited, or the minute waits for them. -/
theorem Live.awaiting (h : data.Live) (awaiting : Bool) {oneMinute : Option Kline}
    (hminute : ∀ kline, oneMinute = some kline → kline.interval = .oneMinute) :
    Live { data with
      awaitingThirtyMinuteOpen := awaiting
      pendingPostBoundaryOneMinute := oneMinute } :=
  { h with rollover := hminute }

theorem tick_of_open (hopen : kline.closed = false) : Tick kline := by
  intro hclosed
  rw [hopen] at hclosed
  cases hclosed

theorem tick_of_oneMinute (hinterval : kline.interval = .oneMinute) : Tick kline :=
  fun _ => hinterval

theorem Live.mergeNext (h : data.Live) (htick : Tick kline) :
    Live (finalState (Market.mergeNext collaborators kline data)) :=
  (reads_validateSnapshotSequence kline).finalState_bind h fun _ _ =>
    h.mergeAndPublish collaborators htick

theorem Live.commitMinuteSuccessor (h : data.Live) (opened : Bool) {oneMinute : Option Kline}
    (hminute : ∀ kline, oneMinute = some kline → kline.interval = .oneMinute) :
    Live (finalState (Market.commitMinuteSuccessor collaborators opened oneMinute data)) := by
  cases oneMinute with
  | none => exact h
  | some kline =>
      unfold Market.commitMinuteSuccessor
      split
      · exact h.mergeNext collaborators (tick_of_oneMinute (hminute kline rfl))
      · exact h.awaiting _ hminute

theorem Live.commitSuccessors (h : data.Live) {thirtyMinutes oneMinute : Option Kline}
    (hthirty : ∀ kline, thirtyMinutes = some kline → kline.closed = false)
    (hminute : ∀ kline, oneMinute = some kline → kline.interval = .oneMinute) :
    Live (finalState (Market.commitSuccessors collaborators thirtyMinutes oneMinute data)) := by
  unfold Market.commitSuccessors
  cases thirtyMinutes with
  | none => exact h.commitMinuteSuccessor collaborators false hminute
  | some kline =>
      refine finalState_bind (h.mergeNext collaborators (tick_of_open (hthirty kline rfl)))
        fun a t _ hnext => ?_
      exact (hnext.awaiting false hnext.rollover).commitMinuteSuccessor collaborators true hminute

/-- A boundary that was committed is over. -/
theorem Live.clearPending (h : data.Live) (hclear : Clear data.deferredLiveKlines)
    (awaiting : Bool) :
    Live (clearPendingAtomicBoundary { data with awaitingThirtyMinuteOpen := awaiting }) :=
  { h with
    waits := hclear.waits h.waits.keys _
    settled := fun _ _ => hclear
    closes := by rintro _ _ ⟨⟩
    opens := by rintro _ _ ⟨⟩ }

theorem Live.finishAtomicBoundary (h : data.Live) (hclear : Clear data.deferredLiveKlines)
    (hfresh : data.Unpublished) (sources : List Kline) {thirtyMinutes oneMinute : Option Kline}
    (hthirty : ∀ kline, thirtyMinutes = some kline → kline.closed = false)
    (hminute : ∀ kline, oneMinute = some kline → kline.interval = .oneMinute) :
    Live (finalState (Market.finishAtomicBoundary collaborators sources thirtyMinutes oneMinute
      data)) := by
  refine finalState_bind (h.publish collaborators hfresh sources) fun a t hok hpublished => ?_
  have hrest : Clear t.deferredLiveKlines := by
    have := publish_deferred collaborators sources data
    rw [hok] at this
    exact this ▸ hclear
  refine reads_get.finalState_bind hpublished fun published hget => ?_
  cases hget
  exact finalState_bind (hpublished.commitDeferred collaborators hrest hrest)
    fun _ _ _ hdeferred => hdeferred.commitSuccessors collaborators hthirty hminute

theorem Live.commitAtomicBoundary (h : data.Live) {time : Timestamp} {sources : List Kline}
    (htime : data.pendingBoundaryTime = some time) (hbatch : Batch time sources) :
    Live (finalState (Market.commitAtomicBoundary collaborators time sources data)) := by
  have hthirty : ∀ kline, data.pendingOpen .thirtyMinutes = some kline → kline.closed = false :=
    fun kline hkline => (h.opens _ kline hkline).2.1
  have hminute : ∀ kline, data.pendingOpen .oneMinute = some kline → kline.interval = .oneMinute :=
    fun kline hkline => (h.opens _ kline hkline).1
  unfold Market.commitAtomicBoundary
  refine reads_get.finalState_bind h fun pending hget => ?_
  cases hget
  obtain ⟨hmerged, hok⟩ := h.mergeBatch collaborators htime hbatch
  refine finalState_bind hmerged fun a t hrun hnext => ?_
  obtain ⟨hfresh, hclear, hends⟩ := hok t hrun
  have hover := hnext.clearPending hclear true
  have hfresh' : Fresh (clearPendingAtomicBoundary { t with awaitingThirtyMinuteOpen := true }) :=
    ⟨⟨hfresh.made, hfresh.publications⟩, hfresh.evaluations⟩
  refine finalState_bind hover fun a u hmodify _ => ?_
  cases hmodify
  split
  · rename_i hfourHours
    obtain ⟨commit, hcommit, hversion, hclosed⟩ := hends .fourHours
      (hbatch.complete .fourHours hfourHours).1
    obtain ⟨hstate, hevaluated⟩ := hover.evaluateFourHourRegime collaborators hfresh'
      ⟨commit, hcommit, hversion, time, hclosed⟩
    refine finalState_bind (hstate.symm ▸ hevaluated) fun a v hregime _ => ?_
    obtain rfl : _ = v := hstate.symm.trans (congrArg finalState hregime)
    exact hevaluated.finishAtomicBoundary collaborators hclear
      ⟨hfresh.made, hfresh.publications⟩ sources hthirty hminute
  · exact hover.finishAtomicBoundary collaborators hclear hfresh'.toUnpublished sources hthirty
      hminute

/-! ## The sources of a boundary -/

/-- The sources of an upper interval belong to the boundary. -/
theorem Live.upperSources (h : data.Live) {time : Timestamp}
    (htime : data.pendingBoundaryTime = some time) {interval : Interval}
    (hupper : interval.isUpper = true) {sources : List Kline} {next : MarketData}
    (hok : Market.upperSources time interval data = .ok (some sources) next) :
    (∀ kline ∈ sources, Fits time kline) ∧ (boundaryRequires time interval = true →
      Ends sources interval time ∧ Starts sources interval time) := by
  unfold Market.upperSources at hok
  split at hok
  · rename_i hrequires
    simp only [bind_run, get_run] at hok
    cases hclosed : data.pendingClose interval with
    | none => simp [hclosed] at hok
    | some closed =>
        cases hopened : data.pendingOpen interval with
        | none => simp [hclosed, hopened] at hok
        | some opened =>
            simp only [hclosed, hopened, bind_run] at hok
            obtain ⟨hinterval, hcloses, hend, -⟩ := h.closes interval closed hclosed
            obtain ⟨hinterval', hopens, hstart⟩ := h.opens interval opened hopened
            rw [htime] at hend hstart
            have hclose : closed.closeTime = time := (Option.some.inj hend).symm
            have hopen : opened.openTime = time := (Option.some.inj (hstart hupper)).symm
            split at hok
            · cases hok
              refine ⟨fun kline hmem => ?_, fun _ =>
                ⟨⟨closed, by simp, hinterval, hcloses, hclose⟩,
                  opened, by simp, hinterval', hopens, hopen⟩⟩
              rcases List.mem_cons.mp hmem with rfl | hmem
              · exact .inl ⟨hcloses, hclose, hinterval ▸ hrequires⟩
              · rw [List.mem_singleton.mp hmem]
                exact .inr ⟨hopens, hinterval' ▸ hupper, hopen⟩
            · cases hok
  · rename_i hrequires
    cases hok
    exact ⟨by simp, fun h => absurd h hrequires⟩

/-- The sources that are committed are the boundary. -/
theorem batch_sources {time : Timestamp} {oneMinute thirtyMinutes : Kline}
    {fourHours oneDay : List Kline} (hone : oneMinute.interval = .oneMinute)
    (honeFits : oneMinute.closed = true ∧ oneMinute.closeTime = time)
    (hthirty : thirtyMinutes.interval = .thirtyMinutes)
    (hthirtyFits : thirtyMinutes.closed = true ∧ thirtyMinutes.closeTime = time)
    (hfour : (∀ kline ∈ fourHours, Fits time kline) ∧ (boundaryRequires time .fourHours = true →
      Ends fourHours .fourHours time ∧ Starts fourHours .fourHours time))
    (hday : (∀ kline ∈ oneDay, Fits time kline) ∧ (boundaryRequires time .oneDay = true →
      Ends oneDay .oneDay time ∧ Starts oneDay .oneDay time)) :
    Batch time ([oneMinute, thirtyMinutes] ++ fourHours ++ oneDay) := by
  have hends : ∀ {first second : List Kline} {interval : Interval},
      (∀ kline ∈ first, kline ∈ second) → Ends first interval time → Ends second interval time := by
    rintro first second interval hsub ⟨kline, hmem, hrest⟩
    exact ⟨kline, hsub kline hmem, hrest⟩
  have hstarts : ∀ {first second : List Kline} {interval : Interval},
      (∀ kline ∈ first, kline ∈ second) → Starts first interval time →
        Starts second interval time := by
    rintro first second interval hsub ⟨kline, hmem, hrest⟩
    exact ⟨kline, hsub kline hmem, hrest⟩
  constructor
  · intro kline hmem
    simp only [List.mem_append, List.mem_cons, List.not_mem_nil, or_false] at hmem
    rcases hmem with ((rfl | rfl) | hmem) | hmem
    · exact .inl ⟨honeFits.1, honeFits.2, by rw [hone]; rfl⟩
    · exact .inl ⟨hthirtyFits.1, hthirtyFits.2, by rw [hthirty]; rfl⟩
    · exact hfour.1 kline hmem
    · exact hday.1 kline hmem
  · intro interval hrequires
    cases interval with
    | oneMinute => exact ⟨⟨oneMinute, by simp, hone, honeFits⟩, fun h => by cases h⟩
    | thirtyMinutes => exact ⟨⟨thirtyMinutes, by simp, hthirty, hthirtyFits⟩, fun h => by cases h⟩
    | fourHours =>
        obtain ⟨hend, hstart⟩ := hfour.2 hrequires
        have hsub : ∀ kline ∈ fourHours,
            kline ∈ [oneMinute, thirtyMinutes] ++ fourHours ++ oneDay := by simp +contextual
        exact ⟨hends hsub hend, fun _ => hstarts hsub hstart⟩
    | oneDay =>
        obtain ⟨hend, hstart⟩ := hday.2 hrequires
        have hsub : ∀ kline ∈ oneDay,
            kline ∈ [oneMinute, thirtyMinutes] ++ fourHours ++ oneDay := by simp +contextual
        exact ⟨hends hsub hend, fun _ => hstarts hsub hstart⟩

theorem Live.tryCommitAtomicBoundary (h : data.Live) :
    Live (finalState (Market.tryCommitAtomicBoundary collaborators data)) := by
  unfold Market.tryCommitAtomicBoundary
  refine reads_get.finalState_bind h fun pending hget => ?_
  cases hget
  cases htime : data.pendingBoundaryTime with
  | none => exact h
  | some time =>
  cases hone : data.pendingClose .oneMinute with
  | none => exact h
  | some oneMinute =>
  cases hthirty : data.pendingClose .thirtyMinutes with
  | none => exact h
  | some thirtyMinutes =>
    obtain ⟨honeInterval, honeClosed, honeTime, -⟩ := h.closes _ _ hone
    obtain ⟨hthirtyInterval, hthirtyClosed, hthirtyTime, -⟩ := h.closes _ _ hthirty
    rw [htime] at honeTime hthirtyTime
    refine (reads_validateThirtyMinuteBoundaryPair _ _).finalState_bind h fun _ _ => ?_
    refine (reads_upperSources _ _).finalState_bind h fun fourHours hfour => ?_
    cases fourHours with
    | none => exact h
    | some fourHours =>
        refine (reads_upperSources _ _).finalState_bind h fun oneDay hday => ?_
        cases oneDay with
        | none => exact h
        | some oneDay =>
            exact h.commitAtomicBoundary collaborators htime (batch_sources honeInterval
              ⟨honeClosed, (Option.some.inj honeTime).symm⟩ hthirtyInterval
              ⟨hthirtyClosed, (Option.some.inj hthirtyTime).symm⟩
              (h.upperSources htime rfl hfour) (h.upperSources htime rfl hday))

end MarketData

end Market
