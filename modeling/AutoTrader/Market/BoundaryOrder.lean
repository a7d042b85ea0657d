import AutoTrader.Market.StagedBoundary

/-!
# A boundary in any order

The candles of a boundary may come in any order: the last one of them commits all of them.

* `Outcome` — what the whole boundary leads to.
* `commitAtomicBoundary_staged` — the commit, whatever the collaborators do after it.
* `step_staged`, `step_last`, `run_staged` — a source, the last source, and so many sources.
* `boundary_order_law` — all of them, in any order.
-/

namespace Market

open Trading Stateful

namespace BoundaryKlines

variable {time : Timestamp} {boundary : BoundaryKlines time} {data : MarketData}
  {done : List Kline} {cursors : Interval → Option Kline} {kline : Kline}
  (collaborators : Collaborators)

/-! ## The commit -/

/-- The snapshot with all sources of the boundary, or why there is none. -/
def update (boundary : BoundaryKlines time) (data : MarketData) : Except TradingError MarketState :=
  MarketSnapshot.candidate data.snapshot
    (nextKlines collaborators.klineLimit data.snapshot boundary.sources) (some boundary.sources)
    (collaborators.clock data.updates)

/-- The boundary is the next version, and the thirty minutes are awaited. -/
structure Committed (boundary : BoundaryKlines time) (data : MarketData) (snapshot : MarketState)
    (next : MarketData) : Prop where
  commits : next.commits = data.commits ++ [⟨boundary.sources, snapshot⟩]
  snapshot_eq : next.snapshot = snapshot
  deferred : next.deferredLiveKlines = []
  settled : next.pendingBoundaryTime = none
  awaiting : next.awaitingThirtyMinuteOpen = true

/-- Nothing is committed. -/
structure Uncommitted (data next : MarketData) : Prop where
  commits : next.commits = data.commits
  snapshot_eq : next.snapshot = data.snapshot

/-- What the whole boundary leads to. -/
def Outcome (boundary : BoundaryKlines time) (data next : MarketData) : Prop :=
  match boundary.update collaborators data with
  | .ok snapshot => boundary.Committed data snapshot next
  | .error _ => Uncommitted data next

theorem foldl_defer_nil (sources : List Kline) :
    Wellkeyed (sources.foldl defer []) ∧
      ∀ kline ∈ candles (sources.foldl defer []), kline ∈ sources := by
  have hfold : ∀ {deferred : DeferredKlines}, Wellkeyed deferred →
      Wellkeyed (sources.foldl defer deferred) ∧
        ∀ kline ∈ candles (sources.foldl defer deferred),
          kline ∈ sources ∨ kline ∈ candles deferred := by
    induction sources with
    | nil => exact fun hkeys => ⟨hkeys, fun kline hmem => .inr hmem⟩
    | cons source sources ih =>
        intro deferred hkeys
        obtain ⟨hwell, hmem⟩ := ih (hkeys.defer source)
        refine ⟨hwell, fun kline hkline => ?_⟩
        rcases hmem kline hkline with hrest | hold
        · exact .inl (List.mem_cons_of_mem _ hrest)
        · rcases mem_defer hkeys hold with rfl | hold
          · exact .inl (List.mem_cons_self ..)
          · exact .inr hold
  obtain ⟨hwell, hmem⟩ := hfold Wellkeyed.nil
  exact ⟨hwell, fun kline hkline => (hmem kline hkline).resolve_right (by simp [candles])⟩

/-- At most the close and the next candle of an interval are sources. -/
theorem countP_sources (boundary : BoundaryKlines time) (interval : Interval) :
    (boundary.sources.foldl defer []).countP (fun entry => entry.1.interval = interval) ≤ 2 := by
  obtain ⟨hkeys, hmem⟩ := foldl_defer_nil boundary.sources
  set deferred := boundary.sources.foldl defer []
  have hnodup : ((Dict.keys deferred).filter fun key => key.interval = interval).Nodup :=
    hkeys.nodup.filter _
  have hsub : ((Dict.keys deferred).filter fun key => key.interval = interval) ⊆
      [(boundary.closing interval).deferKey, (boundary.opening interval).deferKey] := by
    intro key hkey
    obtain ⟨hkey, hinterval⟩ := List.mem_filter.mp hkey
    obtain ⟨entry, hentry, rfl⟩ := List.mem_map.mp hkey
    have hsource := hmem entry.2 (List.mem_map_of_mem hentry)
    rw [hkeys.keyed entry hentry] at hinterval ⊢
    rcases belongs_source hsource with ⟨other, _, heq⟩ | ⟨other, _, _, heq⟩
    all_goals
      rw [heq] at hinterval ⊢
      simp only [Kline.deferKey, boundary.closing_interval, boundary.opening_interval,
        decide_eq_true_eq] at hinterval
      subst hinterval
      simp
  have hlength := (hnodup.subperm hsub).length_le
  rw [← List.countP_eq_length_filter, Dict.keys, List.countP_map] at hlength
  exact hlength

/-- The merge of the sources. -/
theorem mergeKlinesIntoSnapshot_staged (h : AwaitsBoundary boundary data) :
    mergeKlinesIntoSnapshot collaborators boundary.sources false
        (boundary.staged data done cursors) =
      match boundary.update collaborators data with
      | .ok snapshot => .ok ⟨⟩ { boundary.staged data done cursors with
          snapshot := snapshot
          updates := data.updates + 1
          deferredLiveKlines := []
          commits := data.commits ++ [⟨boundary.sources, snapshot⟩] }
      | .error error =>
          .error (if isSnapshotTimeError error then .pendingCandleBoundary else .raised error)
            { boundary.staged data done cursors with
              updates := data.updates + 1
              deferredLiveKlines := boundary.sources.foldl defer [] } := by
  have hcount : ¬ ∃ interval ∈ supportedIntervals,
      2 < (boundary.sources.foldl defer []).countP fun entry => entry.1.interval = interval := by
    rintro ⟨interval, -, hlong⟩
    exact absurd (countP_sources boundary interval) (not_le.mpr hlong)
  obtain ⟨hkeys, hmem⟩ := foldl_defer_nil boundary.sources
  have hrest : undefer (boundary.sources.foldl defer []) boundary.sources = [] := by
    refine List.eq_nil_iff_forall_not_mem.mpr fun entry hentry => ?_
    obtain ⟨hold, hne⟩ := mem_undefer.mp hentry
    exact hne entry.2 (hmem entry.2 (List.mem_map_of_mem hold)) (hkeys.keyed entry hold)
  unfold mergeKlinesIntoSnapshot update
  simp only [bind_run, modify_run, get_run, staged, h.deferred, Bool.false_eq_true, if_false]
  rw [if_neg hcount]
  simp only [MarketSnapshot.update_run]
  cases MarketSnapshot.candidate _ _ _ _ with
  | ok snapshot =>
      rw [hrest]
      rfl
  | error error =>
      dsimp only
      rw [bind_run]
      cases isSnapshotTimeError error <;> rfl

theorem Committed.evaluateFourHourRegime {snapshot : MarketState} {next : MarketData}
    (h : boundary.Committed data snapshot next) :
    boundary.Committed data snapshot
      (finalState (Market.evaluateFourHourRegime collaborators next)) := by
  unfold Market.evaluateFourHourRegime
  refine reads_get.finalState_bind h fun pending hget => ?_
  cases hget
  have hnext : boundary.Committed data snapshot { next with
      regimeEvaluations := next.regimeEvaluations ++ [next.snapshot.version] } := { h with }
  refine finalState_bind hnext fun _ t hmodify _ => ?_
  cases hmodify
  refine (reads_raiseCallee _).finalState_bind hnext fun version _ => ?_
  split <;> exact hnext

theorem Committed.publish {snapshot : MarketState} {next : MarketData}
    (h : boundary.Committed data snapshot next) (sources : List Kline) :
    boundary.Committed data snapshot
      (finalState (publishMarketEvaluation collaborators sources next)) := by
  rcases MarketData.publishMarketEvaluation_cases collaborators sources next with heq | heq <;>
    rw [heq]
  · exact h
  · exact { h with }

/-- Nothing follows the version: nothing is deferred, and no minute or thirty minutes opened. -/
theorem Committed.finish {snapshot : MarketState} {next : MarketData}
    (h : boundary.Committed data snapshot next) :
    boundary.Committed data snapshot
      (finalState (finishAtomicBoundary collaborators boundary.sources none none next)) := by
  unfold finishAtomicBoundary
  refine finalState_bind (h.publish collaborators boundary.sources) fun _ t _ hpublished => ?_
  refine reads_get.finalState_bind hpublished fun pending hget => ?_
  cases hget
  rw [hpublished.deferred]
  exact hpublished

/-- What follows the version of the boundary leaves it. -/
theorem Committed.follow {snapshot : MarketState} {next : MarketData}
    (h : boundary.Committed data snapshot next) :
    let rest : MarketAction PUnit := do
      if isFourHourBoundary time then Market.evaluateFourHourRegime collaborators
      finishAtomicBoundary collaborators boundary.sources none none
    boundary.Committed data snapshot (finalState (rest next)) := by
  intro rest
  unfold rest
  split
  · exact finalState_bind (h.evaluateFourHourRegime collaborators) fun _ _ _ hevaluated =>
      hevaluated.finish collaborators
  · exact h.finish collaborators

/-- The last source commits all of them, or the snapshot refuses them and they wait. -/
theorem commitAtomicBoundary_staged (h : AwaitsBoundary boundary data)
    (hdone : ∀ kline ∈ done, kline ∈ boundary.sources) :
    boundary.Outcome collaborators data (finalState (commitAtomicBoundary collaborators time
      boundary.sources (boundary.staged data done cursors))) := by
  have hopen : ∀ interval, interval.isUpper = false → boundary.opening interval ∉ done := by
    intro interval hlower hmem
    rcases belongs_source (hdone _ hmem) with ⟨other, _, heq⟩ | ⟨other, _, hupper, heq⟩
    · exact boundary.closing_ne_opening other interval heq.symm
    · have := congrArg Kline.interval heq
      rw [boundary.opening_interval, boundary.opening_interval] at this
      rw [this, hupper] at hlower
      cases hlower
  have hmerge := @mergeKlinesIntoSnapshot_staged _ boundary data done cursors collaborators h
  unfold commitAtomicBoundary Outcome
  rw [bind_run, get_run]
  dsimp only
  rw [bind_run, hmerge, staged_pendingOpen, staged_pendingOpen, if_neg (hopen .thirtyMinutes rfl),
    if_neg (hopen .oneMinute rfl)]
  cases boundary.update collaborators data with
  | error error => exact ⟨rfl, rfl⟩
  | ok snapshot => exact Committed.follow collaborators ⟨rfl, rfl, rfl, rfl, rfl⟩

/-! ## All of them -/

theorem nodup_sources (boundary : BoundaryKlines time) : boundary.sources.Nodup := by
  refine List.Nodup.of_map (fun kline => (kline.interval, kline.closed)) ?_
  unfold sources upper
  split <;> split <;>
    simp [boundary.closing_interval, boundary.opening_interval, boundary.closing_closed,
      boundary.opening_open]

theorem CursorsOf.move (h : CursorsOf boundary data done cursors)
    (hmem : kline ∈ boundary.sources) :
    CursorsOf boundary data (kline :: done)
      (Function.update cursors kline.interval (some kline)) := by
  intro interval
  by_cases hsame : interval = kline.interval
  · subst hsame
    right
    rcases belongs_source hmem with ⟨other, _, rfl⟩ | ⟨other, _, _, rfl⟩
    · rw [boundary.closing_interval]
      exact .inl ⟨List.mem_cons_self .., Function.update_self ..⟩
    · rw [boundary.opening_interval]
      exact .inr ⟨List.mem_cons_self .., Function.update_self ..⟩
  · rw [Function.update_of_ne hsame]
    exact (h interval).imp id
      (Or.imp (And.imp_left (List.mem_cons_of_mem _)) (And.imp_left (List.mem_cons_of_mem _)))

theorem CursorsOf.cons (h : CursorsOf boundary data done cursors) (kline : Kline) :
    CursorsOf boundary data (kline :: done) cursors := fun interval =>
  (h interval).imp id
    (Or.imp (And.imp_left (List.mem_cons_of_mem _)) (And.imp_left (List.mem_cons_of_mem _)))

/-- A source that is not the last waits. -/
theorem step_staged (h : AwaitsBoundary boundary data) (hmem : kline ∈ boundary.sources)
    (hnew : kline ∉ done) (hcursors : CursorsOf boundary data done cursors) {missing : Kline}
    (hmissing : missing ∈ boundary.sources) (hrest : missing ∉ kline :: done) :
    ∃ moved, MarketData.step collaborators (boundary.staged data done cursors) (.observe kline) =
        boundary.staged data (kline :: done) moved ∧
      CursorsOf boundary data (kline :: done) moved := by
  have hwaits := @tryCommitAtomicBoundary_missing _ _ data _ cursors collaborators _ hmissing hrest
  have hobserved := observeKline_staged collaborators h hmem hnew hcursors
  rw [hwaits] at hobserved
  rcases hobserved with hobserved | hobserved
  · exact ⟨cursors, hobserved, hcursors.cons kline⟩
  · exact ⟨Function.update cursors kline.interval (some kline), hobserved, hcursors.move hmem⟩

/-- The last source commits. -/
theorem step_last (h : AwaitsBoundary boundary data) (hmem : kline ∈ boundary.sources)
    (hnew : kline ∉ done) (hcursors : CursorsOf boundary data done cursors)
    (hdone : ∀ other ∈ done, other ∈ boundary.sources)
    (hall : ∀ other ∈ boundary.sources, other ∈ kline :: done) :
    boundary.Outcome collaborators data
      (MarketData.step collaborators (boundary.staged data done cursors) (.observe kline)) := by
  have houtcome := @commitAtomicBoundary_staged _ boundary data (kline :: done) cursors
    collaborators h (List.forall_mem_cons.mpr ⟨hmem, hdone⟩)
  have hobserved := observeKline_staged collaborators h hmem hnew hcursors
  rw [tryCommitAtomicBoundary_whole collaborators hall] at hobserved
  show boundary.Outcome collaborators data (finalState (observeKline collaborators kline _))
  rcases hobserved with hobserved | hobserved <;> rw [hobserved]
  · exact houtcome
  · revert houtcome
    unfold Outcome
    cases boundary.update collaborators data with
    | ok snapshot => exact fun hcommitted => { hcommitted with }
    | error error => exact fun huncommitted => { huncommitted with }

/-- So many sources, and another one that is missing. -/
theorem run_staged (h : AwaitsBoundary boundary data) {missing : Kline}
    (hmissing : missing ∈ boundary.sources) {seen : List Kline} (hnodup : seen.Nodup)
    (hseen : ∀ kline ∈ seen, kline ∈ boundary.sources ∧ kline ∉ done ∧ kline ≠ missing)
    (hrest : missing ∉ done) (hcursors : CursorsOf boundary data done cursors) :
    ∃ moved, (seen.map MarketInput.observe).foldl (MarketData.step collaborators)
        (boundary.staged data done cursors) = boundary.staged data (seen.reverse ++ done) moved ∧
      CursorsOf boundary data (seen.reverse ++ done) moved := by
  induction seen generalizing done cursors with
  | nil => exact ⟨cursors, rfl, hcursors⟩
  | cons kline seen ih =>
      obtain ⟨hfirst, hnodup⟩ := List.nodup_cons.mp hnodup
      obtain ⟨⟨hmem, hnew, hne⟩, hseen⟩ := List.forall_mem_cons.mp hseen
      have hrest' : missing ∉ kline :: done := by simp [hrest, hne.symm]
      obtain ⟨moved, hstep, hmoved⟩ :=
        step_staged collaborators h hmem hnew hcursors hmissing hrest'
      rw [List.map_cons, List.foldl_cons, hstep, List.reverse_cons, List.append_assoc]
      refine ih hnodup (fun other hother => ?_) hrest' hmoved
      obtain ⟨hsource, hold, hother'⟩ := hseen other hother
      refine ⟨hsource, ?_, hother'⟩
      rw [List.mem_cons, not_or]
      exact ⟨fun heq => hfirst (heq ▸ hother), hold⟩

end BoundaryKlines

/-! ## The law -/

/-- The sources of a boundary may come in any order: before the last one nothing is committed, and
the last one commits all of them together, in the same version whatever the order was; or the
snapshot refuses them and nothing is committed, whatever the order was. -/
theorem boundary_order_law (collaborators : Collaborators) {time : Timestamp}
    (boundary : BoundaryKlines time) {data : MarketData} (h : AwaitsBoundary boundary data)
    {order : List Kline} (horder : order.Perm boundary.sources) :
    let after := fun klines : List Kline =>
      (klines.map MarketInput.observe).foldl (MarketData.step collaborators) data
    (∀ seen missing, order = seen ++ missing → missing ≠ [] →
      BoundaryKlines.Uncommitted data (after seen)) ∧
      boundary.Outcome collaborators data (after order) := by
  intro after
  have hnodup := horder.nodup_iff.mpr boundary.nodup_sources
  have hcursors : BoundaryKlines.CursorsOf boundary data [] data.streamCursor :=
    fun _ => .inl rfl
  -- what came before a source waits
  have hprefix : ∀ seen missing rest, order = seen ++ missing :: rest →
      ∃ moved, after seen = boundary.staged data (seen.reverse ++ []) moved ∧
        BoundaryKlines.CursorsOf boundary data (seen.reverse ++ []) moved := by
    rintro seen missing rest rfl
    obtain ⟨hseen, -, hapart⟩ := List.nodup_append.mp hnodup
    have hrun := BoundaryKlines.run_staged collaborators h
      (horder.mem_iff.mp (List.mem_append_right _ (List.mem_cons_self ..))) hseen
      (fun kline hkline => ⟨horder.mem_iff.mp (List.mem_append_left _ hkline), List.not_mem_nil,
        hapart kline hkline missing (List.mem_cons_self ..)⟩) List.not_mem_nil hcursors
    rwa [BoundaryKlines.staged_nil h] at hrun
  constructor
  · intro seen missing hsplit hsome
    obtain ⟨first, rest, rfl⟩ := List.exists_cons_of_ne_nil hsome
    obtain ⟨moved, hafter, -⟩ := hprefix seen first rest hsplit
    rw [hafter]
    exact ⟨rfl, rfl⟩
  · obtain hempty | ⟨seen, last, rfl⟩ := List.eq_nil_or_concat order
    · rw [hempty] at horder
      exact absurd horder.symm.eq_nil (by simp [BoundaryKlines.sources])
    · rw [List.concat_eq_append] at horder hnodup hprefix ⊢
      obtain ⟨moved, hafter, hmoved⟩ := hprefix seen last [] rfl
      obtain ⟨-, -, hapart⟩ := List.nodup_append.mp hnodup
      have hlast := BoundaryKlines.step_last collaborators h
        (horder.mem_iff.mp (List.mem_append_right _ (List.mem_singleton_self last)))
        (fun hmem => hapart last (by simpa using hmem) last (List.mem_singleton_self _) rfl) hmoved
        (fun other hother => horder.mem_iff.mp (List.mem_append_left _ (by simpa using hother)))
        fun other hother => by simpa [or_comm] using horder.mem_iff.mpr hother
      rw [← hafter] at hlast
      simpa only [after, List.map_append, List.foldl_append, List.map_cons, List.map_nil,
        List.foldl_cons, List.foldl_nil] using hlast

/-- Four o'clock, where a candle of four hours ends but no day. -/
def fourHourTime : Timestamp := 14400000000

/-- The candle of an interval shortly before, with an event of the stream. -/
def liveKline (interval : Interval) : Kline :=
  { MarketSnapshot.openKline interval with
    openTime := if interval = .oneDay then 0 else fourHourTime - interval.duration
    eventTime := some (fourHourTime - 30000000) }

/-- The boundary of these four hours. -/
def fourHourBoundary : BoundaryKlines fourHourTime where
  closing interval :=
    { MarketSnapshot.openKline interval with
      openTime := fourHourTime - interval.duration
      closed := true
      eventTime := some fourHourTime }
  opening interval :=
    { MarketSnapshot.openKline interval with
      openTime := fourHourTime
      eventTime := some fourHourTime }
  closing_interval _ := rfl
  closing_closed _ := rfl
  closing_time _ := sub_add_cancel ..
  opening_interval _ := rfl
  opening_open _ := rfl
  opening_time _ := rfl
  closing_symbol _ := rfl
  opening_symbol _ := rfl
  closing_event _ := ⟨_, rfl, le_rfl⟩
  opening_event _ := ⟨_, _, rfl, rfl, le_rfl, le_rfl⟩
  half_hour := by decide

/-- Everything succeeds, and the four hours end after the live candles. -/
def fourHourCollaborators : Collaborators where
  klineLimit := 2
  clock updates := if updates < 5 then fourHourTime - 30000000 else fourHourTime
  evaluateRegime version := .ok (some version)
  evaluates := true
  buildEvaluation _ := .ok true
  rebase _ := .ok ()
  observeEvaluation _ := .ok ()
  completeReconciliation _ := .ok ()

/-- The stream was initialized, and a live candle of each interval has come. -/
def liveData : MarketData :=
  MarketData.run fourHourCollaborators
    ([.begin, .complete (fun interval => [{ liveKline interval with eventTime := none }]) true] ++
      [.oneMinute, .thirtyMinutes, .fourHours, .oneDay].map fun interval =>
        .observe (liveKline interval))

theorem liveData_cursor (interval : Interval) :
    liveData.streamCursor interval = some (liveKline interval) := by
  cases interval <;> decide +kernel

theorem liveData_awaits : AwaitsBoundary fourHourBoundary liveData where
  initialized := by decide +kernel
  collecting := by decide +kernel
  awaiting := by decide +kernel
  rollover := by decide +kernel
  closes interval := by cases interval <;> decide +kernel
  opens interval := by cases interval <;> decide +kernel
  pending := by decide +kernel
  deferred := by decide +kernel
  latest interval hrequires := by
    refine ⟨liveKline interval, by cases interval <;> decide +kernel, rfl, ?_⟩
    cases interval with
    | oneDay => cases hrequires
    | oneMinute | thirtyMinutes | fourHours => rfl
  cursors kline hmem cursor hcursor := by
    rw [liveData_cursor] at hcursor
    cases hcursor
    refine ⟨?_, rfl⟩
    revert kline
    decide +kernel

/-- The candles of the four hours, the last one first. -/
theorem boundary_order_law_fourHours :
    (∀ interval, liveData.streamCursor interval = some (liveKline interval)) ∧
      ∃ snapshot, fourHourBoundary.Committed liveData snapshot
        ((fourHourBoundary.sources.reverse.map MarketInput.observe).foldl
          (MarketData.step fourHourCollaborators) liveData) := by
  refine ⟨liveData_cursor, ?_⟩
  have houtcome := (boundary_order_law fourHourCollaborators fourHourBoundary liveData_awaits
    (List.reverse_perm _)).2
  have hupdate : (fourHourBoundary.update fourHourCollaborators liveData).isOk = true := by
    decide +kernel
  unfold BoundaryKlines.Outcome at houtcome
  cases hresult : fourHourBoundary.update fourHourCollaborators liveData with
  | ok snapshot =>
      rw [hresult] at houtcome
      exact ⟨snapshot, houtcome⟩
  | error error =>
      rw [hresult] at hupdate
      cases hupdate

end Market
