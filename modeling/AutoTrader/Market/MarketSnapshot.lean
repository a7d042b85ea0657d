import AutoTrader.Market.Kline
import AutoTrader.Support.Dict
import AutoTrader.Support.Except
import AutoTrader.Support.State

/-!
# The market snapshot

`MarketSnapshot` of `domain/market/market_snapshot.py`: the candles of the four intervals
behind one version.

* `sortKlines` — the candles of an interval, the last of equal open times, in time order.
* `MarketSnapshot.candidate` — all checks of `update`, and the state they admit.
* `MarketSnapshot.update` — one atomic replacement of the state.
* `sortKlines_congr` — the order the candles come in does not matter, except for equal open
  times.
* `clock_moves_back` — a clock more than the live skew behind takes the snapshot with it.
* `update_law` — what an update that returned says about the new state.
-/

namespace Market

open Trading

/-- `_MAX_LIVE_CLOCK_SKEW`. -/
def maxLiveClockSkew : Duration := 5000000

/-- `_SUPPORTED_MARKET_SYMBOL`. -/
def supportedMarketSymbol : String := "ETHUSDT"

/-- `SUPPORTED_INTERVALS`. -/
def supportedIntervals : List Interval := [.oneMinute, .thirtyMinutes, .fourHours, .oneDay]

/-! ## The candles of one interval -/

/-- What identifies a candle. -/
structure KlineKey where
  symbol : String
  interval : Interval
  openTime : Timestamp
  deriving DecidableEq

/-- The key under which a candle is kept. -/
def Kline.key (kline : Kline) : KlineKey := ⟨kline.symbol, kline.interval, kline.openTime⟩

/-- Of candles with one key the last one is kept. -/
def deduplicate (klines : List Kline) : List (KlineKey × Kline) :=
  klines.foldl (fun entries kline => Dict.insert kline.key kline entries) []

/-- The kept candles by their open times. -/
def sortKlines (klines : List Kline) : List Kline :=
  ((deduplicate klines).map Prod.snd).insertionSort fun first second =>
    first.openTime ≤ second.openTime

/-- The open times follow each other without a gap. -/
def Continuous (interval : Interval) (klines : List Kline) : Prop :=
  klines.IsChain fun previous current =>
    current.openTime = previous.openTime + interval.duration

instance (interval : Interval) (klines : List Kline) : Decidable (Continuous interval klines) := by
  unfold Continuous; infer_instance

/-- One pass of the loop of `update` over the intervals. -/
def normalizeKlines (interval : Interval) (klines : List Kline) :
    Except TradingError (List Kline) := do
  Except.require (klines ≠ []) (.valueError (interval.value ++ " klines must not be empty"))
  klines.forM fun kline => do
    Except.require (kline.symbol = supportedMarketSymbol)
      (.valueError "kline symbol must match snapshot symbol")
    Except.require (kline.interval = interval)
      (.valueError "kline interval must match its mapping interval")
  Except.require (Continuous interval (sortKlines klines))
    (.valueError (interval.value ++ " klines must be exactly continuous"))
  return sortKlines klines

/-! ### Which candles are kept -/

theorem keys_deduplicate_nodup (klines : List Kline) : (Dict.keys (deduplicate klines)).Nodup := by
  unfold deduplicate
  induction klines using List.reverseRecOn with
  | nil => exact List.nodup_nil
  | append_singleton klines kline ih =>
      rw [List.foldl_append, List.foldl_cons, List.foldl_nil, Dict.keys_insert]
      split
      · exact ih
      · rename_i hnew
        exact List.nodup_append.mpr ⟨ih, List.nodup_singleton _, fun key hkey other hother heq =>
          hnew (by rwa [← List.mem_singleton.mp hother, ← heq])⟩

/-- The last candle with a key is the one that is kept. -/
theorem lookup_deduplicate (klines : List Kline) (key : KlineKey) :
    (deduplicate klines).lookup key = (klines.filter (·.key = key)).getLast? := by
  unfold deduplicate
  induction klines using List.reverseRecOn with
  | nil => rfl
  | append_singleton klines kline ih =>
      rw [List.foldl_append, List.foldl_cons, List.foldl_nil, List.filter_append]
      by_cases hkey : kline.key = key
      · have hsingle : [kline].filter (·.key = key) = [kline] := by simp [hkey]
        rw [hsingle, List.getLast?_concat, ← hkey]
        exact Dict.lookup_insert_self _ _ _
      · have hnone : [kline].filter (·.key = key) = [] := by simp [hkey]
        rw [hnone, List.append_nil, ← ih]
        exact Dict.lookup_insert_of_ne (fun h => hkey h.symm) _ _

theorem mem_deduplicate {klines : List Kline} {entry : KlineKey × Kline} :
    entry ∈ deduplicate klines ↔
      (klines.filter (·.key = entry.1)).getLast? = some entry.2 := by
  rw [← lookup_deduplicate]
  exact (Dict.lookup_eq_some_iff (keys_deduplicate_nodup klines)).symm

theorem mem_sortKlines {klines : List Kline} {kline : Kline} :
    kline ∈ sortKlines klines ↔ (klines.filter (·.key = kline.key)).getLast? = some kline := by
  unfold sortKlines
  rw [List.mem_insertionSort, List.mem_map]
  constructor
  · rintro ⟨⟨key, other⟩, hentry, rfl⟩
    have hlast := mem_deduplicate.mp hentry
    have hkey : other.key = key := by
      simpa using (List.mem_filter.mp (List.mem_of_getLast? hlast)).2
    rw [hkey]
    exact hlast
  · intro hlast
    exact ⟨(kline.key, kline), mem_deduplicate.mpr hlast, rfl⟩

/-- Every kept candle is one of the input. -/
theorem mem_of_mem_sortKlines {klines : List Kline} {kline : Kline}
    (h : kline ∈ sortKlines klines) : kline ∈ klines :=
  (List.mem_filter.mp (List.mem_of_getLast? (mem_sortKlines.mp h))).1

/-- Two kept candles differ in their keys. -/
theorem eq_of_key_eq {klines : List Kline} {first second : Kline}
    (hfirst : first ∈ sortKlines klines) (hsecond : second ∈ sortKlines klines)
    (hkey : first.key = second.key) : first = second := by
  have hlast := mem_sortKlines.mp hfirst
  rw [hkey, mem_sortKlines.mp hsecond] at hlast
  exact (Option.some.inj hlast).symm

theorem nodup_sortKlines (klines : List Kline) : (sortKlines klines).Nodup := by
  unfold sortKlines
  rw [(List.perm_insertionSort _ _).nodup_iff]
  have hkeys := keys_deduplicate_nodup klines
  refine List.Nodup.of_map Kline.key ?_
  have hmap : ((deduplicate klines).map Prod.snd).map Kline.key =
      Dict.keys (deduplicate klines) := by
    rw [List.map_map, Dict.keys]
    refine List.map_congr_left fun entry hentry => ?_
    simpa using (List.mem_filter.mp (List.mem_of_getLast? (mem_deduplicate.mp hentry))).2
  rwa [hmap]

theorem pairwise_sortKlines (klines : List Kline) :
    (sortKlines klines).Pairwise fun first second => first.openTime ≤ second.openTime := by
  have htotal : Std.Total fun first second : Kline => first.openTime ≤ second.openTime :=
    ⟨fun first second => le_total first.openTime second.openTime⟩
  have htrans : IsTrans Kline fun first second => first.openTime ≤ second.openTime :=
    ⟨fun _ _ _ => le_trans⟩
  exact List.pairwise_insertionSort _ _

/-- The candles of an interval are all of the symbol and of the interval. -/
def OfInterval (interval : Interval) (klines : List Kline) : Prop :=
  ∀ kline ∈ klines, kline.symbol = supportedMarketSymbol ∧ kline.interval = interval

/-- The same candles, those with equal open times in the same order. -/
def SameGroups (first second : List Kline) : Prop :=
  ∀ openTime : Timestamp,
    first.filter (·.openTime = openTime) = second.filter (·.openTime = openTime)

theorem SameGroups.mem_iff {first second : List Kline} (h : SameGroups first second)
    (kline : Kline) : kline ∈ first ↔ kline ∈ second := by
  have hgroup := congrArg (fun klines => kline ∈ klines) (h kline.openTime)
  simpa using hgroup

theorem SameGroups.filter_key {first second : List Kline} (h : SameGroups first second)
    (key : KlineKey) : first.filter (·.key = key) = second.filter (·.key = key) := by
  have hsplit : ∀ klines : List Kline, klines.filter (·.key = key) =
      (klines.filter (·.openTime = key.openTime)).filter (·.key = key) := by
    intro klines
    rw [List.filter_filter]
    refine List.filter_congr fun kline _ => ?_
    by_cases hkey : kline.key = key
    · simp [← hkey, Kline.key]
    · simp [hkey]
  rw [hsplit first, hsplit second, h]

/-- The sorted candles of an interval do not depend on the order they came in, except for
those with equal open times. -/
theorem sortKlines_congr {interval : Interval} {first second : List Kline}
    (hfirst : OfInterval interval first) (h : SameGroups first second) :
    sortKlines first = sortKlines second := by
  have hmem : ∀ kline, kline ∈ sortKlines first ↔ kline ∈ sortKlines second := by
    intro kline
    rw [mem_sortKlines, mem_sortKlines, h.filter_key]
  have hperm : (sortKlines first).Perm (sortKlines second) :=
    (List.perm_ext_iff_of_nodup (nodup_sortKlines first) (nodup_sortKlines second)).mpr hmem
  refine hperm.eq_of_pairwise (fun a b ha hb hab hba => ?_) (pairwise_sortKlines first)
    (pairwise_sortKlines second)
  have hb' := (hmem b).mpr hb
  obtain ⟨hsymbol, hinterval⟩ := hfirst a (mem_of_mem_sortKlines ha)
  obtain ⟨hsymbol', hinterval'⟩ := hfirst b (mem_of_mem_sortKlines hb')
  refine eq_of_key_eq ha hb' ?_
  unfold Kline.key
  rw [hsymbol, hsymbol', hinterval, hinterval', le_antisymm hab hba]

/-! ## The state -/

/-- The candles of every interval. -/
abbrev KlinesByInterval := Interval → List Kline

/-- `MarketStateSnapshot`. -/
structure MarketState where
  klinesByInterval : KlinesByInterval := fun _ => []
  currentEthPrice : Option ℚ := none
  version : ℕ := 0
  updatedAt : Option Timestamp := none
  ready : Bool := false
  updateSourceKlines : List Kline := []

/-- `_validate_klines_at_snapshot_time` for one candle. -/
def validateKlineAt (interval : Interval) (updatedAt : Timestamp) (kline : Kline) :
    Except TradingError Unit := do
  Except.require (kline.openTime ≤ updatedAt)
    (.valueError "Kline open time must not be in the future")
  Except.require (kline.closed = true → kline.openTime + interval.duration ≤ updatedAt)
    (.valueError "closed Kline must end by the snapshot time")
  Except.require (kline.closed = false → updatedAt < kline.openTime + interval.duration)
    (.valueError "open Kline must contain the snapshot time")

/-- `_validate_four_hour_current_candle`: the last candle, which is open. -/
def validateFourHourCurrentCandle (klines : List Kline) (updatedAt : Timestamp) :
    Except TradingError Kline := do
  Except.require (∀ kline ∈ klines.dropLast, kline.closed = true)
    (.valueError "only the latest four-hour Kline may be open")
  match klines.getLast? with
  | none => .error .stopIteration
  | some latest => do
      Except.require (latest.closed = false)
        (.valueError "the latest four-hour Kline must be open")
      Except.require (latest.openTime ≤ updatedAt ∧
          updatedAt < latest.openTime + Interval.fourHours.duration)
        (.valueError "the open four-hour Kline must contain the snapshot time")
      return latest

/-- The sources of an update, which its candles must hold as they are. -/
def normalizeSources (klines : KlinesByInterval) :
    Option (List Kline) → Except TradingError (List Kline)
  | none => .ok []
  | some sources => do
      Except.require (sources ≠ []) (.valueError "source_klines must not be empty when provided")
      Except.require (∀ source ∈ sources, source ∈ klines source.interval)
        (.valueError "every source Kline must be present in the next snapshot")
      return sources

/-- The times that may stand in for the clock: those of the sources and of the state that
are ahead of it by at most the live skew. -/
def skewTimes (state : MarketState) (sources : List Kline) (now : Timestamp) : List Timestamp :=
  (sources.filterMap (·.eventTime) ++ state.updatedAt.toList).filter fun time =>
    decide (now < time ∧ time ≤ now + maxLiveClockSkew)

/-- The time of the next state. -/
def nextUpdatedAt (state : MarketState) (sources : List Kline) (now : Timestamp) : Timestamp :=
  (skewTimes state sources now).foldl max now

namespace MarketSnapshot

/-- The candles of an update, all intervals of it. -/
def normalizeAll (input : Interval → Option (List Kline)) :
    Except TradingError KlinesByInterval := do
  Except.require (∀ interval ∈ supportedIntervals, (input interval).isSome)
    (.valueError "klines_by_interval must contain exactly all supported intervals")
  let oneMinute ← normalizeKlines .oneMinute ((input .oneMinute).getD [])
  let thirtyMinutes ← normalizeKlines .thirtyMinutes ((input .thirtyMinutes).getD [])
  let fourHours ← normalizeKlines .fourHours ((input .fourHours).getD [])
  let oneDay ← normalizeKlines .oneDay ((input .oneDay).getD [])
  return fun
    | .oneMinute => oneMinute
    | .thirtyMinutes => thirtyMinutes
    | .fourHours => fourHours
    | .oneDay => oneDay

/-- The state that `update` replaces the old one with. -/
def candidate (state : MarketState) (input : Interval → Option (List Kline))
    (sources : Option (List Kline)) (now : Timestamp) : Except TradingError MarketState := do
  let klines ← normalizeAll input
  let sources ← normalizeSources klines sources
  let updatedAt := nextUpdatedAt state sources now
  supportedIntervals.forM fun interval =>
    (klines interval).forM (validateKlineAt interval updatedAt)
  let latest ← validateFourHourCurrentCandle (klines .fourHours) updatedAt
  return {
    klinesByInterval := klines
    currentEthPrice := some latest.close
    version := state.version + 1
    updatedAt := some updatedAt
    ready := true
    updateSourceKlines := sources }

/-- `update`. -/
def update (input : Interval → Option (List Kline)) (sources : Option (List Kline))
    (now : Timestamp) : EStateM TradingError MarketState PUnit := do
  let state ← get
  let next ← Stateful.raising (candidate state input sources now)
  set next

/-! ### What the checks admit -/

variable {interval : Interval} {state next : MarketState} {klines : KlinesByInterval}
  {input : Interval → Option (List Kline)} {sources : Option (List Kline)} {now : Timestamp}

theorem normalizeKlines_eq_ok_iff {given result : List Kline} :
    normalizeKlines interval given = .ok result ↔
      given ≠ [] ∧ OfInterval interval given ∧ Continuous interval (sortKlines given) ∧
        result = sortKlines given := by
  unfold normalizeKlines
  rw [Except.require_bind_eq_ok_iff, Except.bind_eq_ok_iff]
  refine and_congr_right fun _ => ?_
  have hchecks : (given.forM fun kline => do
        Except.require (kline.symbol = supportedMarketSymbol)
          (TradingError.valueError "kline symbol must match snapshot symbol")
        Except.require (kline.interval = interval)
          (TradingError.valueError "kline interval must match its mapping interval")) =
      .ok ⟨⟩ ↔ OfInterval interval given := by
    rw [Except.forM_eq_ok_iff]
    refine forall₂_congr fun kline _ => ?_
    rw [Except.require_bind_eq_ok_iff, Except.require_eq_ok_iff]
  constructor
  · rintro ⟨u, hloop, h⟩
    obtain ⟨hcontinuous, h⟩ := Except.require_bind_eq_ok_iff.mp h
    cases h
    exact ⟨hchecks.mp hloop, hcontinuous, rfl⟩
  · rintro ⟨hof, hcontinuous, rfl⟩
    exact ⟨⟨⟩, hchecks.mpr hof, Except.require_bind_eq_ok_iff.mpr ⟨hcontinuous, rfl⟩⟩

/-- Whether the candles of an interval pass does not depend on their order either. -/
theorem normalizeKlines_congr {first second result : List Kline} (h : SameGroups first second) :
    normalizeKlines interval first = .ok result ↔ normalizeKlines interval second = .ok result := by
  have hof : OfInterval interval first ↔ OfInterval interval second :=
    forall_congr' fun kline => imp_congr_left (h.mem_iff kline)
  have hempty : first ≠ [] ↔ second ≠ [] := by
    rw [ne_eq, ne_eq, List.eq_nil_iff_forall_not_mem, List.eq_nil_iff_forall_not_mem]
    exact not_congr (forall_congr' fun kline => not_congr (h.mem_iff kline))
  rw [normalizeKlines_eq_ok_iff, normalizeKlines_eq_ok_iff, hempty, ← hof]
  refine and_congr_right fun _ => and_congr_right fun hfirst => ?_
  rw [sortKlines_congr hfirst h]

theorem normalizeAll_eq_ok_iff :
    normalizeAll input = .ok klines ↔
      ∀ interval, ∃ given, input interval = some given ∧
        normalizeKlines interval given = .ok (klines interval) := by
  unfold normalizeAll
  rw [Except.require_bind_eq_ok_iff]
  constructor
  · rintro ⟨hall, h⟩
    obtain ⟨oneMinute, hone, h⟩ := Except.bind_eq_ok_iff.mp h
    obtain ⟨thirtyMinutes, hthirty, h⟩ := Except.bind_eq_ok_iff.mp h
    obtain ⟨fourHours, hfour, h⟩ := Except.bind_eq_ok_iff.mp h
    obtain ⟨oneDay, hday, h⟩ := Except.bind_eq_ok_iff.mp h
    cases h
    intro interval
    have hmem : interval ∈ supportedIntervals := by cases interval <;> decide
    obtain ⟨given, hgiven⟩ := Option.isSome_iff_exists.mp (hall interval hmem)
    refine ⟨given, hgiven, ?_⟩
    cases interval with
    | oneMinute => rwa [hgiven] at hone
    | thirtyMinutes => rwa [hgiven] at hthirty
    | fourHours => rwa [hgiven] at hfour
    | oneDay => rwa [hgiven] at hday
  · intro h
    refine ⟨fun interval _ => ?_, ?_⟩
    · obtain ⟨given, hgiven, -⟩ := h interval
      rw [hgiven]
      rfl
    · have hone : ∀ interval,
          normalizeKlines interval ((input interval).getD []) = .ok (klines interval) := by
        intro interval
        obtain ⟨given, hgiven, hnormal⟩ := h interval
        rw [hgiven]
        exact hnormal
      rw [hone, hone, hone, hone]
      refine congrArg Except.ok (funext fun interval => ?_)
      cases interval <;> rfl

theorem nextUpdatedAt_cases (state : MarketState) (sources : List Kline) (now : Timestamp) :
    (skewTimes state sources now = [] ∧ nextUpdatedAt state sources now = now) ∨
      (nextUpdatedAt state sources now ∈ skewTimes state sources now ∧
        ∀ time ∈ skewTimes state sources now, time ≤ nextUpdatedAt state sources now) := by
  have hfold : ∀ (times : List Timestamp) (start : Timestamp),
      (times.foldl max start = start ∨ times.foldl max start ∈ times) ∧
        start ≤ times.foldl max start ∧ ∀ time ∈ times, time ≤ times.foldl max start := by
    intro times
    induction times with
    | nil => exact fun start => ⟨.inl rfl, le_rfl, fun _ h => by cases h⟩
    | cons time times ih =>
        intro start
        obtain ⟨hvalue, hle, hall⟩ := ih (max start time)
        rw [List.foldl_cons]
        refine ⟨?_, (le_max_left start time).trans hle, fun other hother => ?_⟩
        · rcases hvalue with heq | hmem
          · rw [heq]
            rcases max_choice start time with h | h
            · exact .inl h
            · exact .inr (by rw [h]; exact List.mem_cons_self)
          · exact .inr (List.mem_cons_of_mem _ hmem)
        · rcases List.mem_cons.mp hother with rfl | hmem
          · exact (le_max_right start other).trans hle
          · exact hall other hmem
  obtain ⟨hvalue, hle, hall⟩ := hfold (skewTimes state sources now) now
  rcases hvalue with heq | hmem
  · -- the skew times are all ahead of the clock
    refine .inl ⟨List.eq_nil_iff_forall_not_mem.mpr fun time htime => ?_, heq⟩
    have hahead : now < time := (decide_eq_true_iff.mp (List.mem_filter.mp htime).2).1
    exact absurd (heq ▸ hall time htime) (not_le.mpr hahead)
  · exact .inr ⟨hmem, hall⟩

/-- The time of the next state is at most the live skew ahead of the clock, and no earlier
than that of the state unless the clock is further behind. -/
theorem nextUpdatedAt_bounds (state : MarketState) (sources : List Kline) (now : Timestamp) :
    now ≤ nextUpdatedAt state sources now ∧
      nextUpdatedAt state sources now ≤ now + maxLiveClockSkew ∧
      ∀ before ∈ state.updatedAt, nextUpdatedAt state sources now < before →
        now + maxLiveClockSkew < before := by
  have hskew : (0 : ℤ) ≤ maxLiveClockSkew := by decide
  have hstate : ∀ before ∈ state.updatedAt, now < before → before ≤ now + maxLiveClockSkew →
      before ∈ skewTimes state sources now := by
    intro before hbefore hahead hnear
    refine List.mem_filter.mpr ⟨List.mem_append_right _ (Option.mem_toList.mpr hbefore), ?_⟩
    exact decide_eq_true ⟨hahead, hnear⟩
  rcases nextUpdatedAt_cases state sources now with ⟨hnone, heq⟩ | ⟨hmem, hmax⟩
  · rw [heq]
    refine ⟨le_rfl, le_add_of_nonneg_right hskew, fun before hbefore hahead => ?_⟩
    by_contra hnear
    have := hstate before hbefore hahead (not_lt.mp hnear)
    rw [hnone] at this
    cases this
  · obtain ⟨hahead, hnear⟩ := decide_eq_true_iff.mp (List.mem_filter.mp hmem).2
    refine ⟨hahead.le, hnear, fun before hbefore hback => ?_⟩
    by_contra hfar
    exact absurd (hmax before (hstate before hbefore (hahead.trans hback) (not_lt.mp hfar)))
      (not_le.mpr hback)

theorem validateKlineAt_eq_ok_iff {updatedAt : Timestamp} {kline : Kline} :
    validateKlineAt interval updatedAt kline = .ok () ↔
      kline.openTime ≤ updatedAt ∧
        (kline.closed = true → kline.openTime + interval.duration ≤ updatedAt) ∧
        (kline.closed = false → updatedAt < kline.openTime + interval.duration) := by
  unfold validateKlineAt
  rw [Except.require_bind_eq_ok_iff, Except.require_bind_eq_ok_iff, Except.require_eq_ok_iff]

theorem validateFourHourCurrentCandle_eq_ok {given : List Kline} {updatedAt : Timestamp}
    {latest : Kline} (h : validateFourHourCurrentCandle given updatedAt = .ok latest) :
    given.getLast? = some latest ∧ latest.closed = false ∧ latest.openTime ≤ updatedAt ∧
      updatedAt < latest.openTime + Interval.fourHours.duration := by
  obtain ⟨-, h⟩ := Except.require_bind_eq_ok_iff.mp h
  split at h
  · cases h
  · rename_i last hlast
    obtain ⟨hopen, h⟩ := Except.require_bind_eq_ok_iff.mp h
    obtain ⟨hcontains, h⟩ := Except.require_bind_eq_ok_iff.mp h
    cases h
    exact ⟨hlast, hopen, hcontains⟩

theorem normalizeSources_eq_ok {result : List Kline}
    (h : normalizeSources klines sources = .ok result) :
    result = sources.getD [] ∧ ∀ source ∈ result, source ∈ klines source.interval := by
  cases sources with
  | none =>
      cases h
      exact ⟨rfl, fun source hsource => by cases hsource⟩
  | some given =>
      obtain ⟨-, h⟩ := Except.require_bind_eq_ok_iff.mp h
      obtain ⟨hpresent, h⟩ := Except.require_bind_eq_ok_iff.mp h
      cases h
      exact ⟨rfl, hpresent⟩

/-- Only the last of continuous candles can contain a time that none of them is after. -/
theorem closed_of_mem_dropLast {given : List Kline} {updatedAt : Timestamp} {kline : Kline}
    (hcontinuous : Continuous interval given)
    (hvalid : ∀ kline ∈ given, validateKlineAt interval updatedAt kline = .ok ())
    (hmem : kline ∈ given.dropLast) : kline.closed = true := by
  obtain ⟨i, hi, rfl⟩ := List.mem_iff_getElem.mp hmem
  have hlength : i + 1 < given.length := by
    rw [List.length_dropLast] at hi
    omega
  rw [List.getElem_dropLast]
  have hnext := List.isChain_iff_getElem.mp hcontinuous i hlength
  have hlater := (validateKlineAt_eq_ok_iff.mp (hvalid given[i + 1] (List.getElem_mem _))).1
  have hopen := (validateKlineAt_eq_ok_iff.mp
    (hvalid given[i] (List.getElem_mem (Nat.lt_of_succ_lt hlength)))).2.2
  by_contra hclosed
  have := hopen (Bool.eq_false_of_not_eq_true hclosed)
  linarith

/-- What an accepted update says about the new state. -/
structure UpdatedState (state : MarketState) (input : Interval → Option (List Kline))
    (sources : Option (List Kline)) (now : Timestamp) (next : MarketState) : Prop where
  version : next.version = state.version + 1
  /-- The candles are those of the input, one for each open time. -/
  given : ∀ interval, ∃ given, input interval = some given ∧
    next.klinesByInterval interval = sortKlines given
  continuous : ∀ interval, Continuous interval (next.klinesByInterval interval)
  increasing : ∀ interval, (next.klinesByInterval interval).Pairwise fun previous current =>
    previous.openTime < current.openTime
  /-- At most the last candle is open, and that of the four hours is. -/
  closed_before_last : ∀ interval, ∀ kline ∈ (next.klinesByInterval interval).dropLast,
    kline.closed = true
  four_hours_open : ∃ latest, (next.klinesByInterval .fourHours).getLast? = some latest ∧
    latest.closed = false ∧ next.currentEthPrice = some latest.close
  sources_present : next.updateSourceKlines = sources.getD [] ∧
    ∀ source ∈ sources.getD [], source ∈ next.klinesByInterval source.interval
  /-- The time is at most the live skew ahead of the clock, and moves back only when the
  clock is further behind than that. -/
  updatedAt : ∃ updatedAt, next.updatedAt = some updatedAt ∧ now ≤ updatedAt ∧
    updatedAt ≤ now + maxLiveClockSkew ∧
    ∀ before ∈ state.updatedAt, updatedAt < before → now + maxLiveClockSkew < before

theorem pairwise_of_continuous {given : List Kline} (h : Continuous interval given) :
    given.Pairwise fun previous current => previous.openTime < current.openTime := by
  have htrans : IsTrans Kline fun previous current => previous.openTime < current.openTime :=
    ⟨fun _ _ _ => lt_trans⟩
  refine List.isChain_iff_pairwise.mp (h.imp fun previous current hnext => ?_)
  have := interval.duration_pos
  linarith

theorem candidate_eq_ok (h : candidate state input sources now = .ok next) :
    UpdatedState state input sources now next := by
  obtain ⟨klines, hklines, h⟩ := Except.bind_eq_ok_iff.mp h
  obtain ⟨declared, hdeclared, h⟩ := Except.bind_eq_ok_iff.mp h
  obtain ⟨u, htimes, h⟩ := Except.bind_eq_ok_iff.mp h
  obtain ⟨latest, hlatest, h⟩ := Except.bind_eq_ok_iff.mp h
  cases h
  obtain ⟨rfl, hpresent⟩ := normalizeSources_eq_ok hdeclared
  have hall := normalizeAll_eq_ok_iff.mp hklines
  have hcontinuous : ∀ interval, Continuous interval (klines interval) := by
    intro interval
    obtain ⟨given, -, hnormal⟩ := hall interval
    obtain ⟨-, -, hcontinuous, heq⟩ := normalizeKlines_eq_ok_iff.mp hnormal
    rw [heq]
    exact hcontinuous
  have hvalid : ∀ interval, ∀ kline ∈ klines interval,
      validateKlineAt interval (nextUpdatedAt state (sources.getD []) now) kline = .ok () := by
    intro interval
    have hmem : interval ∈ supportedIntervals := by cases interval <;> decide
    exact Except.forM_eq_ok_iff.mp (Except.forM_eq_ok_iff.mp htimes interval hmem)
  obtain ⟨hlast, hopen, -⟩ := validateFourHourCurrentCandle_eq_ok hlatest
  exact {
    version := rfl
    given := fun interval => by
      obtain ⟨given, hgiven, hnormal⟩ := hall interval
      exact ⟨given, hgiven, (normalizeKlines_eq_ok_iff.mp hnormal).2.2.2⟩
    continuous := hcontinuous
    increasing := fun interval => pairwise_of_continuous (hcontinuous interval)
    closed_before_last := fun interval kline hmem =>
      closed_of_mem_dropLast (hcontinuous interval) (hvalid interval) hmem
    four_hours_open := ⟨latest, hlast, hopen, rfl⟩
    sources_present := ⟨rfl, hpresent⟩
    updatedAt := ⟨_, rfl, nextUpdatedAt_bounds state (sources.getD []) now⟩ }

theorem update_run (state : MarketState) :
    update input sources now state =
      match candidate state input sources now with
      | .ok next => .ok ⟨⟩ next
      | .error error => .error error state := by
  unfold update
  rw [Stateful.bind_run, Stateful.get_run]
  dsimp only
  rw [Stateful.bind_run]
  cases candidate state input sources now <;> rfl

theorem update_eq_ok_iff :
    update input sources now state = .ok ⟨⟩ next ↔
      candidate state input sources now = .ok next := by
  rw [update_run]
  cases candidate state input sources now with
  | ok other => simp
  | error error => simp

/-- The candles of every interval, those with equal open times in the same order. -/
def SameInput (first second : Interval → Option (List Kline)) : Prop :=
  ∀ interval, Option.Rel SameGroups (first interval) (second interval)

theorem SameGroups.symm {first second : List Kline} (h : SameGroups first second) :
    SameGroups second first := fun openTime => (h openTime).symm

theorem normalizeAll_of_sameInput {first second : Interval → Option (List Kline)}
    (h : SameInput first second) (hfirst : normalizeAll first = .ok klines) :
    normalizeAll second = .ok klines := by
  rw [normalizeAll_eq_ok_iff] at hfirst ⊢
  intro interval
  obtain ⟨given, hgiven, hnormal⟩ := hfirst interval
  have hsame := h interval
  rw [hgiven] at hsame
  cases hother : second interval with
  | none => rw [hother] at hsame; cases hsame
  | some other =>
      rw [hother] at hsame
      cases hsame with
      | some hgroups => exact ⟨other, rfl, (normalizeKlines_congr hgroups).mp hnormal⟩

theorem candidate_of_sameInput {first second : Interval → Option (List Kline)}
    (h : SameInput first second) (hfirst : candidate state first sources now = .ok next) :
    candidate state second sources now = .ok next := by
  obtain ⟨klines, hklines, hrest⟩ := Except.bind_eq_ok_iff.mp hfirst
  exact Except.bind_eq_ok_iff.mpr ⟨klines, normalizeAll_of_sameInput h hklines, hrest⟩

theorem SameInput.symm {first second : Interval → Option (List Kline)}
    (h : SameInput first second) : SameInput second first := by
  intro interval
  have hsame := h interval
  cases hfirst : first interval with
  | none =>
      rw [hfirst] at hsame
      cases hsecond : second interval with
      | none => exact .none
      | some other => rw [hsecond] at hsame; cases hsame
  | some given =>
      rw [hfirst] at hsame
      cases hsecond : second interval with
      | none => rw [hsecond] at hsame; cases hsame
      | some other =>
          rw [hsecond] at hsame
          cases hsame with
          | some hgroups => exact .some (SameGroups.symm hgroups)

/-- An update raises and leaves the state, or makes a state as it should be; and candles in
another order make the same state, or raise as well. -/
theorem update_law (state : MarketState) (input : Interval → Option (List Kline))
    (sources : Option (List Kline)) (now : Timestamp) :
    ((∃ error, update input sources now state = .error error state) ∨
      ∃ next, update input sources now state = .ok ⟨⟩ next ∧
        UpdatedState state input sources now next) ∧
    ∀ other, SameInput input other → ∀ next,
      (update input sources now state = .ok ⟨⟩ next ↔
        update other sources now state = .ok ⟨⟩ next) := by
  refine ⟨?_, fun other hsame next => ?_⟩
  · rw [update_run]
    cases hcandidate : candidate state input sources now with
    | error error => exact .inl ⟨error, rfl⟩
    | ok next => exact .inr ⟨next, rfl, candidate_eq_ok hcandidate⟩
  · rw [update_eq_ok_iff, update_eq_ok_iff]
    exact ⟨candidate_of_sameInput hsame, candidate_of_sameInput hsame.symm⟩

/-! ## A clock that falls behind -/

theorem openKline_symbol : NormalizedSymbol "ETHUSDT" := by simp [NormalizedSymbol]

theorem openKline_price : (0 : ℚ) < 1 := one_pos

theorem openKline_volume : (0 : ℚ) ≤ 0 := le_refl 0

theorem openKline_low : (1 : ℚ) ≤ min 1 1 := by simp

theorem openKline_high : max (1 : ℚ) 1 ≤ 1 := by simp

/-- An open candle of each interval, from time zero. -/
def openKline (interval : Interval) : Kline where
  symbol := "ETHUSDT"
  interval := interval
  openTime := 0
  openPrice := 1
  high := 1
  low := 1
  close := 1
  volume := 0
  closed := false
  symbol_normalized := openKline_symbol
  open_pos := openKline_price
  high_pos := openKline_price
  low_pos := openKline_price
  close_pos := openKline_price
  volume_nonneg := openKline_volume
  low_le := openKline_low
  le_high := openKline_high

/-- One candle of each interval. -/
def openKlines (interval : Interval) : Option (List Kline) := some [openKline interval]

/-- Two updates with these candles, the second one twenty seconds before the first, move the
time of the snapshot back by all of it. -/
theorem clock_moves_back :
    ¬ ∀ (first second : Interval → Option (List Kline)) (earlier later : Timestamp)
      (state next : MarketState),
      update first none earlier {} = .ok ⟨⟩ state → update second none later state = .ok ⟨⟩ next →
      ∀ before ∈ state.updatedAt, ∀ updatedAt ∈ next.updatedAt,
        before - updatedAt ≤ maxLiveClockSkew := by
  intro h
  have hfirst := Stateful.eq_ok_of_returned
    (r := update openKlines none 30000000 {}) (by decide +kernel)
  have hsecond := Stateful.eq_ok_of_returned
    (r := update openKlines none 10000000
      (Stateful.finalState (update openKlines none 30000000 {}))) (by decide +kernel)
  have hback := h openKlines openKlines 30000000 10000000 _ _ hfirst hsecond 30000000
    (by decide +kernel) 10000000 (by decide +kernel)
  exact absurd hback (by decide)

end MarketSnapshot

end Market
