import AutoTrader.Market.DataController

/-!
# Boundaries among candles

Which candles a boundary closes and opens together, and the candles that the controller defers
until the clock has reached them.

* `Complete`, `Atomic` — a whole boundary; candles that hold every boundary whole.
* `Waits` — what is deferred while a boundary waits: `Waits.tick`, `Waits.batch` add to it.
-/

namespace Market

open Trading

/-! ## Candles that belong together -/

/-- A candle of the interval ends at the time. -/
def Ends (sources : List Kline) (interval : Interval) (time : Timestamp) : Prop :=
  ∃ kline ∈ sources, kline.interval = interval ∧ kline.closed = true ∧ kline.closeTime = time

/-- An open candle of the interval starts at the time. -/
def Starts (sources : List Kline) (interval : Interval) (time : Timestamp) : Prop :=
  ∃ kline ∈ sources, kline.interval = interval ∧ kline.closed = false ∧ kline.openTime = time

/-- The candles of every interval that the boundary closes, and the next ones of the upper
intervals. -/
def Complete (time : Timestamp) (sources : List Kline) : Prop :=
  ∀ interval, boundaryRequires time interval = true →
    Ends sources interval time ∧ (interval.isUpper = true → Starts sources interval time)

/-- Above the minute, candles close with their whole boundary only. -/
def Atomic (sources : List Kline) : Prop :=
  ∀ kline ∈ sources, kline.closed = true → kline.interval ≠ .oneMinute →
    boundaryRequires kline.closeTime kline.interval = true ∧ Complete kline.closeTime sources

/-- The candle closes at most a minute. -/
def Tick (kline : Kline) : Prop := kline.closed = true → kline.interval = .oneMinute

/-- The candle closes at the boundary, or opens there an upper interval. -/
def Fits (time : Timestamp) (kline : Kline) : Prop :=
  (kline.closed = true ∧ kline.closeTime = time ∧ boundaryRequires time kline.interval = true) ∨
    (kline.closed = false ∧ kline.interval.isUpper = true ∧ kline.openTime = time)

/-- The sources of a boundary. -/
structure Batch (time : Timestamp) (sources : List Kline) : Prop where
  fits : ∀ kline ∈ sources, Fits time kline
  complete : Complete time sources

theorem Batch.atomic {time : Timestamp} {sources : List Kline} (h : Batch time sources) :
    Atomic sources := by
  intro kline hmem hclosed _
  rcases h.fits kline hmem with ⟨_, hclose, hrequires⟩ | ⟨hopen, _⟩
  · rw [hclose]
    exact ⟨hrequires, h.complete⟩
  · rw [hclosed] at hopen
    cases hopen

theorem atomic_of_ticks {sources : List Kline} (h : ∀ kline ∈ sources, Tick kline) :
    Atomic sources := fun kline hmem hclosed hinterval =>
  absurd (h kline hmem hclosed) hinterval

/-- The key and the end say the same of two candles. -/
theorem deferKey_eq_iff {first second : Kline} :
    first.deferKey = second.deferKey ↔
      first.interval = second.interval ∧ first.openTime = second.openTime := by
  simp [Kline.deferKey]

theorem closeTime_of_deferKey {first second : Kline} (h : first.deferKey = second.deferKey) :
    first.closeTime = second.closeTime := by
  obtain ⟨hinterval, hopen⟩ := deferKey_eq_iff.mp h
  unfold Kline.closeTime
  rw [hinterval, hopen]

theorem openTime_lt_closeTime (kline : Kline) : kline.openTime < kline.closeTime := by
  have := kline.interval.duration_pos
  unfold Kline.closeTime
  linarith

/-! ## The deferred candles -/

/-- The candles. -/
def candles (deferred : DeferredKlines) : List Kline := deferred.map Prod.snd

/-- Every candle is under its own key, once. -/
structure Wellkeyed (deferred : DeferredKlines) : Prop where
  keyed : ∀ entry ∈ deferred, entry.1 = entry.2.deferKey
  nodup : (Dict.keys deferred).Nodup

section Deferred

variable {deferred : DeferredKlines} {kline other : Kline} {interval : Interval}
  {time : Timestamp} {sources : List Kline}

theorem Wellkeyed.nil : Wellkeyed [] := ⟨by simp, List.nodup_nil⟩

theorem Wellkeyed.mem_values (h : Wellkeyed deferred) :
    kline ∈ candles deferred ↔ deferred.lookup kline.deferKey = some kline := by
  have hlookup : deferred.lookup kline.deferKey = some kline ↔ (kline.deferKey, kline) ∈ deferred :=
    @Dict.lookup_eq_some_iff _ _ _ deferred h.nodup (kline.deferKey, kline)
  rw [hlookup]
  constructor
  · intro hmem
    obtain ⟨entry, hentry, rfl⟩ := List.mem_map.mp hmem
    rw [← h.keyed entry hentry]
    exact hentry
  · exact List.mem_map_of_mem

theorem Wellkeyed.lookup (h : Wellkeyed deferred) {key : DeferKey}
    (hlookup : deferred.lookup key = some kline) :
    kline ∈ candles deferred ∧ kline.deferKey = key := by
  have hmem : (key, kline) ∈ deferred := (Dict.lookup_eq_some_iff h.nodup).mp hlookup
  exact ⟨List.mem_map_of_mem hmem, (h.keyed _ hmem).symm⟩

/-- A candle that reopens a closed one changes nothing; another one takes its key. -/
theorem defer_cases (deferred : DeferredKlines) (kline : Kline) :
    (∃ previous, deferred.lookup kline.deferKey = some previous ∧ previous.closed = true ∧
        kline.closed = false ∧ defer deferred kline = deferred) ∨
      (defer deferred kline = Dict.insert kline.deferKey kline deferred ∧
        ∀ previous, deferred.lookup kline.deferKey = some previous → previous.closed = true →
          kline.closed = true) := by
  unfold defer
  cases hlookup : deferred.lookup kline.deferKey with
  | none => exact .inr ⟨rfl, by simp⟩
  | some previous =>
      dsimp only
      split
      · rename_i hreopens
        simp only [Bool.and_eq_true, Bool.not_eq_true'] at hreopens
        exact .inl ⟨previous, rfl, hreopens.1, hreopens.2, rfl⟩
      · rename_i hreopens
        refine .inr ⟨rfl, fun found hfound hclosed => ?_⟩
        cases hfound
        simpa [hclosed] using hreopens

theorem Wellkeyed.insert (h : Wellkeyed deferred) (kline : Kline) :
    Wellkeyed (Dict.insert kline.deferKey kline deferred) := by
  have hnodup : (Dict.keys (Dict.insert kline.deferKey kline deferred)).Nodup := by
    rw [Dict.keys_insert]
    split
    · exact h.nodup
    · rename_i hnew
      exact List.nodup_append.mpr ⟨h.nodup, List.nodup_singleton _, fun key hkey last hlast heq =>
        hnew (by rwa [← List.mem_singleton.mp hlast, ← heq])⟩
  refine ⟨fun entry hentry => ?_, hnodup⟩
  have hlookup := (Dict.lookup_eq_some_iff hnodup).mpr hentry
  by_cases hkey : entry.1 = kline.deferKey
  · rw [hkey, Dict.lookup_insert_self] at hlookup
    cases hlookup
    exact hkey
  · rw [Dict.lookup_insert_of_ne hkey] at hlookup
    exact h.keyed entry ((Dict.lookup_eq_some_iff h.nodup).mp hlookup)

theorem Wellkeyed.defer (h : Wellkeyed deferred) (kline : Kline) :
    Wellkeyed (defer deferred kline) := by
  rcases defer_cases deferred kline with ⟨_, _, _, _, heq⟩ | ⟨heq, _⟩ <;> rw [heq]
  · exact h
  · exact h.insert kline

/-- What is deferred was deferred before, or is the new candle. -/
theorem mem_defer (h : Wellkeyed deferred) (hmem : other ∈ candles (defer deferred kline)) :
    other = kline ∨ other ∈ candles deferred := by
  rcases defer_cases deferred kline with ⟨_, _, _, _, heq⟩ | ⟨heq, _⟩ <;> rw [heq] at hmem
  · exact .inr hmem
  · have hlookup := (h.insert kline).mem_values.mp hmem
    by_cases hkey : other.deferKey = kline.deferKey
    · rw [hkey, Dict.lookup_insert_self] at hlookup
      exact .inl (Option.some.inj hlookup).symm
    · rw [Dict.lookup_insert_of_ne hkey] at hlookup
      exact .inr (h.mem_values.mpr hlookup)

/-- A candle stays, unless the new one has its key. -/
theorem defer_mem (h : Wellkeyed deferred) (kline : Kline) (hmem : other ∈ candles deferred) :
    other ∈ candles (defer deferred kline) ∨
      (other.deferKey = kline.deferKey ∧ kline ∈ candles (defer deferred kline) ∧
        (other.closed = true → kline.closed = true)) := by
  rcases defer_cases deferred kline with ⟨_, _, _, _, heq⟩ | ⟨heq, hcloses⟩ <;> rw [heq]
  · exact .inl hmem
  · have hlookup := h.mem_values.mp hmem
    by_cases hkey : other.deferKey = kline.deferKey
    · rw [hkey] at hlookup
      exact .inr ⟨hkey, (h.insert kline).mem_values.mpr (Dict.lookup_insert_self _ _ _),
        hcloses other hlookup⟩
    · rw [← Dict.lookup_insert_of_ne hkey kline] at hlookup
      exact .inl ((h.insert kline).mem_values.mpr hlookup)

/-- The new candle is deferred, unless it reopens. -/
theorem mem_defer_self (h : Wellkeyed deferred) (kline : Kline) :
    kline ∈ candles (defer deferred kline) ∨ (kline.closed = false ∧
      ∃ previous ∈ candles deferred, previous.deferKey = kline.deferKey ∧
        previous.closed = true) := by
  rcases defer_cases deferred kline with ⟨previous, hlookup, hclosed, hopen, heq⟩ | ⟨heq, _⟩
  · obtain ⟨hmem, hkey⟩ := h.lookup hlookup
    exact .inr ⟨hopen, previous, hmem, hkey, hclosed⟩
  · rw [heq]
    exact .inl ((h.insert kline).mem_values.mpr (Dict.lookup_insert_self _ _ _))

theorem Ends.defer (h : Wellkeyed deferred) (hends : Ends (candles deferred) interval time) :
    Ends (candles (defer deferred kline)) interval time := by
  obtain ⟨other, hmem, hinterval, hclosed, htime⟩ := hends
  rcases defer_mem h kline hmem with hstays | ⟨hkey, hnew, hcloses⟩
  · exact ⟨other, hstays, hinterval, hclosed, htime⟩
  · exact ⟨kline, hnew, (deferKey_eq_iff.mp hkey).1 ▸ hinterval, hcloses hclosed,
      (closeTime_of_deferKey hkey).symm.trans htime⟩

theorem Starts.defer (h : Wellkeyed deferred)
    (hnot : kline.closed = true → kline.interval = interval → kline.openTime ≠ time)
    (hstarts : Starts (candles deferred) interval time) :
    Starts (candles (defer deferred kline)) interval time := by
  obtain ⟨other, hmem, hinterval, hopen, htime⟩ := hstarts
  rcases defer_mem h kline hmem with hstays | ⟨hkey, hnew, -⟩
  · exact ⟨other, hstays, hinterval, hopen, htime⟩
  · obtain ⟨hsame, hstart⟩ := deferKey_eq_iff.mp hkey
    refine ⟨kline, hnew, hsame ▸ hinterval, ?_, hstart ▸ htime⟩
    cases hclosed : kline.closed with
    | false => rfl
    | true => exact absurd (hstart ▸ htime) (hnot hclosed (hsame ▸ hinterval))

/-! ### A boundary among the deferred candles -/

/-- What closes above the minute closes at the boundary. -/
def Current (time : Timestamp) (deferred : DeferredKlines) : Prop :=
  ∀ kline ∈ candles deferred, kline.closed = true → kline.interval ≠ .oneMinute →
    kline.closeTime = time ∧ boundaryRequires time kline.interval = true

/-- Nothing that is deferred closes above the minute. -/
def Clear (deferred : DeferredKlines) : Prop := ∀ kline ∈ candles deferred, Tick kline

theorem Current.defer (hkeys : Wellkeyed deferred) (h : Current time deferred)
    (hfits : Fits time kline) : Current time (defer deferred kline) := by
  intro other hmem hclosed hinterval
  rcases mem_defer hkeys hmem with rfl | hold
  · rcases hfits with ⟨_, hclose, hrequires⟩ | ⟨hopen, _⟩
    · exact ⟨hclose, hrequires⟩
    · rw [hclosed] at hopen
      cases hopen
  · exact h other hold hclosed hinterval

theorem Fits.starts (hfits : Fits time kline) (hclosed : kline.closed = true) :
    kline.openTime ≠ time := by
  rcases hfits with ⟨_, hclose, _⟩ | ⟨hopen, _⟩
  · exact hclose ▸ (openTime_lt_closeTime kline).ne
  · rw [hclosed] at hopen
    cases hopen

/-- A source of the boundary is found among the deferred candles. -/
def Found (time : Timestamp) (found : List Kline) (kline : Kline) : Prop :=
  if kline.closed then Ends found kline.interval time else Starts found kline.interval time

theorem Found.defer (hkeys : Wellkeyed deferred) (hfits : Fits time kline)
    (h : Found time (candles deferred) other) :
    Found time (candles (defer deferred kline)) other := by
  unfold Found at h ⊢
  split
  · rename_i hclosed
    rw [if_pos hclosed] at h
    exact h.defer hkeys
  · rename_i hopen
    rw [if_neg hopen] at h
    exact h.defer hkeys fun hclosed _ => hfits.starts hclosed

theorem found_defer_self (hkeys : Wellkeyed deferred) (h : Current time deferred)
    (hfits : Fits time kline) : Found time (candles (defer deferred kline)) kline := by
  unfold Found
  rcases hfits with ⟨hclosed, hclose, _⟩ | ⟨hopen, hupper, hstart⟩
  · rw [if_pos hclosed]
    rcases mem_defer_self hkeys kline with hmem | ⟨hopen, _⟩
    · exact ⟨kline, hmem, rfl, hclosed, hclose⟩
    · rw [hclosed] at hopen
      cases hopen
  · rw [if_neg (by simp [hopen])]
    rcases mem_defer_self hkeys kline with hmem | ⟨_, previous, hmem, hkey, hclosed⟩
    · exact ⟨kline, hmem, rfl, hopen, hstart⟩
    · -- the closed candle would end after the boundary
      obtain ⟨hinterval, hsame⟩ := deferKey_eq_iff.mp hkey
      have hupper' : previous.interval ≠ .oneMinute := by
        rw [hinterval]
        intro hminute
        rw [hminute] at hupper
        cases hupper
      have hends := (h previous hmem hclosed hupper').1
      have := openTime_lt_closeTime previous
      rw [hends, hsame, hstart] at this
      exact absurd this (lt_irrefl _)

/-- After the sources of a boundary were deferred, all of them are found. -/
theorem foldl_defer (hkeys : Wellkeyed deferred) (h : Current time deferred)
    (hfits : ∀ kline ∈ sources, Fits time kline) :
    Wellkeyed (sources.foldl defer deferred) ∧ Current time (sources.foldl defer deferred) ∧
      ∀ kline, (kline ∈ sources ∨ Found time (candles deferred) kline) →
        Found time (candles (sources.foldl defer deferred)) kline := by
  induction sources generalizing deferred with
  | nil => exact ⟨hkeys, h, fun kline hkline => by simpa using hkline⟩
  | cons source sources ih =>
      rw [List.foldl_cons]
      have hsource := hfits source (by simp)
      obtain ⟨hkeys', hcurrent', hfound⟩ := ih (hkeys.defer source) (h.defer hkeys hsource)
        fun kline hmem => hfits kline (by simp [hmem])
      refine ⟨hkeys', hcurrent', fun kline hkline => hfound kline ?_⟩
      rcases hkline with hmem | hold
      · rcases List.mem_cons.mp hmem with rfl | hmem
        · exact .inr (found_defer_self hkeys h hsource)
        · exact .inl hmem
      · exact .inr (hold.defer hkeys hsource)

/-- Candles that hold every source of a boundary hold the boundary. -/
theorem Batch.complete_of_found (h : Batch time sources) {found : List Kline}
    (hfound : ∀ kline ∈ sources, Found time found kline) : Complete time found := by
  intro interval hrequires
  obtain ⟨⟨closed, hmem, hinterval, hclosed, -⟩, hupper⟩ := h.complete interval hrequires
  refine ⟨?_, fun hisUpper => ?_⟩
  · have := hfound closed hmem
    rwa [Found, if_pos hclosed, hinterval] at this
  · obtain ⟨opened, hmem', hinterval', hopen, -⟩ := hupper hisUpper
    have := hfound opened hmem'
    rwa [Found, if_neg (by simp [hopen]), hinterval'] at this

theorem mem_undefer {entry : DeferKey × Kline} :
    entry ∈ undefer deferred sources ↔
      entry ∈ deferred ∧ ∀ kline ∈ sources, entry.1 ≠ kline.deferKey := by
  unfold undefer
  induction sources generalizing deferred with
  | nil => simp
  | cons source sources ih =>
      rw [List.foldl_cons, ih, Dict.erase, List.mem_filter]
      simp only [decide_eq_true_eq, List.mem_cons, forall_eq_or_imp, and_assoc]

theorem Wellkeyed.undefer (h : Wellkeyed deferred) (sources : List Kline) :
    Wellkeyed (undefer deferred sources) := by
  refine ⟨fun entry hentry => h.keyed entry (mem_undefer.mp hentry).1, ?_⟩
  have hnodup := h.nodup
  unfold Market.undefer
  clear h
  induction sources generalizing deferred with
  | nil => exact hnodup
  | cons source sources ih =>
      rw [List.foldl_cons]
      refine ih ?_
      rw [Dict.keys_erase]
      exact hnodup.filter _

theorem mem_values_undefer (hkeys : Wellkeyed deferred)
    (hmem : kline ∈ candles (undefer deferred sources)) :
    kline ∈ candles deferred ∧ ∀ source ∈ sources, kline.deferKey ≠ source.deferKey := by
  obtain ⟨entry, hentry, rfl⟩ := List.mem_map.mp hmem
  obtain ⟨hold, hne⟩ := mem_undefer.mp hentry
  refine ⟨List.mem_map_of_mem hold, ?_⟩
  rw [← hkeys.keyed entry hold]
  exact hne

/-- When all deferred candles are committed, none is left. -/
theorem undefer_values (hkeys : Wellkeyed deferred) : undefer deferred (candles deferred) = [] := by
  refine List.eq_nil_iff_forall_not_mem.mpr fun entry hentry => ?_
  obtain ⟨hold, hne⟩ := mem_undefer.mp hentry
  exact hne entry.2 (List.mem_map_of_mem hold) (hkeys.keyed entry hold)

/-- When a boundary was committed, nothing is left that closes above the minute. -/
theorem Batch.clear_undefer (h : Batch time sources) (hkeys : Wellkeyed deferred)
    (hcurrent : Current time deferred) : Clear (undefer deferred sources) := by
  intro kline hmem hclosed
  by_contra hinterval
  obtain ⟨hold, hne⟩ := mem_values_undefer hkeys hmem
  obtain ⟨hclose, hrequires⟩ := hcurrent kline hold hclosed hinterval
  obtain ⟨source, hsource, hsame, -, hend⟩ := (h.complete kline.interval hrequires).1
  refine hne source hsource (deferKey_eq_iff.mpr ⟨hsame.symm, ?_⟩)
  have hends := hclose.trans hend.symm
  unfold Kline.closeTime at hends
  rw [hsame] at hends
  exact add_right_cancel hends

theorem Clear.undefer (h : Clear deferred) (hkeys : Wellkeyed deferred) (sources : List Kline) :
    Clear (undefer deferred sources) := fun kline hmem =>
  h kline (mem_values_undefer hkeys hmem).1

theorem Clear.defer (h : Clear deferred) (hkeys : Wellkeyed deferred) (htick : Tick kline) :
    Clear (defer deferred kline) := by
  intro other hmem
  rcases mem_defer hkeys hmem with rfl | hold
  · exact htick
  · exact h other hold

end Deferred

/-- What is deferred while the boundary waits. -/
structure Waits (pending : Option Timestamp) (deferred : DeferredKlines) : Prop where
  keys : Wellkeyed deferred
  atomic : Atomic (candles deferred)
  current : ∀ time ∈ pending, Current time deferred

section Waits

variable {pending : Option Timestamp} {deferred : DeferredKlines} {kline : Kline}
  {time : Timestamp} {sources : List Kline}

theorem Clear.waits (h : Clear deferred) (hkeys : Wellkeyed deferred)
    (pending : Option Timestamp) : Waits pending deferred where
  keys := hkeys
  atomic := atomic_of_ticks h
  current _ _ kline hmem hclosed hinterval := absurd (h kline hmem hclosed) hinterval

/-- A tick among them. -/
theorem Waits.tick (h : Waits pending deferred) (htick : Tick kline) :
    Waits pending (defer deferred kline) := by
  have hold : ∀ other ∈ candles (defer deferred kline), other.closed = true →
      other.interval ≠ .oneMinute → other ∈ candles deferred := by
    intro other hmem hclosed hinterval
    rcases mem_defer h.keys hmem with rfl | hold
    · exact absurd (htick hclosed) hinterval
    · exact hold
  refine ⟨h.keys.defer kline, fun other hmem hclosed hinterval => ?_,
    fun time htime other hmem hclosed hinterval =>
      h.current time htime other (hold other hmem hclosed hinterval) hclosed hinterval⟩
  obtain ⟨hrequires, hcomplete⟩ := h.atomic other (hold other hmem hclosed hinterval) hclosed
    hinterval
  refine ⟨hrequires, fun interval hinterval => ?_⟩
  obtain ⟨hends, hstarts⟩ := hcomplete interval hinterval
  refine ⟨hends.defer h.keys, fun hupper => (hstarts hupper).defer h.keys fun hcloses hsame _ => ?_⟩
  rw [← hsame, htick hcloses] at hupper
  cases hupper

/-- The sources of the boundary among them. -/
theorem Waits.batch (h : Waits (some time) deferred) (hbatch : Batch time sources) :
    Waits (some time) (sources.foldl defer deferred) ∧
      Clear (undefer (sources.foldl defer deferred) sources) := by
  obtain ⟨hkeys, hcurrent, hfound⟩ := foldl_defer h.keys (h.current time rfl) hbatch.fits
  have hcomplete := hbatch.complete_of_found fun kline hmem => hfound kline (.inl hmem)
  refine ⟨⟨hkeys, fun kline hmem hclosed hinterval => ?_, fun other hother => ?_⟩,
    hbatch.clear_undefer hkeys hcurrent⟩
  · obtain ⟨hclose, hrequires⟩ := hcurrent kline hmem hclosed hinterval
    rw [hclose]
    exact ⟨hrequires, hcomplete⟩
  · cases hother
    exact hcurrent

end Waits

end Market
