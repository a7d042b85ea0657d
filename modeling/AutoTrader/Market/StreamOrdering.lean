import AutoTrader.Market.Kline
import AutoTrader.Support.Dict
import AutoTrader.Support.Except
import AutoTrader.Support.State

/-!
# The order of the candle stream

`classify_kline` of `domain/market/stream_ordering.py`, which decides what a candle of the
stream means for the cursor of its interval, and the part of the gateway's
`_buffer_kline_message` that keeps the cursors.

* `rank` — the candle, then open before closed, then the event time.
* `classifyKline_eq_accept` — an accepted candle ranks at least as high as the cursor, and
  is later than a closed one.
* `evolve` — the cursor after a stream of candles.
* `cursor_never_rolls_back` — along every stream the rank of the cursor never goes down, the
  cursor itself is a duplicate, and a closed candle gives way to a later one only.
* `KlineBuffer.bufferKline` — the gateway moves the cursor of the interval by `advance`.
-/

namespace Market

open Trading

/-- What a candle means for the cursor. -/
inductive Disposition where
  | accept | duplicate | stale | conflict | lateClose
  deriving DecidableEq, Repr

/-- The candle closed the one before the cursor, which is still open. -/
def isLateClose (previous current : Kline) : Prop :=
  current.closed = true ∧ previous.closed = false ∧ current.closeTime = previous.openTime

/-- With the event time of the cursor: the open candle that follows a closed one at once. -/
def isExactNextOpen (previous current : Kline) (eventTime : Timestamp) : Prop :=
  previous.symbol = current.symbol ∧ previous.interval = current.interval ∧
    previous.closed = true ∧ current.closed = false ∧
    current.openTime = previous.openTime + current.interval.duration ∧
    current.openTime ≤ eventTime

/-- With the event time of the cursor: the close of the same candle. -/
def isCloseOf (previous current : Kline) : Prop :=
  current.openTime = previous.openTime ∧ previous.closed = false ∧ current.closed = true

/-- The close has the same open and a range and volume that did not shrink. -/
def extendsCandle (previous current : Kline) : Prop :=
  current.openPrice = previous.openPrice ∧ previous.high ≤ current.high ∧
    current.low ≤ previous.low ∧ previous.volume ≤ current.volume

instance (previous current : Kline) : Decidable (isLateClose previous current) := by
  unfold isLateClose; infer_instance

instance (previous current : Kline) (eventTime : Timestamp) :
    Decidable (isExactNextOpen previous current eventTime) := by
  unfold isExactNextOpen; infer_instance

instance (previous current : Kline) : Decidable (isCloseOf previous current) := by
  unfold isCloseOf; infer_instance

instance (previous current : Kline) : Decidable (extendsCandle previous current) := by
  unfold extendsCandle; infer_instance

/-- The rules once both event times are known. -/
def classifyTimed (previous current : Kline) (before now : Timestamp) : Disposition :=
  if current.openTime < previous.openTime then
    if isLateClose previous current then .lateClose else .stale
  else if current.openTime = previous.openTime ∧ previous.closed ∧ current.closed = false then
    .stale
  else if now < before then .stale
  else if now = before then
    if isExactNextOpen previous current now then .accept
    else if isCloseOf previous current ∧ extendsCandle previous current then .accept
    else .conflict
  else if current.openTime = previous.openTime ∧ previous.closed then .conflict
  else .accept

/-- `classify_kline`. -/
def classifyKline (previous current : Kline) : Except TradingError Disposition :=
  if previous = current then .ok .duplicate
  else if previous.closed ∧ current.closed ∧
      previous.withEventTime current.eventTime = current then .ok .duplicate
  else match previous.eventTime, current.eventTime with
    | some before, some now => .ok (classifyTimed previous current before now)
    | _, _ => .error (.valueError "stream cursors require event times")

@[simp] theorem classifyKline_self (kline : Kline) : classifyKline kline kline = .ok .duplicate :=
  if_pos rfl

/-! ## The rank of a candle -/

/-- The candle, then open before closed, then the event time. -/
def rank (kline : Kline) : ℤ ×ₗ Bool ×ₗ WithBot ℤ :=
  toLex (kline.openTime, toLex (kline.closed, kline.eventTime))

variable {previous current : Kline}

/-- A later candle ranks higher. -/
theorem rank_le_of_openTime_lt (h : previous.openTime < current.openTime) :
    rank previous ≤ rank current :=
  Prod.Lex.toLex_le_toLex.mpr (.inl h)

/-- Of one candle, the close ranks higher than an update. -/
theorem rank_le_of_close (htime : previous.openTime = current.openTime)
    (hopen : previous.closed = false) (hclosed : current.closed = true) :
    rank previous ≤ rank current := by
  refine Prod.Lex.toLex_le_toLex.mpr (.inr ⟨htime, Prod.Lex.toLex_le_toLex.mpr (.inl ?_)⟩)
  simp only [hopen, hclosed, Bool.false_lt_true]

/-- Of two updates of one candle, the one with the later event time ranks higher. -/
theorem rank_le_of_update (htime : previous.openTime = current.openTime)
    (hclosed : previous.closed = current.closed) {before now : Timestamp}
    (hbefore : previous.eventTime = some before) (hnow : current.eventTime = some now)
    (hle : before ≤ now) : rank previous ≤ rank current := by
  refine Prod.Lex.toLex_le_toLex.mpr (.inr ⟨htime, ?_⟩)
  refine Prod.Lex.toLex_le_toLex.mpr (.inr ⟨hclosed, ?_⟩)
  simp only [hbefore, hnow]
  exact WithBot.coe_le_coe.mpr hle

/-- What an accepted candle is: a later one, the close of the cursor, or a newer update of
the cursor while that is open. -/
theorem classifyTimed_eq_accept {before now : Timestamp}
    (h : classifyTimed previous current before now = .accept) :
    previous.openTime < current.openTime ∨
      (previous.openTime = current.openTime ∧ previous.closed = false ∧
        (current.closed = true ∨ before ≤ now)) := by
  unfold classifyTimed at h
  split at h
  · split at h <;> cases h
  · rename_i hlate
    rcases (not_lt.mp hlate).lt_or_eq with hlt | heq
    · exact .inl hlt
    · refine .inr ⟨heq, ?_⟩
      split at h
      · cases h
      · split at h
        · cases h
        · rename_i hnow
          split at h
          · split at h
            · -- the next open candle is not the same candle
              rename_i hnext
              have hopenTime := hnext.2.2.2.2.1
              have hduration := current.interval.duration_pos
              linarith
            · split at h
              · rename_i hclose
                exact ⟨hclose.1.2.1, .inl hclose.1.2.2⟩
              · cases h
          · split at h
            · cases h
            · rename_i hsame
              have hopen : previous.closed = false := by
                cases hclosed : previous.closed
                · rfl
                · exact absurd ⟨heq.symm, hclosed⟩ hsame
              exact ⟨hopen, .inr (not_lt.mp hnow)⟩

/-- What an accepted candle does to the cursor. -/
theorem classifyKline_eq_accept (h : classifyKline previous current = .ok .accept) :
    rank previous ≤ rank current ∧
      (previous.closed = true → previous.openTime < current.openTime) := by
  unfold classifyKline at h
  split at h
  · cases h
  · split at h
    · cases h
    · split at h
      · rename_i before now hbefore hnow
        rcases classifyTimed_eq_accept (Except.ok.inj h) with hlt | ⟨heq, hopen, hkind⟩
        · exact ⟨rank_le_of_openTime_lt hlt, fun _ => hlt⟩
        · refine ⟨?_, fun hclosed => by rw [hopen] at hclosed; cases hclosed⟩
          cases hclosed : current.closed with
          | true => exact rank_le_of_close heq hopen hclosed
          | false =>
              have hle := hkind.resolve_left (by rw [hclosed]; decide)
              exact rank_le_of_update heq (hopen.trans hclosed.symm) hbefore hnow hle
      · cases h

/-! ## The cursor -/

/-- The cursor after one candle: an accepted candle takes its place, and every other
candle, the late close among them, leaves it. -/
def advance (cursor kline : Kline) : Kline :=
  match classifyKline cursor kline with
  | .ok .accept => kline
  | _ => cursor

/-- The cursor after a stream of candles. -/
def evolve (cursor : Kline) (klines : List Kline) : Kline := klines.foldl advance cursor

theorem advance_cases (cursor kline : Kline) :
    (classifyKline cursor kline = .ok .accept ∧ advance cursor kline = kline) ∨
      advance cursor kline = cursor := by
  unfold advance
  split
  · rename_i h
    exact .inl ⟨h, rfl⟩
  · exact .inr rfl

/-- A candle without an event time is never accepted. -/
theorem advance_of_eventTime_eq_none {cursor kline : Kline} (h : kline.eventTime = none) :
    advance cursor kline = cursor := by
  rcases advance_cases cursor kline with ⟨haccept, -⟩ | heq
  · unfold classifyKline at haccept
    rw [h] at haccept
    repeat' split at haccept
    all_goals first | cases haccept | contradiction
  · exact heq

/-- The candle took the cursor's place without rolling it back. -/
structure Follows (earlier later : Kline) : Prop where
  rank_le : rank earlier ≤ rank later
  later_of_closed : earlier.closed = true → later = earlier ∨ earlier.openTime < later.openTime

theorem Follows.refl (kline : Kline) : Follows kline kline := ⟨le_rfl, fun _ => .inl rfl⟩

/-- A higher rank is no earlier candle. -/
theorem openTime_le_of_rank_le {earlier later : Kline} (h : rank earlier ≤ rank later) :
    earlier.openTime ≤ later.openTime := by
  rcases Prod.Lex.toLex_le_toLex.mp h with hlt | ⟨heq, -⟩
  · exact le_of_lt hlt
  · exact le_of_eq heq

theorem Follows.trans {a b c : Kline} (hab : Follows a b) (hbc : Follows b c) : Follows a c := by
  refine ⟨hab.rank_le.trans hbc.rank_le, fun hclosed => ?_⟩
  rcases hab.later_of_closed hclosed with rfl | hlt
  · exact hbc.later_of_closed hclosed
  · exact .inr (hlt.trans_le (openTime_le_of_rank_le hbc.rank_le))

theorem follows_advance (cursor kline : Kline) : Follows cursor (advance cursor kline) := by
  rcases advance_cases cursor kline with ⟨haccept, heq⟩ | heq
  · rw [heq]
    have haccepted := classifyKline_eq_accept haccept
    exact ⟨haccepted.1, fun hclosed => .inr (haccepted.2 hclosed)⟩
  · rw [heq]
    exact .refl cursor

theorem follows_evolve (cursor : Kline) (klines : List Kline) :
    Follows cursor (evolve cursor klines) := by
  induction klines generalizing cursor with
  | nil => exact .refl cursor
  | cons kline klines ih => exact (follows_advance cursor kline).trans (ih (advance cursor kline))

/-- From every start and over every stream, between any two moments of it, the cursor's rank
does not go down, a closed candle gives way to a later one only, and the cursor delivered
again is a duplicate. -/
theorem cursor_never_rolls_back (start : Kline) (before after : List Kline) :
    rank (evolve start before) ≤ rank (evolve start (before ++ after)) ∧
      ((evolve start before).closed = true →
        evolve start (before ++ after) = evolve start before ∨
          (evolve start before).openTime < (evolve start (before ++ after)).openTime) ∧
      classifyKline (evolve start before) (evolve start before) = .ok .duplicate := by
  have hfollows : Follows (evolve start before) (evolve start (before ++ after)) := by
    unfold evolve
    rw [List.foldl_append]
    exact follows_evolve _ after
  exact ⟨hfollows.rank_le, hfollows.later_of_closed, classifyKline_self _⟩

/-! ## The gateway's cursors -/

/-- What identifies a message of the candle stream. -/
abbrev KlineEventKey := String × Interval × Timestamp × Timestamp

/-- The part of the gateway that a message of the candle stream reads and writes: a cursor
for each interval, the last messages in the order they came, and the buffered candles. -/
structure KlineBuffer where
  cursors : Interval → Option Kline := fun _ => none
  fingerprints : List (KlineEventKey × Kline) := []
  buffer : Interval → List (Timestamp × Kline) := fun _ => []

namespace KlineBuffer

/-- `_MAXIMUM_KLINE_EVENT_FINGERPRINTS`. -/
def maximumFingerprints : ℕ := 4096

/-- The message is the newest one; the oldest ones are forgotten. -/
def remember (key : KlineEventKey) (kline : Kline) (entries : List (KlineEventKey × Kline)) :
    List (KlineEventKey × Kline) :=
  let moved := entries.filter (fun entry => entry.1 ≠ key) ++ [(key, kline)]
  moved.drop (moved.length - maximumFingerprints)

/-- The candle is taken: it is remembered and buffered, and moves the cursor unless it is a
late close. -/
def take (key : KlineEventKey) (kline : Kline) (late : Bool) (buffer : KlineBuffer) :
    KlineBuffer where
  cursors := if late then buffer.cursors else Function.update buffer.cursors kline.interval kline
  fingerprints := remember key kline buffer.fingerprints
  buffer := Function.update buffer.buffer kline.interval
    (Dict.insert kline.openTime kline (buffer.buffer kline.interval))

/-- `_buffer_kline_message` after the payload was parsed and with no live observer. -/
def bufferKline (kline : Kline) : EStateM TradingError KlineBuffer PUnit := do
  let some eventTime := kline.eventTime
    | throw (.valueError "WebSocket Kline event time is required")
  let key := (kline.symbol, kline.interval, kline.openTime, eventTime)
  let buffer ← get
  match buffer.cursors kline.interval with
  | none => modify (take key kline false)
  | some previous =>
      let disposition ← Stateful.raising (classifyKline previous kline)
      match disposition with
      | .accept => modify (take key kline false)
      | .lateClose =>
          match buffer.fingerprints.lookup key with
          | none => modify (take key kline true)
          | some prior =>
              if prior = kline then pure ⟨⟩
              else if prior.closed then
                throw (.valueError "conflicting closed Kline requires resync")
              else modify (take key kline true)
      | .conflict => throw (.valueError "conflicting Kline update requires resync")
      | .duplicate | .stale => pure ⟨⟩

/-- A late close is buffered and moves no cursor. -/
theorem modify_take_late_cursors (key : KlineEventKey) (kline : Kline) (buffer : KlineBuffer) :
    (Stateful.finalState ((modify (take key kline true) : EStateM TradingError KlineBuffer PUnit)
      buffer)).cursors = buffer.cursors := by
  simp only [Stateful.modify_run, Stateful.finalState_ok, take, if_true]

/-- The gateway moves the cursor of the candle's interval by `advance` and no other, also
when the message is refused. -/
theorem bufferKline_cursors (kline : Kline) (buffer : KlineBuffer) {previous : Kline}
    (hprevious : buffer.cursors kline.interval = some previous) :
    (Stateful.finalState (bufferKline kline buffer)).cursors =
      Function.update buffer.cursors kline.interval (some (advance previous kline)) := by
  have hsame : Function.update buffer.cursors kline.interval (some previous) = buffer.cursors := by
    rw [← hprevious]
    exact Function.update_eq_self _ _
  unfold bufferKline
  cases htime : kline.eventTime with
  | none =>
      rw [advance_of_eventTime_eq_none htime]
      exact hsame.symm
  | some eventTime =>
      simp only [Stateful.bind_run, Stateful.get_run, hprevious]
      unfold advance
      cases hclass : classifyKline previous kline with
      | error error => exact hsame.symm
      | ok disposition =>
          simp only [Stateful.raising_ok]
          cases disposition with
          | accept => rfl
          | duplicate => exact hsame.symm
          | stale => exact hsame.symm
          | conflict => exact hsame.symm
          | lateClose =>
              simp only [hsame]
              cases List.lookup (kline.symbol, kline.interval, kline.openTime, eventTime)
                buffer.fingerprints with
              | none => exact modify_take_late_cursors _ kline buffer
              | some prior =>
                  dsimp only
                  by_cases hprior : prior = kline
                  · rw [if_pos hprior]
                    rfl
                  · rw [if_neg hprior]
                    by_cases hclosed : prior.closed = true
                    · rw [if_pos hclosed]
                      rfl
                    · rw [if_neg hclosed]
                      exact modify_take_late_cursors _ kline buffer

end KlineBuffer

end Market
