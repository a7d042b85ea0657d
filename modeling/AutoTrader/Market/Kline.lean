import AutoTrader.Trading.Context

/-!
# Candles

`Kline` of `domain/market/kline.py`: one candle of a symbol and an interval.

* `Interval` — the intervals that are followed, `Interval.duration` their length.
* `Kline` — a candle; its prices are positive, its volume is not negative, and the range
  from `low` to `high` holds both its open and its close.
-/

namespace Market

open Trading

/-- `Interval`. -/
inductive Interval where
  | oneMinute | thirtyMinutes | fourHours | oneDay
  deriving DecidableEq, Repr

/-- The value of the enumeration member. -/
def Interval.value : Interval → String
  | .oneMinute => "1m"
  | .thirtyMinutes => "30m"
  | .fourHours => "4h"
  | .oneDay => "1d"

/-- `_DURATIONS`, in microseconds. -/
def Interval.duration : Interval → Duration
  | .oneMinute => 60000000
  | .thirtyMinutes => 30 * 60000000
  | .fourHours => 240 * 60000000
  | .oneDay => 1440 * 60000000

theorem Interval.duration_pos (interval : Interval) : 0 < interval.duration := by
  cases interval <;> decide

/-- `_NORMALIZED_SYMBOL_PATTERN`: one or more ASCII upper-case letters and digits. -/
def NormalizedSymbol (symbol : String) : Prop :=
  symbol ≠ "" ∧ ∀ c ∈ symbol.toList, ('A' ≤ c ∧ c ≤ 'Z') ∨ ('0' ≤ c ∧ c ≤ '9')

instance (symbol : String) : Decidable (NormalizedSymbol symbol) := by
  unfold NormalizedSymbol; infer_instance

/-- One candle.  A candle of the stream has an event time, a candle of the REST interface
has none. -/
structure Kline where
  symbol : String
  interval : Interval
  openTime : Timestamp
  openPrice : ℚ
  high : ℚ
  low : ℚ
  close : ℚ
  volume : ℚ
  closed : Bool
  eventTime : Option Timestamp := none
  symbol_normalized : NormalizedSymbol symbol := by simp [NormalizedSymbol]
  open_pos : 0 < openPrice := by decide
  high_pos : 0 < high := by decide
  low_pos : 0 < low := by decide
  close_pos : 0 < close := by decide
  volume_nonneg : 0 ≤ volume := by decide
  low_le : low ≤ min openPrice close := by decide
  le_high : max openPrice close ≤ high := by decide

instance : DecidableEq Kline := fun a b =>
  decidable_of_iff (a.symbol = b.symbol ∧ a.interval = b.interval ∧ a.openTime = b.openTime ∧
    a.openPrice = b.openPrice ∧ a.high = b.high ∧ a.low = b.low ∧ a.close = b.close ∧
    a.volume = b.volume ∧ a.closed = b.closed ∧ a.eventTime = b.eventTime) (by
    cases a
    cases b
    simp)

namespace Kline

/-- The end of the candle. -/
def closeTime (kline : Kline) : Timestamp := kline.openTime + kline.interval.duration

/-- `dataclasses.replace` of the event time, which is in no check. -/
def withEventTime (kline : Kline) (eventTime : Option Timestamp) : Kline :=
  { kline with eventTime }

end Kline

end Market
