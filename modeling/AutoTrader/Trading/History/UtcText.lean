import AutoTrader.Trading.Context
import AutoTrader.Arithmetic.PlainDecimal

/-!
# UTC times and their text

A UTC `datetime` by its fields, the text `strftime("%Y-%m-%dT%H:%M:%S.%fZ")` gives it, and
the timestamps the history reads.

* `UtcDatetime` — the fields of a calendar time, and `UtcDatetime.timestamp`.
* `UtcDatetime.text` — every field but the year is padded; `%Y` is where the runtime pads it.
* `parseUtcTimestamp` — four digits of the year, and a fraction of one to six digits or,
  for the times of fills, of exactly six.
* `parseUtcTimestamp_text` — a time is read back exactly when its year is written with four
  digits.
-/

namespace Trading

open Arithmetic

/-! ## Calendar times -/

def isLeapYear (year : ℕ) : Bool :=
  year % 4 == 0 && (year % 100 != 0 || year % 400 == 0)

def daysInMonth (year month : ℕ) : ℕ :=
  if month = 2 then if isLeapYear year then 29 else 28
  else if month = 4 ∨ month = 6 ∨ month = 9 ∨ month = 11 then 30
  else 31

/-- The fields of a time. -/
structure DatetimeFields where
  year : ℕ
  month : ℕ
  day : ℕ
  hour : ℕ
  minute : ℕ
  second : ℕ
  microsecond : ℕ
  deriving DecidableEq, Repr

/-- The ranges of the fields. -/
def DatetimeFields.Valid (time : DatetimeFields) : Prop :=
  1 ≤ time.year ∧ time.year ≤ 9999 ∧ 1 ≤ time.month ∧ time.month ≤ 12 ∧ 1 ≤ time.day ∧
    time.day ≤ daysInMonth time.year time.month ∧ time.hour < 24 ∧ time.minute < 60 ∧
    time.second < 60 ∧ time.microsecond < 1000000

instance (time : DatetimeFields) : Decidable time.Valid := by
  unfold DatetimeFields.Valid
  infer_instance

/-- A time that exists. -/
structure UtcDatetime extends DatetimeFields where
  valid : toDatetimeFields.Valid
  deriving DecidableEq

/-- `toordinal`: days from the first of January of the year 1. -/
def DatetimeFields.ordinal (time : DatetimeFields) : ℕ :=
  let before := time.year - 1
  before * 365 + before / 4 - before / 100 + before / 400 +
    ((List.range (time.month - 1)).map fun month => daysInMonth time.year (month + 1)).sum + time.day

/-- The microseconds since 1970. -/
def UtcDatetime.timestamp (time : UtcDatetime) : Timestamp :=
  ((((time.ordinal : Int) - 719163) * 24 + time.hour) * 60 + time.minute) * 60000000 +
    time.second * 1000000 + time.microsecond

/-! ## Text -/

/-- A number with leading zeros. -/
def padded (width n : ℕ) : List Char :=
  List.replicate (width - (Nat.toDigits 10 n).length) '0' ++ Nat.toDigits 10 n

/-- `%Y`, which the C library of older runtimes does not pad. -/
def yearText (padsYear : Bool) (year : ℕ) : List Char :=
  if padsYear then padded 4 year else Nat.toDigits 10 year

/-- `strftime("%Y-%m-%dT%H:%M:%S.%fZ")`. -/
def UtcDatetime.text (padsYear : Bool) (time : UtcDatetime) : List Char :=
  yearText padsYear time.year ++ '-' :: (padded 2 time.month ++ '-' :: (padded 2 time.day ++
    'T' :: (padded 2 time.hour ++ ':' :: (padded 2 time.minute ++ ':' :: (padded 2 time.second ++
      '.' :: (padded 6 time.microsecond ++ ['Z']))))))

/-! ## Reading -/

/-- Exactly `count` digits at the front. -/
def readDigits (count : ℕ) (chars : List Char) : Option (ℕ × List Char) :=
  if (chars.take count).length = count ∧ (chars.take count).all Char.isDigit then
    some (Nat.ofDigitChars 10 (chars.take count) 0, chars.drop count)
  else none

/-- One given character at the front. -/
def readChar (c : Char) : List Char → Option (List Char)
  | d :: chars => if d = c then some chars else none
  | [] => none

/-- The fraction of a second and the final `Z`, as microseconds. -/
def readFraction (sixDigits : Bool) (chars : List Char) : Option ℕ :=
  match chars with
  | ['Z'] => if sixDigits then none else some 0
  | '.' :: rest =>
      let digits := rest.takeWhile Char.isDigit
      if rest.dropWhile Char.isDigit = ['Z'] ∧ 1 ≤ digits.length ∧ digits.length ≤ 6 ∧
          (sixDigits = true → digits.length = 6) then
        some (Nat.ofDigitChars 10 digits 0 * 10 ^ (6 - digits.length))
      else none
  | _ => none

/-- The fields of a timestamp text. -/
def readFields (sixDigits : Bool) (chars : List Char) : Option DatetimeFields := do
  let (year, chars) ← readDigits 4 chars
  let chars ← readChar '-' chars
  let (month, chars) ← readDigits 2 chars
  let chars ← readChar '-' chars
  let (day, chars) ← readDigits 2 chars
  let chars ← readChar 'T' chars
  let (hour, chars) ← readDigits 2 chars
  let chars ← readChar ':' chars
  let (minute, chars) ← readDigits 2 chars
  let chars ← readChar ':' chars
  let (second, chars) ← readDigits 2 chars
  let microsecond ← readFraction sixDigits chars
  some { year, month, day, hour, minute, second, microsecond }

/-- `_parse_utc_timestamp`, and the stricter form for the times of fills. -/
def parseUtcTimestamp (sixDigits : Bool) (chars : List Char) : Option UtcDatetime :=
  match readFields sixDigits chars with
  | some fields => if h : fields.Valid then some ⟨fields, h⟩ else none
  | none => none

/-! ## The round trip -/

theorem isDigit_padded (width n : ℕ) : ∀ c ∈ padded width n, c.isDigit = true := by
  intro c hc
  rcases List.mem_append.mp hc with hc | hc
  · rw [List.eq_of_mem_replicate hc]
    decide
  · exact PlainDecimal.isDigit_toDigits n c hc

theorem length_toDigits_le {width n : ℕ} (hwidth : 0 < width) (hn : n < 10 ^ width) :
    (Nat.toDigits 10 n).length ≤ width :=
  (Nat.length_toDigits_le_iff (by omega) hwidth).mpr hn

theorem length_padded {width n : ℕ} (hwidth : 0 < width) (hn : n < 10 ^ width) :
    (padded width n).length = width := by
  have hle := length_toDigits_le hwidth hn
  rw [padded, List.length_append, List.length_replicate]
  omega

theorem ofDigitChars_padded (width n : ℕ) : Nat.ofDigitChars 10 (padded width n) 0 = n := by
  rw [padded, Nat.ofDigitChars_append, Nat.ofDigitChars_replicate_zero, Nat.mul_zero,
    Nat.ofDigitChars_ten_toDigits]

/-- A padded number is read back. -/
theorem readDigits_padded {width n : ℕ} (hwidth : 0 < width) (hn : n < 10 ^ width)
    (rest : List Char) : readDigits width (padded width n ++ rest) = some (n, rest) := by
  have hlength := length_padded hwidth hn
  have htake : (padded width n ++ rest).take width = padded width n := by
    rw [List.take_append_of_le_length hlength.ge, List.take_of_length_le hlength.le]
  have hdrop : (padded width n ++ rest).drop width = rest := by
    rw [List.drop_append_of_le_length hlength.ge, List.drop_of_length_le hlength.le,
      List.nil_append]
  have hall : (padded width n).all Char.isDigit = true :=
    List.all_eq_true.mpr (isDigit_padded width n)
  rw [readDigits, htake, hdrop, ofDigitChars_padded, if_pos ⟨hlength, hall⟩]

@[simp] theorem readChar_cons (c : Char) (chars : List Char) :
    readChar c (c :: chars) = some chars := if_pos rfl

/-- The microseconds are read back. -/
theorem readFraction_padded (sixDigits : Bool) {n : ℕ} (hn : n < 1000000) :
    readFraction sixDigits ('.' :: (padded 6 n ++ ['Z'])) = some n := by
  have hsplit := Json.takeWhile_isDigit_append (isDigit_padded 6 n)
    (show Json.EndsNumeral ['Z'] from Json.endsNumeral_cons (by decide))
  have hlength : (padded 6 n).length = 6 := length_padded (by omega) (by omega)
  simp only [readFraction, hsplit.1, hsplit.2, hlength]
  rw [if_pos ⟨trivial, by omega, by omega, fun _ => trivial⟩, ofDigitChars_padded]
  simp

/-- A year of four digits needs no padding. -/
theorem toDigits_eq_padded {year : ℕ} (hlow : 1000 ≤ year) : Nat.toDigits 10 year = padded 4 year := by
  have hlength : ¬(Nat.toDigits 10 year).length ≤ 3 := by
    rw [Nat.length_toDigits_le_iff (by omega) (by omega)]
    omega
  have hzero : 4 - (Nat.toDigits 10 year).length = 0 := by omega
  rw [padded, hzero, List.replicate_zero, List.nil_append]

/-- The year is written with four digits. -/
theorem yearText_eq_padded {padsYear : Bool} {year : ℕ} (h : padsYear = true ∨ 1000 ≤ year) :
    yearText padsYear year = padded 4 year := by
  unfold yearText
  split
  · rfl
  · rename_i hpads
    exact toDigits_eq_padded (h.resolve_left hpads)

/-- A shorter year is followed too early by its dash. -/
theorem readDigits_short_year {year : ℕ} (hyear : year < 1000) (rest : List Char) :
    readDigits 4 (Nat.toDigits 10 year ++ '-' :: rest) = none := by
  have hlength : (Nat.toDigits 10 year).length ≤ 3 :=
    length_toDigits_le (by omega) (by omega)
  rw [readDigits, if_neg]
  rintro ⟨-, hall⟩
  have hdash : '-' ∈ (Nat.toDigits 10 year ++ '-' :: rest).take 4 := by
    rw [List.take_append]
    refine List.mem_append_right _ ?_
    obtain ⟨k, hk⟩ := Nat.exists_eq_succ_of_ne_zero
      (show 4 - (Nat.toDigits 10 year).length ≠ 0 by omega)
    rw [hk, List.take_succ_cons]
    exact List.mem_cons_self
  exact absurd (List.all_eq_true.mp hall '-' hdash) (by decide)

/-- A time is read back exactly when its year is written with four digits. -/
theorem parseUtcTimestamp_text (padsYear sixDigits : Bool) (time : UtcDatetime) :
    parseUtcTimestamp sixDigits (time.text padsYear) =
      if padsYear = true ∨ 1000 ≤ time.year then some time else none := by
  obtain ⟨fields, hvalid⟩ := time
  obtain ⟨year, month, day, hour, minute, second, microsecond⟩ := fields
  obtain ⟨-, hyear, -, hmonth, -, hday, hhour, hminute, hsecond, hmicrosecond⟩ := id hvalid
  simp only at hyear hmonth hday hhour hminute hsecond hmicrosecond ⊢
  have hdays : daysInMonth year month ≤ 31 := by
    unfold daysInMonth
    split_ifs <;> omega
  by_cases hlow : padsYear = true ∨ 1000 ≤ year
  · have hfields : readFields sixDigits (UtcDatetime.text padsYear ⟨⟨year, month, day, hour,
        minute, second, microsecond⟩, hvalid⟩) =
        some ⟨year, month, day, hour, minute, second, microsecond⟩ := by
      simp only [UtcDatetime.text, yearText_eq_padded hlow, readFields, Option.bind_eq_bind,
        readDigits_padded (show 0 < 4 by omega) (show year < 10 ^ 4 by omega), Option.bind_some,
        readChar_cons, readDigits_padded (show 0 < 2 by omega) (show month < 10 ^ 2 by omega),
        readDigits_padded (show 0 < 2 by omega) (show day < 10 ^ 2 by omega),
        readDigits_padded (show 0 < 2 by omega) (show hour < 10 ^ 2 by omega),
        readDigits_padded (show 0 < 2 by omega) (show minute < 10 ^ 2 by omega),
        readDigits_padded (show 0 < 2 by omega) (show second < 10 ^ 2 by omega),
        readFraction_padded sixDigits hmicrosecond]
    rw [parseUtcTimestamp, hfields, if_pos hlow]
    exact dif_pos hvalid
  · obtain ⟨hpads, hshort⟩ := not_or.mp hlow
    have hfields : readFields sixDigits (UtcDatetime.text padsYear ⟨⟨year, month, day, hour,
        minute, second, microsecond⟩, hvalid⟩) = none := by
      simp only [UtcDatetime.text, yearText, if_neg hpads, readFields, Option.bind_eq_bind,
        readDigits_short_year (show year < 1000 by omega), Option.bind_none]
    rw [parseUtcTimestamp, hfields, if_neg hlow]

end Trading
