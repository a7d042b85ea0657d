import AutoTrader.Trading.History.UtcText
import AutoTrader.Trading.Orders.Order

/-!
# Fields of durable records

What the trade history and the pending-order journal share: the wire values of the enums,
the checks on identifiers, and how a field of a JSON object is written and read.

* `memberOf` — `Enum(value)`, and the wire values of the enums of a record.
* `isCanonicalText`, `isPositiveIntegerText` — the checks on identifiers.
* `Members`, `requireKeys`, `getField` — the exact keys of an object and its fields.
* `decimalJson`, `parsePlainDecimal` — decimals as plain text.
-/

namespace Trading

open Arithmetic

/-! ## Enums -/

/-- `Enum(value)`: the member with a wire value. -/
def memberOf {α : Type} (members : List α) (wire : α → String) (text : String) :
    Except TradingError α :=
  match members.find? fun member => wire member == text with
  | some member => .ok member
  | none => .error (.valueError "enum value is not canonical")

def OrderSide.wire : OrderSide → String
  | .buy => "BUY"
  | .sell => "SELL"

def OrderSide.ofWire : String → Except TradingError OrderSide :=
  memberOf [.buy, .sell] OrderSide.wire

def StrategyType.wire : StrategyType → String
  | .caseB => "CASE_B"
  | .caseC => "CASE_C"

def StrategyType.ofWire : String → Except TradingError StrategyType :=
  memberOf [.caseB, .caseC] StrategyType.wire

def RegimeType.wire : RegimeType → String
  | .type0 => "TYPE_0"
  | .type1 => "TYPE_1"
  | .type2 => "TYPE_2"
  | .type3 => "TYPE_3"
  | .type4 => "TYPE_4"

def RegimeType.ofWire : String → Except TradingError RegimeType :=
  memberOf [.type0, .type1, .type2, .type3, .type4] RegimeType.wire

def ExitReason.wire : ExitReason → String
  | .emergencyStop => "EMERGENCY_STOP"
  | .stop => "STOP"
  | .forceSell => "FORCE_SELL"
  | .time => "TIME"
  | .takeProfit => "TAKE_PROFIT"
  | .trendHold => "TREND_HOLD"
  | .tpTrail => "TP_TRAIL"
  | .tpFallback => "TP_FALLBACK"
  | .externalManual => "EXTERNAL_MANUAL"

def ExitReason.ofWire : String → Except TradingError ExitReason :=
  memberOf [.emergencyStop, .stop, .forceSell, .time, .takeProfit, .trendHold, .tpTrail,
    .tpFallback, .externalManual] ExitReason.wire

@[simp] theorem OrderSide.ofWire_wire (side : OrderSide) : OrderSide.ofWire side.wire = .ok side := by
  cases side <;> rfl

@[simp] theorem StrategyType.ofWire_wire (strategy : StrategyType) :
    StrategyType.ofWire strategy.wire = .ok strategy := by
  cases strategy <;> rfl

@[simp] theorem RegimeType.ofWire_wire (regime : RegimeType) :
    RegimeType.ofWire regime.wire = .ok regime := by
  cases regime <;> rfl

@[simp] theorem ExitReason.ofWire_wire (reason : ExitReason) :
    ExitReason.ofWire reason.wire = .ok reason := by
  cases reason <;> rfl

/-! ## Identifiers -/

/-- `str.isspace` of one character. -/
def isSpace (c : Char) : Bool :=
  let code := c.toNat
  (9 ≤ code && code ≤ 13) || (28 ≤ code && code ≤ 32) || code == 0x85 || code == 0xa0 ||
    code == 0x1680 || (0x2000 ≤ code && code ≤ 0x200a) || code == 0x2028 || code == 0x2029 ||
    code == 0x202f || code == 0x205f || code == 0x3000

/-- A text that is not empty and has no outer white space. -/
def isCanonicalText (text : String) : Bool :=
  text.toList.head?.any (!isSpace ·) && text.toList.getLast?.any (!isSpace ·)

/-- `[1-9][0-9]*`. -/
def isPositiveIntegerText (text : String) : Bool :=
  text.toList.head?.any (· != '0') && text.toList.all Char.isDigit

theorem isPositiveIntegerText.isCanonicalText {text : String}
    (h : isPositiveIntegerText text = true) : isCanonicalText text = true := by
  have hspace : ∀ c : Char, c.isDigit = true → isSpace c = false := by
    intro c hc
    simp only [Char.isDigit, Bool.and_eq_true, decide_eq_true_eq, UInt32.le_iff_toNat_le] at hc
    have hlow : 48 ≤ c.toNat := hc.1
    have hhigh : c.toNat ≤ 57 := hc.2
    simp only [isSpace, Bool.or_eq_false_iff, Bool.and_eq_false_iff, decide_eq_false_iff_not,
      beq_eq_false_iff_ne]
    omega
  simp only [isPositiveIntegerText, Bool.and_eq_true, List.all_eq_true] at h
  obtain ⟨hhead, hall⟩ := h
  cases hlist : text.toList with
  | nil => simp [hlist] at hhead
  | cons c chars =>
      rw [hlist] at hall
      have hlast := List.getLast?_eq_some_getLast (List.cons_ne_nil c chars)
      simp only [Trading.isCanonicalText, hlist, hlast, List.head?_cons, Option.any_some,
        hspace c (hall c List.mem_cons_self), hspace _ (hall _ (List.getLast_mem _)),
        Bool.not_false, Bool.and_true]

/-! ## JSON objects -/

/-- The members of an object, in the order they were written. -/
abbrev Members := List (String × JsonValue)

/-- The keys of a record are exactly the expected ones. -/
def requireKeys (members : Members) (expected : List String) (message : String) :
    Except TradingError Unit :=
  Except.require ((∀ key ∈ members.map Prod.fst, key ∈ expected) ∧
    ∀ key ∈ expected, key ∈ members.map Prod.fst) (.valueError message)

/-- `record[key]`. -/
def getField (members : Members) (key : String) : Except TradingError JsonValue :=
  match members.lookup key with
  | some value => .ok value
  | none => .error .keyError

theorem requireKeys_of_keys {members : Members} {expected : List String}
    (h : members.map Prod.fst = expected) (message : String) :
    requireKeys members expected message = .ok () := by
  rw [requireKeys, Except.require_eq_ok_iff, h]
  exact ⟨fun _ hkey => hkey, fun _ hkey => hkey⟩

@[simp] theorem getField_cons_self (key : String) (value : JsonValue) (members : Members) :
    getField ((key, value) :: members) key = .ok value := by
  simp [getField]

theorem getField_cons_ne {key other : String} (h : key ≠ other) (value : JsonValue)
    (members : Members) : getField ((other, value) :: members) key = getField members key := by
  rw [getField, List.lookup_cons, beq_false_of_ne h]
  rfl

/-- A value that must be a string. -/
def expectString (value : JsonValue) (message : String) : Except TradingError String :=
  match value with
  | .string text => .ok text
  | _ => .error (.typeError message)

@[simp] theorem expectString_string (text message : String) :
    expectString (.string text) message = .ok text := rfl

/-- A value that must be an integer. -/
def expectInt (value : JsonValue) (message : String) : Except TradingError Int :=
  match value with
  | .int n => .ok n
  | _ => .error (.typeError message)

@[simp] theorem expectInt_int (n : Int) (message : String) : expectInt (.int n) message = .ok n :=
  rfl

/-- `null`, or a value. -/
def optionalJson {α : Type} (json : α → JsonValue) : Option α → JsonValue
  | none => .null
  | some value => json value

/-- Reads `null`, or a value. -/
def readOptional {α : Type} (read : JsonValue → Except TradingError α) (value : JsonValue) :
    Except TradingError (Option α) :=
  match value with
  | .null => .ok none
  | value => (read value).map some

theorem readOptional_int (n : Option Int) (message : String) :
    readOptional (expectInt · message) (optionalJson JsonValue.int n) = .ok n := by
  cases n <;> rfl

/-- A text field that is written as it is. -/
def textJson (text : String) : JsonValue := .string text

/-- A text field whose text must be canonical. -/
def parseText (value : JsonValue) : Except TradingError String := do
  let text ← expectString value "field must be a string"
  Except.require (isCanonicalText text = true)
    (.valueError "field must be non-empty without outer whitespace")
  .ok text

theorem parseText_textJson {text : String} (h : isCanonicalText text = true) :
    parseText (textJson text) = .ok text := by
  simp [parseText, textJson, expectString, Except.require, h]

/-- A decimal field. -/
def decimalJson (d : PlainDecimal) : JsonValue := .string (String.ofList d.fixedText)

/-- `_parse_plain_decimal`. -/
def parsePlainDecimal (value : JsonValue) : Except TradingError PlainDecimal :=
  match value with
  | .string text =>
      match parsePlain text.toList with
      | some d => .ok d
      | none => .error (.valueError "field must be a plain decimal string")
  | _ => .error (.valueError "field must be a plain decimal string")

@[simp] theorem parsePlainDecimal_decimalJson (d : PlainDecimal) :
    parsePlainDecimal (decimalJson d) = .ok d.plain := by
  simp [parsePlainDecimal, decimalJson, PlainDecimal.parsePlain_fixedText]

/-- Whether a value is a string is decided by its text being read. -/
theorem readOptional_decimalJson (d : Option PlainDecimal) :
    readOptional parsePlainDecimal (optionalJson decimalJson d) =
      .ok (d.map PlainDecimal.plain) := by
  cases d with
  | none => rfl
  | some d =>
      have h := parsePlainDecimal_decimalJson d
      simp only [optionalJson, decimalJson, readOptional] at h ⊢
      rw [h]
      rfl

theorem readOptional_exitReason (reason : Option ExitReason) :
    readOptional (fun value => do
        ExitReason.ofWire (← expectString value "exit_reason must be a string or null"))
      (optionalJson (fun reason : ExitReason => textJson reason.wire) reason) = .ok reason := by
  cases reason with
  | none => rfl
  | some reason => cases reason <;> rfl

end Trading
