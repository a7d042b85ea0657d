import AutoTrader.Support.KeptOnce
import AutoTrader.Trading.History.Wire
import AutoTrader.Trading.Orders.Result

/-!
# The fills of exchange responses

`map_fill_payloads` and `map_order_result` of `adapters/binance/mappers.py`.

* `FillRow`, `FillMapping.readRow` — what is read of one row of fills or trades.
* `FillMapping.mapPayload`, `FillMapping.collectFills` — its fill, and the fills by their keys.
* `mapFillPayloads` — the fills in the order of their times and trade IDs.
* `mapOrderResult` — the result, whose quantity is that of its fills.
* `mapFillPayloads_law` — the fills depend on the set of the rows only.

`decimalOf` is `Decimal(text)` where that is a finite number.
-/

namespace Trading

open Arithmetic KeptOnce

def FeeAsset.text : FeeAsset → String
  | .eth => "ETH"
  | .usdt => "USDT"
  | .bnb => "BNB"

/-- The assets a fill accepts. -/
def FeeAsset.ofText : String → Except TradingError FeeAsset :=
  memberOf [.eth, .usdt, .bnb] FeeAsset.text

theorem FeeAsset.text_of_ofText {text : String} {asset : FeeAsset} (h : ofText text = .ok asset) :
    asset.text = text := by
  rw [ofText, memberOf] at h
  split at h
  · rename_i member hfind
    have hsame : member.text = text := by simpa using List.find?_some hfind
    rw [← Except.ok.inj h]
    exact hsame
  · cases h

/-- The constructor of a fill. -/
def FillFields.create (ctx : DecimalContext) (fields : FillFields) :
    Except TradingError (Fill ctx) :=
  match h : fields.validate ctx with
  | .ok () => .ok ⟨fields, h⟩
  | .error error => .error error

theorem FillFields.create_eq_ok {ctx : DecimalContext} {fields : FillFields} {fill : Fill ctx}
    (h : fields.create ctx = .ok fill) : fill.toFillFields = fields := by
  unfold create at h
  split at h
  · rw [← Except.ok.inj h]
  · cases h

/-! ## Reading a row -/

/-- `str(value)` of a number, a text or a flag; that of a container is no order ID. -/
def strOf : JsonValue → Option String
  | .int n => some (String.ofList (Json.dumpsInt n))
  | .string text => some text
  | .bool true => some "True"
  | .bool false => some "False"
  | _ => none

/-- `_validate_canonical_text`. -/
def validateCanonicalText (value : Option JsonValue) (field : String) :
    Except TradingError String :=
  match value with
  | some (.string text) =>
      if isCanonicalText text = true then .ok text
      else .error (.valueError (field ++ " must be non-empty and trimmed"))
  | _ => .error (.valueError (field ++ " must be a string"))

/-- `_read_decimal_string`. -/
def readDecimalString (decimalOf : String → Option ℚ) (value : Option JsonValue)
    (field : String) : Except TradingError ℚ :=
  match value with
  | some (.string text) =>
      match decimalOf text with
      | some q => .ok q
      | none => .error (.valueError (field ++ " must be a valid decimal string"))
  | _ => .error (.valueError (field ++ " must be a decimal string"))

/-- The last millisecond of `datetime.max`. -/
def maxMilliseconds : Int := 253402300799999

/-- `milliseconds_to_utc`. -/
def millisecondsToUtc (value : JsonValue) (field : String) : Except TradingError Timestamp :=
  match value with
  | .int n =>
      if n < 0 then .error (.valueError (field ++ " must be a non-negative integer"))
      else if maxMilliseconds < n then .error (.runtimeError "OverflowError")
      else .ok (n * 1000)
  | _ => .error (.valueError (field ++ " must be a non-negative integer"))

/-- The trade ID of a row: that of a response is `tradeId`, that of a trade query `id`. -/
def readTradeId (members : Members) : Except TradingError ℕ :=
  match (members.lookup "tradeId").or (members.lookup "id") with
  | some (.int n) =>
      if 0 ≤ n then .ok n.toNat
      else .error (.valueError "fill trade id must be a non-negative integer")
  | _ => .error (.valueError "fill trade id must be a non-negative integer")

/-- What a row says of its trade. -/
structure FillRow where
  tradeId : ℕ
  price : ℚ
  quantity : ℚ
  feeAmount : ℚ
  feeAsset : String
  executedAt : Timestamp
  deriving DecidableEq

/-- The arguments of `map_fill_payloads` beside the rows. -/
structure FillMapping (ctx : DecimalContext) where
  symbol : String
  exchangeOrderId : String
  baseAsset : String
  quoteAsset : String
  fallbackExecutedAt : Timestamp
  historicalFills : List (Fill ctx) := []

namespace FillMapping

variable {ctx : DecimalContext} (decimalOf : String → Option ℚ) (call : FillMapping ctx)

/-- The checks before the rows. -/
def check : Except TradingError Unit := do
  Except.require (isCanonicalText call.symbol = true ∧
      isCanonicalText call.exchangeOrderId = true ∧ isCanonicalText call.baseAsset = true ∧
      isCanonicalText call.quoteAsset = true)
    (.valueError "field must be non-empty and trimmed")
  Except.require (∀ fill ∈ call.historicalFills, fill.exchangeOrderId = call.exchangeOrderId)
    (.valueError "historical fills must belong to the requested order")
  Except.require (call.historicalFills.map Fill.key).Nodup
    (.valueError "historical fills must not contain duplicate keys")

/-- A row without an order ID belongs to the order of the call. -/
def checkOrderId (members : Members) : Except TradingError Unit :=
  match members.lookup "orderId" with
  | none => .ok ()
  | some .null => .ok ()
  | some value => Except.require (strOf value = some call.exchangeOrderId)
      (.valueError "fill belongs to a different order")

/-- The execution time of a row: a response has none of its own. -/
def readExecutedAt (members : Members) : Except TradingError Timestamp :=
  match members.lookup "time" with
  | some value => millisecondsToUtc value "fill.time"
  | none => .ok call.fallbackExecutedAt

/-- What `map_fill_payloads` reads of a row. -/
def readRow (members : Members) : Except TradingError FillRow := do
  let tradeId ← readTradeId members
  call.checkOrderId members
  let price ← readDecimalString decimalOf (members.lookup "price") "fill.price"
  let quantity ← readDecimalString decimalOf (members.lookup "qty") "fill.qty"
  let feeAmount ← readDecimalString decimalOf (members.lookup "commission") "fill.commission"
  let feeAsset ← validateCanonicalText (members.lookup "commissionAsset") "fill.commissionAsset"
  let executedAt ← call.readExecutedAt members
  .ok { tradeId, price, quantity, feeAmount, feeAsset, executedAt }

/-! ## The fill of a row -/

/-- `str(trade_id)`. -/
def tradeIdText (tradeId : ℕ) : String := String.ofList (Nat.toDigits 10 tradeId)

/-- `int(trade_id)`. -/
def tradeIdOf (text : String) : ℕ := Nat.ofDigitChars 10 text.toList 0

@[simp] theorem tradeIdOf_tradeIdText (tradeId : ℕ) :
    tradeIdOf (tradeIdText tradeId) = tradeId := by
  rw [tradeIdOf, tradeIdText, String.toList_ofList, Nat.ofDigitChars_ten_toDigits]

/-- Whether a row is a signed trade of the symbol, with its own time and a numeric order ID. -/
def isSigned (members : Members) : Bool :=
  (members.lookup "time").isSome &&
    (match members.lookup "symbol" with
      | some (.string symbol) => symbol == call.symbol
      | _ => false) &&
    match members.lookup "orderId" with
      | some (.int _) => true
      | _ => false

/-- Whether the execution facts of a past fill are those of a row. -/
def Confirms (historical : Fill ctx) (row : FillRow) : Prop :=
  historical.quantity = row.quantity ∧ historical.price = row.price ∧
    historical.feeAmount = row.feeAmount ∧ historical.feeAsset.text = row.feeAsset ∧
    historical.executedAt = row.executedAt

instance (historical : Fill ctx) (row : FillRow) : Decidable (Confirms historical row) :=
  inferInstanceAs (Decidable (_ ∧ _))

/-- The past fill of a row. -/
def historicalFill (row : FillRow) : Option (Fill ctx) :=
  call.historicalFills.find? fun fill =>
    decide (fill.key = (call.exchangeOrderId, tradeIdText row.tradeId))

/-- The fee of a row in the quote asset, and its valuation. -/
def valueFee (row : FillRow) : Except TradingError (ℚ × Option BnbFeeValuation) :=
  if row.feeAsset = "BNB" then
    match call.historicalFill row with
    | none => .error (.valueError "fee asset BNB requires quote conversion reconciliation")
    | some historical => .ok (historical.feeQuoteAmount, historical.feeValuation)
  else if row.feeAsset = call.quoteAsset then .ok (row.feeAmount, none)
  else if row.feeAsset = call.baseAsset then .ok (ctx.mul row.feeAmount row.price, none)
  else .error (.valueError "fee asset requires quote conversion reconciliation")

/-- The fill of a row. -/
def fillOfRow (signed : Bool) (row : FillRow) : Except TradingError (Fill ctx) := do
  Except.require (∀ historical ∈ call.historicalFill row, signed = true ∧ Confirms historical row)
    (.valueError "historical fee fill differs from exchange evidence")
  let fee ← call.valueFee row
  Except.require (isPositiveIntegerText call.exchangeOrderId = true)
    (.valueError "exchange_order_id must be a positive integer string")
  let feeAsset ← FeeAsset.ofText row.feeAsset
  FillFields.create ctx {
    exchangeOrderId := call.exchangeOrderId
    tradeId := tradeIdText row.tradeId
    quantity := row.quantity
    price := row.price
    feeAmount := row.feeAmount
    feeAsset := feeAsset
    feeQuoteAmount := fee.1
    executedAt := row.executedAt
    feeValuation := fee.2 }

/-- One turn of the loop, without the dictionary. -/
def mapPayload (payload : JsonValue) : Except TradingError (Fill ctx) :=
  match payload with
  | .object members => do
      let row ← call.readRow decimalOf members
      call.fillOfRow (call.isSigned members) row
  | _ => .error (.valueError "each fill payload must be an object")

/-! ## The fills by their keys -/

/-- `fills_by_key[key] = fill`, after its check. An equal fill takes the place of the known one. -/
def storeFill : List (Fill ctx) → Fill ctx → Except TradingError (List (Fill ctx)) :=
  keepOnce Fill.key fun _ => .valueError "duplicate fill key has conflicting content"

/-- The loop of `map_fill_payloads`. -/
def collectFills (fills : List (Fill ctx)) : List JsonValue → Except TradingError (List (Fill ctx))
  | [] => .ok fills
  | payload :: payloads => do
      let fill ← call.mapPayload decimalOf payload
      let fills ← storeFill fills fill
      collectFills fills payloads

/-- The order of the result: the execution time, then the numeric trade ID. -/
def Precedes (fill other : Fill ctx) : Prop :=
  fill.executedAt < other.executedAt ∨
    fill.executedAt = other.executedAt ∧ tradeIdOf fill.tradeId ≤ tradeIdOf other.tradeId

instance (fill other : Fill ctx) : Decidable (Precedes fill other) :=
  inferInstanceAs (Decidable (_ ∨ _))

end FillMapping

/-- `map_fill_payloads`. -/
def mapFillPayloads {ctx : DecimalContext} (decimalOf : String → Option ℚ) (call : FillMapping ctx)
    (payloads : List JsonValue) : Except TradingError (List (Fill ctx)) := do
  call.check
  let fills ← call.collectFills decimalOf [] payloads
  .ok (fills.insertionSort FillMapping.Precedes)

/-! ## The result of an order -/

/-- `_ORDER_STATUS_BY_BINANCE_VALUE`. -/
def orderStatusOfBinance : String → Option OrderStatus
  | "PENDING_NEW" => some .pendingNew
  | "NEW" => some .new
  | "PARTIALLY_FILLED" => some .partiallyFilled
  | "PENDING_CANCEL" => some .pendingCancel
  | "FILLED" => some .filled
  | "CANCELED" => some .canceled
  | "REJECTED" => some .rejected
  | "EXPIRED" => some .expired
  | "EXPIRED_IN_MATCH" => some .expiredInMatch
  | _ => none

/-- What `map_order_result` reads before it sums the fills. -/
structure OrderHeader where
  exchangeOrderId : String
  status : OrderStatus
  executedQuantity : ℚ

/-- Whether a field is a given text. -/
def hasText (value : Option JsonValue) (text : String) : Bool :=
  match value with
  | some (.string other) => other == text
  | _ => false

/-- The identity, the status and the executed quantity of an order response. -/
def readOrderHeader (decimalOf : String → Option ℚ) (members : Members)
    (expectedSymbol expectedClientOrderId : String) : Except TradingError OrderHeader := do
  let symbol ← validateCanonicalText (members.lookup "symbol") "symbol"
  Except.require (symbol = expectedSymbol) (.valueError "order symbol does not match request")
  Except.require (hasText (members.lookup "clientOrderId") expectedClientOrderId = true ∨
      hasText (members.lookup "origClientOrderId") expectedClientOrderId = true)
    (.valueError "client order ID does not match request")
  let orderId ← match members.lookup "orderId" with
    | some (.int n) => .ok n
    | _ => .error (.valueError "orderId must be a positive integer")
  Except.require (0 < orderId) (.valueError "orderId must be a positive integer")
  let rawStatus ← validateCanonicalText (members.lookup "status") "status"
  let status ← match orderStatusOfBinance rawStatus with
    | some status => .ok status
    | none => .error (.valueError "unsupported Binance order status")
  let executedQuantity ← readDecimalString decimalOf (members.lookup "executedQty") "executedQty"
  .ok { exchangeOrderId := String.ofList (Json.dumpsInt orderId), status, executedQuantity }

/-- `_read_order_processed_at`. -/
def readOrderProcessedAt (members : Members) : Except TradingError Timestamp :=
  match members.lookup "transactTime", members.lookup "updateTime", members.lookup "time" with
  | some value, _, _ => millisecondsToUtc value "transactTime"
  | none, some value, _ => millisecondsToUtc value "updateTime"
  | none, none, some value => millisecondsToUtc value "time"
  | none, none, none =>
      .error (.valueError "order payload must contain transactTime, updateTime, or time")

/-- The reason of a failure: that of the caller, else the exchange's. -/
def selectFailureReason (members : Members) (failureReason : Option String) :
    Except TradingError (Option String) :=
  match failureReason, members.lookup "expiryReason" with
  | some reason, _ => .ok (some reason)
  | none, some value => (validateCanonicalText (some value) "expiryReason").map some
  | none, none => .ok none

section OrderResults

variable {ctx : DecimalContext}

/-- What `map_order_result` does after it has summed the fills. -/
def buildOrderResult (members : Members) (header : OrderHeader)
    (expectedSymbol expectedClientOrderId : String) (fills : List (Fill ctx))
    (failureReason : Option String) (retryAfter : Option Duration) :
    Except TradingError (OrderResult ctx) := do
  Except.require (∀ fill ∈ fills, fill.exchangeOrderId = header.exchangeOrderId)
    (.valueError "mapped fill belongs to a different order")
  let failureReason ← selectFailureReason members failureReason
  let processedAt ← readOrderProcessedAt members
  OrderResultFields.create {
    symbol := expectedSymbol
    clientOrderId := expectedClientOrderId
    status := header.status
    processedAt := processedAt
    exchangeOrderId := some header.exchangeOrderId
    fills := fills
    failureReason := failureReason
    retryAfter := retryAfter }

/-- `map_order_result`. -/
def mapOrderResult (decimalOf : String → Option ℚ) (members : Members)
    (expectedSymbol expectedClientOrderId : String) (fills : List (Fill ctx))
    (failureReason : Option String) (retryAfter : Option Duration) :
    Except TradingError (OrderResult ctx) := do
  let header ← readOrderHeader decimalOf members expectedSymbol expectedClientOrderId
  Except.require (ctx.sum (fills.map (·.quantity)) = header.executedQuantity)
    (.valueError "executedQty does not match mapped fills")
  buildOrderResult members header expectedSymbol expectedClientOrderId fills failureReason
    retryAfter

end OrderResults

/-! ## The set of the fills -/

namespace FillMapping

variable {ctx : DecimalContext} {decimalOf : String → Option ℚ} {call : FillMapping ctx}

/-- A fill of the call: of its order, with a trade ID as it is written. -/
structure Belongs (call : FillMapping ctx) (fill : Fill ctx) : Prop where
  order : fill.exchangeOrderId = call.exchangeOrderId
  trade : tradeIdText (tradeIdOf fill.tradeId) = fill.tradeId

theorem fillOfRow_eq_ok {signed : Bool} {row : FillRow} {fill : Fill ctx}
    (h : call.fillOfRow signed row = .ok fill) :
    fill.exchangeOrderId = call.exchangeOrderId ∧ fill.tradeId = tradeIdText row.tradeId ∧
      fill.price = row.price ∧ fill.quantity = row.quantity ∧ fill.feeAmount = row.feeAmount ∧
      fill.feeAsset.text = row.feeAsset ∧ fill.executedAt = row.executedAt := by
  rw [fillOfRow] at h
  obtain ⟨-, h⟩ := Except.require_bind_eq_ok_iff.mp h
  obtain ⟨fee, -, h⟩ := Except.bind_eq_ok_iff.mp h
  obtain ⟨-, h⟩ := Except.require_bind_eq_ok_iff.mp h
  obtain ⟨feeAsset, hasset, h⟩ := Except.bind_eq_ok_iff.mp h
  rw [FillFields.create_eq_ok h]
  exact ⟨rfl, rfl, rfl, rfl, rfl, FeeAsset.text_of_ofText hasset, rfl⟩

theorem mapPayload_eq_ok {payload : JsonValue} {fill : Fill ctx}
    (h : call.mapPayload decimalOf payload = .ok fill) :
    ∃ members row, payload = .object members ∧ call.readRow decimalOf members = .ok row ∧
      call.fillOfRow (call.isSigned members) row = .ok fill := by
  cases payload with
  | object members =>
      obtain ⟨row, hrow, hfill⟩ := Except.bind_eq_ok_iff.mp h
      exact ⟨members, row, rfl, hrow, hfill⟩
  | _ => cases h

theorem belongs_of_mapPayload {payload : JsonValue} {fill : Fill ctx}
    (h : call.mapPayload decimalOf payload = .ok fill) : call.Belongs fill := by
  obtain ⟨members, row, -, -, hfill⟩ := mapPayload_eq_ok h
  obtain ⟨horder, htrade, -⟩ := fillOfRow_eq_ok hfill
  exact ⟨horder, by rw [htrade, tradeIdOf_tradeIdText]⟩

/-- The fills that are collected are the known ones and those of the rows, once each. -/
theorem collectFills_eq_ok {fills collected : List (Fill ctx)} {payloads : List JsonValue}
    (h : call.collectFills decimalOf fills payloads = .ok collected) :
    (∀ payload ∈ payloads, ∃ fill, call.mapPayload decimalOf payload = .ok fill) ∧
      (∀ fill, fill ∈ collected ↔ fill ∈ fills ∨
        ∃ payload ∈ payloads, call.mapPayload decimalOf payload = .ok fill) ∧
      ((fills.map Fill.key).Nodup → (collected.map Fill.key).Nodup) := by
  induction payloads generalizing fills with
  | nil =>
      obtain rfl := Except.ok.inj h
      exact ⟨by simp, by simp, id⟩
  | cons payload payloads ih =>
      rw [collectFills] at h
      obtain ⟨fill, hfill, h⟩ := Except.bind_eq_ok_iff.mp h
      obtain ⟨stored, hstored, h⟩ := Except.bind_eq_ok_iff.mp h
      have hkeeps := keeps_keepOnce hstored
      obtain ⟨hall, hrest, hdistinct⟩ := ih h
      refine ⟨List.forall_mem_cons.mpr ⟨⟨fill, hfill⟩, hall⟩, fun other => ?_,
        fun hfills => hdistinct (hkeeps.keys_nodup hfills)⟩
      rw [hrest, hkeeps.mem_iff, List.mem_singleton, List.exists_mem_cons_iff, hfill, or_assoc]
      exact or_congr_right (or_congr_left ⟨fun hother => congrArg Except.ok hother.symm,
        fun hother => (Except.ok.inj hother).symm⟩)

/-- Rows that each have a fill, of which no two of one key differ, are collected. -/
theorem exists_collectFills {fills : List (Fill ctx)} {payloads : List JsonValue}
    {among : Fill ctx → Prop} (hamong : ∀ fill other, among fill → among other →
      fill.key = other.key → fill = other)
    (hfills : ∀ fill ∈ fills, among fill)
    (hpayloads : ∀ payload ∈ payloads, ∃ fill, call.mapPayload decimalOf payload = .ok fill ∧
      among fill) :
    ∃ collected, call.collectFills decimalOf fills payloads = .ok collected := by
  induction payloads generalizing fills with
  | nil => exact ⟨fills, rfl⟩
  | cons payload payloads ih =>
      obtain ⟨⟨fill, hfill, hin⟩, hrest⟩ := List.forall_mem_cons.mp hpayloads
      obtain ⟨stored, hstored⟩ : ∃ stored, storeFill fills fill = .ok stored :=
        exists_keepOnce fun known hknown hkey =>
          hamong known fill (hfills known hknown) hin hkey
      have hall : ∀ other ∈ stored, among other := by
        intro other hother
        rcases ((keeps_keepOnce hstored).mem_iff other).mp hother with hknown | hother
        · exact hfills other hknown
        · exact List.mem_singleton.mp hother ▸ hin
      obtain ⟨collected, hcollected⟩ := ih hall hrest
      refine ⟨collected, ?_⟩
      rw [collectFills, hfill, Except.ok_bind, hstored, Except.ok_bind]
      exact hcollected

/-! ## The order of the result -/

instance : Std.Total (Precedes : Fill ctx → Fill ctx → Prop) :=
  ⟨fun fill other => by
    rcases lt_trichotomy fill.executedAt other.executedAt with hlt | heq | hgt
    · exact .inl (.inl hlt)
    · rcases Nat.le_total (tradeIdOf fill.tradeId) (tradeIdOf other.tradeId) with hle | hge
      · exact .inl (.inr ⟨heq, hle⟩)
      · exact .inr (.inr ⟨heq.symm, hge⟩)
    · exact .inr (.inl hgt)⟩

instance : IsTrans (Fill ctx) Precedes :=
  ⟨fun first second third hfirst hsecond => by
    rcases hfirst with hfirst | ⟨hfirst, hle⟩
    · rcases hsecond with hsecond | ⟨hsecond, -⟩
      · exact .inl (hfirst.trans hsecond)
      · exact .inl (hfirst.trans_eq hsecond)
    · rcases hsecond with hsecond | ⟨hsecond, hle'⟩
      · exact .inl (hfirst.trans_lt hsecond)
      · exact .inr ⟨hfirst.trans hsecond, hle.trans hle'⟩⟩

/-- The order separates the fills of different keys. -/
theorem key_eq_of_precedes {fill other : Fill ctx} (hfill : call.Belongs fill)
    (hother : call.Belongs other) (hle : Precedes fill other) (hge : Precedes other fill) :
    fill.key = other.key := by
  have htrade : tradeIdOf fill.tradeId = tradeIdOf other.tradeId := by
    rcases hle with hlt | ⟨heq, hle⟩
    · rcases hge with hgt | ⟨heq, -⟩
      · exact absurd hlt hgt.asymm
      · exact absurd heq hlt.ne'
    · rcases hge with hgt | ⟨-, hge⟩
      · exact absurd heq hgt.ne'
      · exact Nat.le_antisymm hle hge
  rw [Fill.key, Fill.key, hfill.order, hother.order, ← hfill.trade, ← hother.trade, htrade]

theorem eq_of_key {fills : List (Fill ctx)} (hnodup : (fills.map Fill.key).Nodup)
    {fill other : Fill ctx} (hfill : fill ∈ fills) (hother : other ∈ fills)
    (hkey : fill.key = other.key) : fill = other :=
  List.inj_on_of_nodup_map hnodup hfill hother hkey

/-- Two lists of the same fills of the call, once each, are sorted alike. -/
theorem insertionSort_eq {fills others : List (Fill ctx)} (hfills : (fills.map Fill.key).Nodup)
    (hothers : (others.map Fill.key).Nodup) (hsame : ∀ fill, fill ∈ fills ↔ fill ∈ others)
    (hbelongs : ∀ fill ∈ fills, call.Belongs fill) :
    fills.insertionSort Precedes = others.insertionSort Precedes := by
  have hperm : (fills.insertionSort Precedes).Perm (others.insertionSort Precedes) :=
    (List.perm_insertionSort _ _).trans (((List.perm_ext_iff_of_nodup hfills.of_map
      hothers.of_map).mpr hsame).trans (List.perm_insertionSort _ _).symm)
  refine hperm.eq_of_pairwise ?_ (List.pairwise_insertionSort _ _)
    (List.pairwise_insertionSort _ _)
  intro fill other hfill hother hle hge
  rw [List.mem_insertionSort] at hfill hother
  have hother' := (hsame other).mpr hother
  exact eq_of_key hfills hfill hother'
    (key_eq_of_precedes (hbelongs fill hfill) (hbelongs other hother') hle hge)

end FillMapping

section Law

variable {ctx : DecimalContext} {decimalOf : String → Option ℚ} {call : FillMapping ctx}

/-- What a call returns. -/
theorem mapFillPayloads_eq_ok {payloads : List JsonValue} {result : List (Fill ctx)}
    (h : mapFillPayloads decimalOf call payloads = .ok result) :
    call.check = .ok () ∧ ∃ collected,
      call.collectFills decimalOf [] payloads = .ok collected ∧
      result = collected.insertionSort FillMapping.Precedes := by
  obtain ⟨_, hcheck, h⟩ := Except.bind_eq_ok_iff.mp h
  obtain ⟨collected, hcollected, h⟩ := Except.bind_eq_ok_iff.mp h
  exact ⟨hcheck, collected, hcollected, (Except.ok.inj h).symm⟩

/-- The same rows in another order, and repeated, give the same fills. -/
theorem mapFillPayloads_of_same {payloads others : List JsonValue}
    (hsame : ∀ payload, payload ∈ payloads ↔ payload ∈ others) {result : List (Fill ctx)}
    (h : mapFillPayloads decimalOf call payloads = .ok result) :
    mapFillPayloads decimalOf call others = .ok result := by
  obtain ⟨hcheck, collected, hcollected, rfl⟩ := mapFillPayloads_eq_ok h
  obtain ⟨hall, hmem, hnodup⟩ := FillMapping.collectFills_eq_ok hcollected
  have hkeys := hnodup List.nodup_nil
  obtain ⟨collected', hcollected'⟩ := @FillMapping.exists_collectFills ctx decimalOf call [] others
    (· ∈ collected)
    (fun fill other hfill hother hkey => FillMapping.eq_of_key hkeys hfill hother hkey)
    (fun _ => nofun) fun payload hpayload => by
      obtain ⟨fill, hfill⟩ := hall payload ((hsame payload).mpr hpayload)
      exact ⟨fill, hfill, (hmem fill).mpr (.inr ⟨payload, (hsame payload).mpr hpayload, hfill⟩)⟩
  obtain ⟨-, hmem', hnodup'⟩ := FillMapping.collectFills_eq_ok hcollected'
  have hequal : ∀ fill, fill ∈ collected ↔ fill ∈ collected' := by
    intro fill
    rw [hmem, hmem']
    simp only [hsame]
  have hbelongs : ∀ fill ∈ collected, call.Belongs fill := by
    intro fill hfill
    rcases (hmem fill).mp hfill with hnone | ⟨payload, -, hpayload⟩
    · cases hnone
    · exact FillMapping.belongs_of_mapPayload hpayload
  rw [FillMapping.insertionSort_eq hkeys (hnodup' List.nodup_nil) hequal hbelongs]
  rw [mapFillPayloads, hcheck, Except.ok_bind, hcollected', Except.ok_bind]

/-- The fills of a call are sorted, each of a row, and one for every trade. -/
theorem mapFillPayloads_sorted {payloads : List JsonValue} {result : List (Fill ctx)}
    (h : mapFillPayloads decimalOf call payloads = .ok result) :
    result.Pairwise FillMapping.Precedes ∧
      (result.map fun fill => FillMapping.tradeIdOf fill.tradeId).Nodup ∧
      (∀ payload ∈ payloads, ∃ fill ∈ result, call.mapPayload decimalOf payload = .ok fill) ∧
      ∀ fill ∈ result, ∃ payload ∈ payloads, call.mapPayload decimalOf payload = .ok fill := by
  obtain ⟨-, collected, hcollected, rfl⟩ := mapFillPayloads_eq_ok h
  obtain ⟨hall, hmem, hnodup⟩ := FillMapping.collectFills_eq_ok hcollected
  have hkeys := hnodup List.nodup_nil
  have horigin : ∀ fill ∈ collected, ∃ payload ∈ payloads,
      call.mapPayload decimalOf payload = .ok fill := by
    intro fill hfill
    rcases (hmem fill).mp hfill with hnone | hpayload
    · cases hnone
    · exact hpayload
  refine ⟨List.pairwise_insertionSort _ _, ?_, fun payload hpayload => ?_, fun fill hfill => ?_⟩
  · have hids : (collected.map fun fill => FillMapping.tradeIdOf fill.tradeId).Nodup := by
      refine List.Nodup.map_on (fun fill hfill other hother hsame => ?_) hkeys.of_map
      obtain ⟨payload, -, hpayload⟩ := horigin fill hfill
      obtain ⟨payload', -, hpayload'⟩ := horigin other hother
      have hbelongs := FillMapping.belongs_of_mapPayload hpayload
      have hbelongs' := FillMapping.belongs_of_mapPayload hpayload'
      refine FillMapping.eq_of_key hkeys hfill hother ?_
      rw [Fill.key, Fill.key, hbelongs.order, hbelongs'.order, ← hbelongs.trade,
        ← hbelongs'.trade, hsame]
    exact (((List.perm_insertionSort FillMapping.Precedes collected).map _).nodup_iff).mpr hids
  · obtain ⟨fill, hfill⟩ := hall payload hpayload
    exact ⟨fill, (List.mem_insertionSort _).mpr
      ((hmem fill).mpr (.inr ⟨payload, hpayload, hfill⟩)), hfill⟩
  · exact horigin fill ((List.mem_insertionSort _).mp hfill)

/-- Two rows of one trade that say something else are never accepted together. -/
theorem mapFillPayloads_conflict {payloads : List JsonValue} {first second : Members}
    (hfirst : .object first ∈ payloads) (hsecond : .object second ∈ payloads) {row other : FillRow}
    (hrow : call.readRow decimalOf first = .ok row)
    (hother : call.readRow decimalOf second = .ok other) (htrade : row.tradeId = other.tradeId)
    (hdiffer : row ≠ other) (result : List (Fill ctx)) :
    mapFillPayloads decimalOf call payloads ≠ .ok result := by
  intro h
  obtain ⟨-, hnodup, hall, -⟩ := mapFillPayloads_sorted h
  obtain ⟨fill, hmem, hfill⟩ := hall _ hfirst
  obtain ⟨fill', hmem', hfill'⟩ := hall _ hsecond
  rw [FillMapping.mapPayload, hrow, Except.ok_bind] at hfill
  rw [FillMapping.mapPayload, hother, Except.ok_bind] at hfill'
  obtain ⟨-, hid, hprice, hquantity, hfee, hasset, htime⟩ := FillMapping.fillOfRow_eq_ok hfill
  obtain ⟨-, hid', hprice', hquantity', hfee', hasset', htime'⟩ :=
    FillMapping.fillOfRow_eq_ok hfill'
  have hsame : fill = fill' := by
    refine List.inj_on_of_nodup_map hnodup hmem hmem' ?_
    rw [hid, hid', htrade]
  subst hsame
  apply hdiffer
  cases row
  cases other
  simp_all

/-- An order response is accepted when the sum of its fills is the executed quantity. -/
theorem mapOrderResult_eq_ok_iff {members : Members} {symbol clientOrderId : String}
    {fills : List (Fill ctx)} {reason : Option String} {retryAfter : Option Duration}
    {header : OrderHeader} {result : OrderResult ctx}
    (hheader : readOrderHeader decimalOf members symbol clientOrderId = .ok header)
    (hbuild : buildOrderResult members header symbol clientOrderId fills reason retryAfter =
      .ok result) :
    (∃ accepted, mapOrderResult decimalOf members symbol clientOrderId fills reason retryAfter =
      .ok accepted) ↔ ctx.sum (fills.map (·.quantity)) = header.executedQuantity := by
  rw [mapOrderResult, hheader, Except.ok_bind]
  constructor
  · rintro ⟨accepted, haccepted⟩
    exact (Except.require_bind_eq_ok_iff.mp haccepted).1
  · intro hsum
    exact ⟨result, Except.require_bind_eq_ok_iff.mpr ⟨hsum, hbuild⟩⟩

end Law

/-- What the fills of exchange responses are. -/
structure FillLaw {ctx : DecimalContext} (decimalOf : String → Option ℚ) (call : FillMapping ctx) :
    Prop where
  /-- Only the set of the rows counts. -/
  same : ∀ payloads others : List JsonValue,
    (∀ payload, payload ∈ payloads ↔ payload ∈ others) →
    (∃ result, mapFillPayloads decimalOf call payloads = .ok result ∧
        mapFillPayloads decimalOf call others = .ok result) ∨
      ∃ error error', mapFillPayloads decimalOf call payloads = .error error ∧
        mapFillPayloads decimalOf call others = .error error'
  /-- The fills are sorted, each of a row, and one for every trade. -/
  sorted : ∀ payloads result, mapFillPayloads decimalOf call payloads = .ok result →
    result.Pairwise FillMapping.Precedes ∧
      (result.map fun fill => FillMapping.tradeIdOf fill.tradeId).Nodup ∧
      (∀ payload ∈ payloads, ∃ fill ∈ result, call.mapPayload decimalOf payload = .ok fill) ∧
      ∀ fill ∈ result, ∃ payload ∈ payloads, call.mapPayload decimalOf payload = .ok fill
  /-- Two contents for one trade raise. -/
  conflict : ∀ (payloads : List JsonValue) (first second : Members) (row other : FillRow),
    .object first ∈ payloads → .object second ∈ payloads →
    call.readRow decimalOf first = .ok row → call.readRow decimalOf second = .ok other →
    row.tradeId = other.tradeId → row ≠ other →
    ∃ error, mapFillPayloads decimalOf call payloads = .error error
  /-- A result whose other checks pass is accepted by its quantity. -/
  accepted : ∀ (members : Members) (symbol clientOrderId : String) (fills : List (Fill ctx))
    (reason : Option String) (retryAfter : Option Duration) (header : OrderHeader)
    (result : OrderResult ctx),
    readOrderHeader decimalOf members symbol clientOrderId = .ok header →
    buildOrderResult members header symbol clientOrderId fills reason retryAfter = .ok result →
    ((∃ accepted, mapOrderResult decimalOf members symbol clientOrderId fills reason retryAfter =
      .ok accepted) ↔ ctx.sum (fills.map (·.quantity)) = header.executedQuantity)

theorem mapFillPayloads_law {ctx : DecimalContext} (decimalOf : String → Option ℚ)
    (call : FillMapping ctx) : FillLaw decimalOf call where
  same payloads others hsame := by
    cases h : mapFillPayloads decimalOf call payloads with
    | ok result => exact .inl ⟨result, rfl, mapFillPayloads_of_same hsame h⟩
    | error error =>
        cases h' : mapFillPayloads decimalOf call others with
        | ok result =>
            have hback := mapFillPayloads_of_same (fun payload => (hsame payload).symm) h'
            rw [h] at hback
            cases hback
        | error error' => exact .inr ⟨error, error', rfl, rfl⟩
  sorted _ _ h := mapFillPayloads_sorted h
  conflict payloads _ _ _ _ hfirst hsecond hrow hother htrade hdiffer := by
    cases h : mapFillPayloads decimalOf call payloads with
    | ok result =>
        exact absurd h (mapFillPayloads_conflict hfirst hsecond hrow hother htrade hdiffer result)
    | error error => exact ⟨error, rfl⟩
  accepted _ _ _ _ _ _ _ _ hheader hbuild := mapOrderResult_eq_ok_iff hheader hbuild

/-- A quantity of 35 digits. -/
def wideQuantity : ℚ := 10 ^ 34 + 1

def wideFill : Fill decimal128 :=
  ⟨{ exchangeOrderId := "7"
     tradeId := "1"
     quantity := wideQuantity
     price := 1
     feeAmount := 0
     feeAsset := .usdt
     feeQuoteAmount := 0
     executedAt := 0 }, by decide +kernel⟩

def wideResponse : Members := [
  ("symbol", .string "ETHUSDT"),
  ("clientOrderId", .string "bat-1"),
  ("orderId", .int 7),
  ("status", .string "FILLED"),
  ("executedQty", .string "10000000000000000000000000000000001"),
  ("transactTime", .int 0)]

def wideDecimal (text : String) : Option ℚ :=
  if text = "10000000000000000000000000000000001" then some wideQuantity else none

/-- One fill of 35 digits is the whole executed quantity, and is refused: its sum is rounded. -/
theorem wideResponse_refused :
    readOrderHeader wideDecimal wideResponse "ETHUSDT" "bat-1" = .ok ⟨"7", .filled, wideQuantity⟩ ∧
      ([wideFill].map fun fill => fill.quantity).sum = wideQuantity ∧
      (∃ result, buildOrderResult wideResponse ⟨"7", .filled, wideQuantity⟩ "ETHUSDT" "bat-1"
        [wideFill] none none = .ok result) ∧
      mapOrderResult wideDecimal wideResponse "ETHUSDT" "bat-1" [wideFill] none none =
        .error (.valueError "executedQty does not match mapped fills") := by
  refine ⟨rfl, by decide +kernel, ⟨_, rfl⟩, ?_⟩
  have hsum : decimal128.sum ([wideFill].map fun fill => fill.quantity) ≠ wideQuantity := by
    decide +kernel
  have hheader : readOrderHeader wideDecimal wideResponse "ETHUSDT" "bat-1" =
      .ok ⟨"7", .filled, wideQuantity⟩ := rfl
  rw [mapOrderResult, hheader, Except.ok_bind, Except.require, if_neg hsum, Except.error_bind]

end Trading
