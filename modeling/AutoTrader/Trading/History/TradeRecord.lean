import AutoTrader.Trading.Accounting.Trade
import AutoTrader.Trading.History.Wire

/-!
# Trades as JSON records

`trade_to_json_object` and `trade_from_json_object` of `domain/history/trade.py`, and the
records of fee fills of `domain/history/fill_record.py`.

* `StoredFill`, `StoredTrade` — fills and trades with the decimals and times their
  constructors hold, a scale included, and what the constructors check.
* `StoredTrade.fields` — their values; two trades are equal when these are.
* `fillToRecord`, `fillFromRecord`, `tradeToJsonObject`, `tradeFromJsonObject` — the two
  encoders and the two decoders.
* `StoredTrade.Readable` — what a record has to fulfil to be read.
* `tradeFromJsonObject_roundTrip` — a trade is read back, equal, exactly when it is readable.
-/

namespace Trading

open Arithmetic

/-! ## Fills -/

/-- `BnbFeeValuation` with the decimal it holds. -/
structure StoredValuation where
  openTimeMs : ℕ
  closeTimeMs : ℕ
  rate : PlainDecimal
  complete_second : openTimeMs % 1000 = 0 ∧ closeTimeMs = openTimeMs + 999
  rate_pos : 0 < rate.value

instance : DecidableEq StoredValuation := fun a b =>
  decidable_of_iff (a.openTimeMs = b.openTimeMs ∧ a.closeTimeMs = b.closeTimeMs ∧
    a.rate = b.rate) (by
    cases a
    cases b
    simp)

/-- The valuation by value. -/
def StoredValuation.fields (valuation : StoredValuation) : BnbFeeValuation where
  openTimeMs := valuation.openTimeMs
  closeTimeMs := valuation.closeTimeMs
  rate := valuation.rate.value
  complete_second := valuation.complete_second
  rate_pos := valuation.rate_pos

/-- The fields of a fill. -/
structure FillValues where
  exchangeOrderId : String
  tradeId : String
  quantity : PlainDecimal
  price : PlainDecimal
  feeAmount : PlainDecimal
  feeAsset : FeeAsset
  feeQuoteAmount : PlainDecimal
  executedAt : UtcDatetime
  feeValuation : Option StoredValuation := none
  deriving DecidableEq

namespace FillValues

/-- The fill by value. -/
def fields (fill : FillValues) : FillFields where
  exchangeOrderId := fill.exchangeOrderId
  tradeId := fill.tradeId
  quantity := fill.quantity.value
  price := fill.price.value
  feeAmount := fill.feeAmount.value
  feeAsset := fill.feeAsset
  feeQuoteAmount := fill.feeQuoteAmount.value
  executedAt := fill.executedAt.timestamp
  feeValuation := fill.feeValuation.map StoredValuation.fields

/-- `__post_init__` of a fill. -/
def check (fill : FillValues) : Except TradingError Unit := do
  Except.require (isPositiveIntegerText fill.exchangeOrderId = true)
    (.valueError "exchange_order_id must be a positive integer string")
  Except.require (isCanonicalText fill.tradeId = true)
    (.valueError "trade_id must be non-empty without outer whitespace")
  fill.fields.validate decimal128

end FillValues

/-- A fill its constructor accepts. -/
structure StoredFill extends FillValues where
  valid : toFillValues.check = .ok ()
  deriving DecidableEq

/-- The constructor of a fill. -/
def FillValues.create (fill : FillValues) : Except TradingError StoredFill :=
  match h : fill.check with
  | .ok () => .ok ⟨fill, h⟩
  | .error error => .error error

theorem FillValues.create_of_check {fill : FillValues} (h : fill.check = .ok ()) :
    fill.create = .ok ⟨fill, h⟩ := by
  unfold create
  split
  · rfl
  · rename_i error herror
    rw [h] at herror
    cases herror

theorem FillValues.check_eq_ok_iff {fill : FillValues} :
    fill.check = .ok () ↔ isPositiveIntegerText fill.exchangeOrderId = true ∧
      isCanonicalText fill.tradeId = true ∧ fill.fields.validate decimal128 = .ok () := by
  simp only [check, Except.require_bind_eq_ok_iff]

/-- The fill by value. -/
def StoredFill.toFill (fill : StoredFill) : Fill decimal128 :=
  ⟨fill.fields, (FillValues.check_eq_ok_iff.mp fill.valid).2.2⟩

/-! ## Trades -/

def TradeSchemaVersion.number : TradeSchemaVersion → ℕ
  | .v1 => 1
  | .v2 => 2
  | .v3 => 3
  | .v4 => 4

def AggregateFeeAsset.wire : AggregateFeeAsset → String
  | .single .eth => "ETH"
  | .single .usdt => "USDT"
  | .single .bnb => "BNB"
  | .mixed => "MIXED"

/-- The fields of a trade. -/
structure TradeValues where
  tradeId : String
  orderId : String
  clientOrderId : String
  symbol : String := supportedSymbol
  executedAt : UtcDatetime
  side : OrderSide
  regimeType : RegimeType
  strategy : StrategyType
  requestedQuantity : PlainDecimal
  executedQuantity : PlainDecimal
  executedAmount : PlainDecimal
  averageFillPrice : PlainDecimal
  marketPriceAtDecision : Option PlainDecimal
  feeAmount : PlainDecimal
  feeAsset : AggregateFeeAsset
  feeQuoteAmount : PlainDecimal
  allocatedCostBasis : Option PlainDecimal := none
  realizedPnl : Option PlainDecimal := none
  realizedReturnRate : Option PlainDecimal := none
  exitReason : Option ExitReason := none
  schemaVersion : TradeSchemaVersion := .v2
  feeFills : List StoredFill := []
  deriving DecidableEq

namespace TradeValues

/-- The trade by value. -/
def fields (trade : TradeValues) : TradeFields decimal128 where
  tradeId := trade.tradeId
  orderId := trade.orderId
  clientOrderId := trade.clientOrderId
  symbol := trade.symbol
  executedAt := trade.executedAt.timestamp
  side := trade.side
  regimeType := trade.regimeType
  strategy := trade.strategy
  requestedQuantity := trade.requestedQuantity.value
  executedQuantity := trade.executedQuantity.value
  executedAmount := trade.executedAmount.value
  averageFillPrice := trade.averageFillPrice.value
  marketPriceAtDecision := trade.marketPriceAtDecision.map PlainDecimal.value
  feeAmount := trade.feeAmount.value
  feeAsset := trade.feeAsset
  feeQuoteAmount := trade.feeQuoteAmount.value
  allocatedCostBasis := trade.allocatedCostBasis.map PlainDecimal.value
  realizedPnl := trade.realizedPnl.map PlainDecimal.value
  realizedReturnRate := trade.realizedReturnRate.map PlainDecimal.value
  exitReason := trade.exitReason
  schemaVersion := trade.schemaVersion
  feeFills := trade.feeFills.map StoredFill.toFill

/-- The identifiers, and the scale of the return rate of a sale. -/
def checkTexts (trade : TradeValues) : Except TradingError Unit := do
  Except.require (isCanonicalText trade.tradeId = true)
    (.valueError "trade_id must be non-empty without outer whitespace")
  Except.require (isCanonicalText trade.clientOrderId = true)
    (.valueError "client_order_id must be non-empty without outer whitespace")
  Except.require (isPositiveIntegerText trade.orderId = true)
    (.valueError "order_id must be a positive integer string")
  Except.require (trade.side = .sell → ∀ rate ∈ trade.realizedReturnRate, rate.exponent = -8)
    (.valueError "realized_return_rate must have exactly 8 decimal places")

/-- `__post_init__` of a trade. -/
def check (trade : TradeValues) : Except TradingError Unit := do
  trade.checkTexts
  trade.fields.validate

end TradeValues

/-- A trade its constructor accepts. -/
structure StoredTrade extends TradeValues where
  valid : toTradeValues.check = .ok ()
  deriving DecidableEq

/-- The constructor of a trade. -/
def TradeValues.create (trade : TradeValues) : Except TradingError StoredTrade :=
  match h : trade.check with
  | .ok () => .ok ⟨trade, h⟩
  | .error error => .error error

theorem TradeValues.create_of_check {trade : TradeValues} (h : trade.check = .ok ()) :
    trade.create = .ok ⟨trade, h⟩ := by
  unfold create
  split
  · rfl
  · rename_i error herror
    rw [h] at herror
    cases herror

/-- `trade == other`: decimals are equal by value and times by instant. -/
def StoredTrade.Equal (trade other : StoredTrade) : Prop := trade.fields = other.fields

/-! ## Writing -/

/-- `strftime` of a time, as a field. -/
def timeJson (padsYear : Bool) (time : UtcDatetime) : JsonValue :=
  .string (String.ofList (time.text padsYear))

/-- The record of a valuation. -/
def valuationToRecord (valuation : StoredValuation) : JsonValue :=
  .object [
    ("source", .string "BINANCE_BNBUSDT_PREVIOUS_1S_CLOSE_V1"),
    ("open_time_ms", .int valuation.openTimeMs),
    ("close_time_ms", .int valuation.closeTimeMs),
    ("rate", decimalJson valuation.rate)]

/-- `fill_to_record`. -/
def fillToRecord (padsYear : Bool) (fill : StoredFill) : JsonValue :=
  .object [
    ("exchange_order_id", textJson fill.exchangeOrderId),
    ("trade_id", textJson fill.tradeId),
    ("quantity", decimalJson fill.quantity),
    ("price", decimalJson fill.price),
    ("fee_amount", decimalJson fill.feeAmount),
    ("fee_asset", textJson (AggregateFeeAsset.single fill.feeAsset).wire),
    ("fee_quote_amount", decimalJson fill.feeQuoteAmount),
    ("executed_at", timeJson padsYear fill.executedAt),
    ("fee_valuation", optionalJson valuationToRecord fill.feeValuation)]

/-- The fields every version writes. -/
def tradeBaseMembers (padsYear : Bool) (trade : StoredTrade) : Members := [
  ("schema_version", .int trade.schemaVersion.number),
  ("record_type", .string "trade"),
  ("trade_id", textJson trade.tradeId),
  ("order_id", textJson trade.orderId),
  ("client_order_id", textJson trade.clientOrderId),
  ("symbol", textJson trade.symbol),
  ("executed_at", timeJson padsYear trade.executedAt),
  ("side", textJson trade.side.wire),
  ("regime_type", textJson trade.regimeType.wire),
  ("strategy", textJson trade.strategy.wire),
  ("requested_quantity", decimalJson trade.requestedQuantity),
  ("executed_quantity", decimalJson trade.executedQuantity),
  ("executed_amount", decimalJson trade.executedAmount),
  ("average_fill_price", decimalJson trade.averageFillPrice),
  ("market_price_at_decision", optionalJson decimalJson trade.marketPriceAtDecision),
  ("fee_amount", decimalJson trade.feeAmount),
  ("fee_asset", textJson trade.feeAsset.wire),
  ("fee_quote_amount", decimalJson trade.feeQuoteAmount),
  ("allocated_cost_basis", optionalJson decimalJson trade.allocatedCostBasis),
  ("realized_pnl", optionalJson decimalJson trade.realizedPnl),
  ("realized_return_rate", optionalJson decimalJson trade.realizedReturnRate),
  ("exit_reason", optionalJson (fun reason : ExitReason => textJson reason.wire) trade.exitReason)]

/-- `trade_to_json_object`. -/
def tradeToJsonObject (padsYear : Bool) (trade : StoredTrade) : Members :=
  (if trade.fields.hasFeeEvidence then
    [("fee_fills", .array (trade.feeFills.map (fillToRecord padsYear)))] else []) ++
    tradeBaseMembers padsYear trade

/-! ## Reading fills -/

/-- `_decimal`: no sign is allowed. -/
def parseFillDecimal (value : JsonValue) : Except TradingError PlainDecimal :=
  match value with
  | .string text =>
      match parseNonnegative text.toList with
      | some d => .ok d
      | none => .error (.valueError "fee evidence requires plain decimal strings")
  | _ => .error (.valueError "fee evidence requires plain decimal strings")

/-- A timestamp field. -/
def parseTime (sixDigits : Bool) (value : JsonValue) : Except TradingError UtcDatetime :=
  match value with
  | .string text =>
      match parseUtcTimestamp sixDigits text.toList with
      | some time => .ok time
      | none => .error (.valueError "timestamp must be a valid UTC timestamp")
  | _ => .error (.valueError "timestamp must be an RFC 3339 UTC Z timestamp")

/-- The constructor of a valuation. -/
def createValuation (openTimeMs closeTimeMs : Int) (rate : PlainDecimal) :
    Except TradingError StoredValuation :=
  if h : 0 ≤ openTimeMs ∧ openTimeMs % 1000 = 0 ∧ closeTimeMs = openTimeMs + 999 then
    if hrate : 0 < rate.value then
      .ok {
        openTimeMs := openTimeMs.toNat
        closeTimeMs := closeTimeMs.toNat
        rate := rate
        complete_second := by omega
        rate_pos := hrate }
    else .error (.valueError "valuation requires a positive finite Decimal rate")
  else .error (.valueError "valuation requires one complete UTC second")

/-- The valuation of a fill record. -/
def valuationFromRecord (value : JsonValue) : Except TradingError StoredValuation :=
  match value with
  | .object members => do
      requireKeys members ["source", "open_time_ms", "close_time_ms", "rate"]
        "invalid BNB valuation fields"
      let openTimeMs ← expectInt (← getField members "open_time_ms")
        "valuation timestamps must be integers"
      let closeTimeMs ← expectInt (← getField members "close_time_ms")
        "valuation timestamps must be integers"
      let rate ← parseFillDecimal (← getField members "rate")
      let source ← expectString (← getField members "source") "unsupported BNB valuation source"
      Except.require (source = "BINANCE_BNBUSDT_PREVIOUS_1S_CLOSE_V1")
        (.valueError "unsupported BNB valuation source")
      createValuation openTimeMs closeTimeMs rate
  | _ => .error (.valueError "invalid BNB valuation fields")

/-- The fee asset of a fill. -/
def FeeAsset.ofWire : String → Except TradingError FeeAsset :=
  memberOf [.eth, .usdt, .bnb] fun asset => (AggregateFeeAsset.single asset).wire

/-- `fill_from_record`. -/
def fillFromRecord (value : JsonValue) : Except TradingError StoredFill :=
  match value with
  | .object members => do
      requireKeys members ["exchange_order_id", "trade_id", "quantity", "price", "fee_amount",
        "fee_asset", "fee_quote_amount", "executed_at", "fee_valuation"]
        "invalid fill evidence fields"
      let feeValuation ← readOptional valuationFromRecord (← getField members "fee_valuation")
      let executedAt ← parseTime true (← getField members "executed_at")
      let exchangeOrderId ← expectString (← getField members "exchange_order_id")
        "exchange_order_id must be a string"
      let tradeId ← expectString (← getField members "trade_id") "trade_id must be a string"
      let quantity ← parseFillDecimal (← getField members "quantity")
      let price ← parseFillDecimal (← getField members "price")
      let feeAmount ← parseFillDecimal (← getField members "fee_amount")
      let feeAsset ← FeeAsset.ofWire
        (← expectString (← getField members "fee_asset") "fee_asset must be a string")
      let feeQuoteAmount ← parseFillDecimal (← getField members "fee_quote_amount")
      FillValues.create {
        exchangeOrderId := exchangeOrderId
        tradeId := tradeId
        quantity := quantity
        price := price
        feeAmount := feeAmount
        feeAsset := feeAsset
        feeQuoteAmount := feeQuoteAmount
        executedAt := executedAt
        feeValuation := feeValuation }
  | _ => .error (.valueError "invalid fill evidence fields")

/-! ## Reading trades -/

/-- The fields of a record without fee evidence. -/
def tradeRecordFields : List String := ["schema_version", "record_type", "trade_id", "order_id",
  "client_order_id", "symbol", "executed_at", "side", "regime_type", "strategy",
  "requested_quantity", "executed_quantity", "executed_amount", "average_fill_price",
  "market_price_at_decision", "fee_amount", "fee_asset", "fee_quote_amount",
  "allocated_cost_basis", "realized_pnl", "realized_return_rate", "exit_reason"]

/-- The version of a record. -/
def TradeSchemaVersion.ofNumber : Int → Except TradingError TradeSchemaVersion
  | 1 => .ok .v1
  | 2 => .ok .v2
  | 3 => .ok .v3
  | 4 => .ok .v4
  | _ => .error (.valueError "schema_version must be supported integer 1, 2, 3 or 4")

/-- A fee asset, which another one would make a reconciliation of. -/
def AggregateFeeAsset.ofWire : String → Except TradingError AggregateFeeAsset :=
  memberOf [.single .eth, .single .usdt, .single .bnb, .mixed] AggregateFeeAsset.wire

/-- The record stores its fee evidence: `record.get("schema_version") in (3, 4)`. -/
def recordHasFeeEvidence (members : Members) : Bool :=
  match members.lookup "schema_version" with
  | some (.int n) => n == 3 || n == 4
  | _ => false

/-- `_read_fee_fills`. -/
def readFeeFills (value : JsonValue) : Except TradingError (List JsonValue) :=
  match value with
  | .array fills =>
      if 1 ≤ fills.length ∧ fills.length ≤ 1000 then .ok fills
      else .error (.valueError "v3 requires 1..1000 fee fills")
  | _ => .error (.valueError "v3 requires 1..1000 fee fills")

/-- The fills of a record. -/
def feeFillsFromRecord (members : Members) : Except TradingError (List StoredFill) :=
  if recordHasFeeEvidence members then do
    let fills ← readFeeFills (← getField members "fee_fills")
    fills.mapM fillFromRecord
  else .ok []

/-- `trade_from_json_object`. -/
def tradeFromJsonObject (members : Members) : Except TradingError StoredTrade := do
  requireKeys members
    (if recordHasFeeEvidence members then "fee_fills" :: tradeRecordFields else tradeRecordFields)
    "trade record must contain exactly the JSONL fields"
  let schemaVersion ← TradeSchemaVersion.ofNumber
    (← expectInt (← getField members "schema_version") "schema_version must be an integer")
  let recordType ← expectString (← getField members "record_type") "record_type must be trade"
  Except.require (recordType = "trade") (.valueError "record_type must be trade")
  let orderId ← parseText (← getField members "order_id")
  Except.require (isPositiveIntegerText orderId = true)
    (.valueError "order_id must be a positive integer string")
  let side ← OrderSide.ofWire (← parseText (← getField members "side"))
  let regimeType ← RegimeType.ofWire (← parseText (← getField members "regime_type"))
  let strategy ← StrategyType.ofWire (← parseText (← getField members "strategy"))
  let tradeId ← parseText (← getField members "trade_id")
  let clientOrderId ← parseText (← getField members "client_order_id")
  let symbol ← parseText (← getField members "symbol")
  let executedAt ← parseTime false (← getField members "executed_at")
  let requestedQuantity ← parsePlainDecimal (← getField members "requested_quantity")
  let executedQuantity ← parsePlainDecimal (← getField members "executed_quantity")
  let executedAmount ← parsePlainDecimal (← getField members "executed_amount")
  let averageFillPrice ← parsePlainDecimal (← getField members "average_fill_price")
  let marketPriceAtDecision ←
    readOptional parsePlainDecimal (← getField members "market_price_at_decision")
  let feeAmount ← parsePlainDecimal (← getField members "fee_amount")
  let feeAsset ← AggregateFeeAsset.ofWire (← parseText (← getField members "fee_asset"))
  let feeQuoteAmount ← parsePlainDecimal (← getField members "fee_quote_amount")
  let allocatedCostBasis ←
    readOptional parsePlainDecimal (← getField members "allocated_cost_basis")
  let realizedPnl ← readOptional parsePlainDecimal (← getField members "realized_pnl")
  let realizedReturnRate ←
    readOptional parsePlainDecimal (← getField members "realized_return_rate")
  let exitReason ← readOptional
    (fun value => do ExitReason.ofWire (← expectString value "exit_reason must be a string or null"))
    (← getField members "exit_reason")
  let feeFills ← feeFillsFromRecord members
  TradeValues.create {
    tradeId := tradeId
    orderId := orderId
    clientOrderId := clientOrderId
    symbol := symbol
    executedAt := executedAt
    side := side
    regimeType := regimeType
    strategy := strategy
    requestedQuantity := requestedQuantity
    executedQuantity := executedQuantity
    executedAmount := executedAmount
    averageFillPrice := averageFillPrice
    marketPriceAtDecision := marketPriceAtDecision
    feeAmount := feeAmount
    feeAsset := feeAsset
    feeQuoteAmount := feeQuoteAmount
    allocatedCostBasis := allocatedCostBasis
    realizedPnl := realizedPnl
    realizedReturnRate := realizedReturnRate
    exitReason := exitReason
    schemaVersion := schemaVersion
    feeFills := feeFills }

/-! ## What is read back -/

/-- The fill a record is read as: every decimal by its plain text. -/
def StoredValuation.plain (valuation : StoredValuation) : StoredValuation where
  openTimeMs := valuation.openTimeMs
  closeTimeMs := valuation.closeTimeMs
  rate := valuation.rate.plain
  complete_second := valuation.complete_second
  rate_pos := by rw [PlainDecimal.value_plain]; exact valuation.rate_pos

@[simp] theorem StoredValuation.fields_plain (valuation : StoredValuation) :
    valuation.plain.fields = valuation.fields := by
  simp only [fields, plain, PlainDecimal.value_plain]

/-- A fill with its decimals by their plain text. -/
def FillValues.plain (fill : FillValues) : FillValues :=
  { fill with
    quantity := fill.quantity.plain
    price := fill.price.plain
    feeAmount := fill.feeAmount.plain
    feeQuoteAmount := fill.feeQuoteAmount.plain
    feeValuation := fill.feeValuation.map StoredValuation.plain }

@[simp] theorem FillValues.fields_plain (fill : FillValues) : fill.plain.fields = fill.fields := by
  have hvaluation : (fill.feeValuation.map StoredValuation.plain).map StoredValuation.fields =
      fill.feeValuation.map StoredValuation.fields := by
    cases fill.feeValuation with
    | none => rfl
    | some valuation => exact congrArg some valuation.fields_plain
  simp only [fields, plain, PlainDecimal.value_plain, hvaluation]

@[simp] theorem FillValues.check_plain (fill : FillValues) : fill.plain.check = fill.check := by
  rw [check, check, fields_plain]
  rfl

/-- A fill with its decimals by their plain text. -/
def StoredFill.plain (fill : StoredFill) : StoredFill :=
  ⟨fill.toFillValues.plain, fill.toFillValues.check_plain.trans fill.valid⟩

@[simp] theorem StoredFill.toFill_plain (fill : StoredFill) : fill.plain.toFill = fill.toFill := by
  unfold toFill
  congr 1
  exact fill.toFillValues.fields_plain

/-- A trade with its decimals by their plain text. -/
def TradeValues.plain (trade : TradeValues) : TradeValues :=
  { trade with
    requestedQuantity := trade.requestedQuantity.plain
    executedQuantity := trade.executedQuantity.plain
    executedAmount := trade.executedAmount.plain
    averageFillPrice := trade.averageFillPrice.plain
    marketPriceAtDecision := trade.marketPriceAtDecision.map PlainDecimal.plain
    feeAmount := trade.feeAmount.plain
    feeQuoteAmount := trade.feeQuoteAmount.plain
    allocatedCostBasis := trade.allocatedCostBasis.map PlainDecimal.plain
    realizedPnl := trade.realizedPnl.map PlainDecimal.plain
    realizedReturnRate := trade.realizedReturnRate.map PlainDecimal.plain
    feeFills := trade.feeFills.map StoredFill.plain }

theorem map_value_plain (d : Option PlainDecimal) :
    (d.map PlainDecimal.plain).map PlainDecimal.value = d.map PlainDecimal.value := by
  cases d with
  | none => rfl
  | some d => exact congrArg some d.value_plain

@[simp] theorem TradeValues.fields_plain (trade : TradeValues) :
    trade.plain.fields = trade.fields := by
  have hfills : (trade.feeFills.map StoredFill.plain).map StoredFill.toFill =
      trade.feeFills.map StoredFill.toFill := by
    rw [List.map_map]
    exact List.map_congr_left fun fill _ => fill.toFill_plain
  simp only [fields, plain, PlainDecimal.value_plain, map_value_plain, hfills]

/-- The scale of a return rate is kept, so the constructor accepts what was read. -/
theorem TradeValues.check_plain {trade : TradeValues} (h : trade.check = .ok ()) :
    trade.plain.check = .ok () := by
  have htexts : trade.plain.checkTexts = .ok () := by
    simp only [check, Except.bind_eq_ok_iff] at h
    obtain ⟨_, h, -⟩ := h
    simp only [checkTexts, Except.require_bind_eq_ok_iff, Except.require_eq_ok_iff] at h ⊢
    obtain ⟨htrade, hclient, horder, hscale⟩ := h
    refine ⟨htrade, hclient, horder, fun hside rate hrate => ?_⟩
    obtain ⟨written, hwritten, rfl⟩ := Option.map_eq_some_iff.mp hrate
    have hexponent := hscale hside written hwritten
    rw [PlainDecimal.exponent_plain (hexponent.trans_le (by decide)), hexponent]
  rw [check, htexts, fields_plain]
  simp only [check, Except.bind_eq_ok_iff] at h
  obtain ⟨_, -, h⟩ := h
  exact h

/-- A trade with its decimals by their plain text. -/
def StoredTrade.plain (trade : StoredTrade) : StoredTrade :=
  ⟨trade.toTradeValues.plain, TradeValues.check_plain trade.valid⟩

theorem StoredTrade.plain_equal (trade : StoredTrade) : trade.plain.Equal trade :=
  trade.toTradeValues.fields_plain

/-! ## Which records are read -/

/-- A time is written with four digits of its year. -/
def UtcDatetime.Readable (padsYear : Bool) (time : UtcDatetime) : Prop :=
  padsYear = true ∨ 1000 ≤ time.year

instance (padsYear : Bool) (time : UtcDatetime) : Decidable (time.Readable padsYear) :=
  inferInstanceAs (Decidable (_ ∨ _))

/-- No fee of the fill is a negative zero. -/
def StoredFill.Readable (padsYear : Bool) (fill : StoredFill) : Prop :=
  fill.feeAmount.negative = false ∧ fill.feeQuoteAmount.negative = false ∧
    fill.executedAt.Readable padsYear

/-- What the decoder asks of a trade beyond what its constructor checks. -/
def StoredTrade.Readable (padsYear : Bool) (trade : StoredTrade) : Prop :=
  trade.executedAt.Readable padsYear ∧ (trade.fields.hasFeeEvidence = true →
    trade.feeFills.length ≤ 1000 ∧ ∀ fill ∈ trade.feeFills, fill.Readable padsYear)

theorem parseTime_timeJson (padsYear sixDigits : Bool) (time : UtcDatetime) :
    parseTime sixDigits (timeJson padsYear time) =
      if time.Readable padsYear then .ok time
      else .error (.valueError "timestamp must be a valid UTC timestamp") := by
  simp only [parseTime, timeJson, String.toList_ofList, parseUtcTimestamp_text]
  by_cases hreadable : padsYear = true ∨ 1000 ≤ time.year
  · rw [if_pos hreadable]
    exact (if_pos hreadable).symm
  · rw [if_neg hreadable]
    exact (if_neg hreadable).symm

theorem parseFillDecimal_decimalJson (d : PlainDecimal) :
    parseFillDecimal (decimalJson d) =
      if d.negative then .error (.valueError "fee evidence requires plain decimal strings")
      else .ok d.plain := by
  simp only [parseFillDecimal, decimalJson, String.toList_ofList,
    PlainDecimal.parseNonnegative_fixedText]
  split_ifs <;> rfl

/-- A positive decimal has no sign and is read back. -/
theorem parseFillDecimal_of_pos {d : PlainDecimal} (h : 0 < d.value) :
    parseFillDecimal (decimalJson d) = .ok d.plain := by
  rw [parseFillDecimal_decimalJson, PlainDecimal.negative_eq_false h]
  rfl

theorem valuationFromRecord_valuationToRecord (valuation : StoredValuation) :
    valuationFromRecord (valuationToRecord valuation) = .ok valuation.plain := by
  obtain ⟨hstart, hend⟩ := valuation.complete_second
  have hstart' : (valuation.openTimeMs : ℤ) % 1000 = 0 := by omega
  have hend' : (valuation.closeTimeMs : ℤ) = valuation.openTimeMs + 999 := by omega
  have hrate : 0 < valuation.rate.plain.value := valuation.plain.rate_pos
  have hcreate : createValuation valuation.openTimeMs valuation.closeTimeMs valuation.rate.plain =
      .ok valuation.plain := by
    rw [createValuation, dif_pos ⟨by omega, hstart', hend'⟩, dif_pos hrate]
    rfl
  simp only [valuationFromRecord, valuationToRecord]
  rw [requireKeys_of_keys (by exact rfl)]
  simp (disch := decide) only [getField_cons_self, getField_cons_ne, expectInt_int,
    expectString_string, Except.ok_bind, parseFillDecimal_of_pos valuation.rate_pos,
    Except.require, if_true]
  exact hcreate

/-! ## Fills -/

theorem StoredFill.quantity_pos (fill : StoredFill) : 0 < fill.quantity.value :=
  fill.toFill.quantity_pos

theorem StoredFill.price_pos (fill : StoredFill) : 0 < fill.price.value := fill.toFill.price_pos

theorem readOptional_valuation (valuation : Option StoredValuation) :
    readOptional valuationFromRecord (optionalJson valuationToRecord valuation) =
      .ok (valuation.map StoredValuation.plain) := by
  cases valuation with
  | none => rfl
  | some valuation =>
      have h := valuationFromRecord_valuationToRecord valuation
      simp only [optionalJson, valuationToRecord, readOptional] at h ⊢
      rw [h]
      rfl

@[simp] theorem FeeAsset.ofWire_wire (asset : FeeAsset) :
    FeeAsset.ofWire (AggregateFeeAsset.single asset).wire = .ok asset := by
  cases asset <;> rfl

/-- The decoder of a fill, field by field. -/
theorem fillFromRecord_fillToRecord (padsYear : Bool) (fill : StoredFill) :
    fillFromRecord (fillToRecord padsYear fill) = (do
      let executedAt ← parseTime true (timeJson padsYear fill.executedAt)
      let feeAmount ← parseFillDecimal (decimalJson fill.feeAmount)
      let feeQuoteAmount ← parseFillDecimal (decimalJson fill.feeQuoteAmount)
      FillValues.create { fill.toFillValues.plain with
        executedAt := executedAt
        feeAmount := feeAmount
        feeQuoteAmount := feeQuoteAmount }) := by
  simp only [fillFromRecord, fillToRecord]
  rw [requireKeys_of_keys (by exact rfl)]
  simp (disch := decide) only [getField_cons_self, getField_cons_ne, textJson,
    expectString_string, Except.ok_bind, readOptional_valuation, FeeAsset.ofWire_wire,
    parseFillDecimal_of_pos fill.quantity_pos, parseFillDecimal_of_pos fill.price_pos]
  rfl

theorem fillFromRecord_of_readable {padsYear : Bool} {fill : StoredFill}
    (h : fill.Readable padsYear) : fillFromRecord (fillToRecord padsYear fill) = .ok fill.plain := by
  obtain ⟨hfee, hquote, htime⟩ := h
  rw [fillFromRecord_fillToRecord, parseTime_timeJson, if_pos htime, Except.ok_bind,
    parseFillDecimal_decimalJson, hfee, parseFillDecimal_decimalJson, hquote]
  exact FillValues.create_of_check fill.plain.valid

theorem readable_of_fillFromRecord {padsYear : Bool} {fill other : StoredFill}
    (h : fillFromRecord (fillToRecord padsYear fill) = .ok other) : fill.Readable padsYear := by
  rw [fillFromRecord_fillToRecord] at h
  simp only [Except.bind_eq_ok_iff, parseTime_timeJson, parseFillDecimal_decimalJson] at h
  obtain ⟨time, htime, fee, hfee, quote, hquote, -⟩ := h
  refine ⟨?_, ?_, ?_⟩
  · by_contra hnegative
    rw [if_pos (by simpa using hnegative)] at hfee
    cases hfee
  · by_contra hnegative
    rw [if_pos (by simpa using hnegative)] at hquote
    cases hquote
  · by_contra hreadable
    rw [if_neg hreadable] at htime
    cases htime

/-- Fills are read one by one. -/
theorem mapM_fillFromRecord_of_readable {padsYear : Bool} {fills : List StoredFill}
    (h : ∀ fill ∈ fills, fill.Readable padsYear) :
    (fills.map (fillToRecord padsYear)).mapM fillFromRecord = .ok (fills.map StoredFill.plain) := by
  induction fills with
  | nil => rfl
  | cons fill fills ih =>
      have hrest := ih fun other hother => h other (List.mem_cons_of_mem _ hother)
      rw [List.map_cons, List.mapM_cons, fillFromRecord_of_readable (h fill List.mem_cons_self),
        Except.ok_bind, hrest]
      rfl

theorem readable_of_mapM_fillFromRecord {padsYear : Bool} {fills others : List StoredFill}
    (h : (fills.map (fillToRecord padsYear)).mapM fillFromRecord = .ok others) :
    ∀ fill ∈ fills, fill.Readable padsYear := by
  induction fills generalizing others with
  | nil => simp
  | cons fill fills ih =>
      rw [List.map_cons, List.mapM_cons] at h
      obtain ⟨other, hother, h⟩ := Except.bind_eq_ok_iff.mp h
      obtain ⟨rest, hrest, -⟩ := Except.bind_eq_ok_iff.mp h
      exact List.forall_mem_cons.mpr ⟨readable_of_fillFromRecord hother, ih hrest⟩

/-! ## Trades -/

@[simp] theorem TradeSchemaVersion.ofNumber_number (version : TradeSchemaVersion) :
    TradeSchemaVersion.ofNumber version.number = .ok version := by
  cases version <;> rfl

@[simp] theorem AggregateFeeAsset.ofWire_wire (asset : AggregateFeeAsset) :
    AggregateFeeAsset.ofWire asset.wire = .ok asset := by
  rcases asset with asset | _
  · cases asset <;> rfl
  · rfl

theorem isCanonicalText_wire (trade : StoredTrade) :
    isCanonicalText trade.side.wire = true ∧ isCanonicalText trade.regimeType.wire = true ∧
      isCanonicalText trade.strategy.wire = true ∧ isCanonicalText trade.feeAsset.wire = true ∧
      isCanonicalText supportedSymbol = true := by
  refine ⟨?_, ?_, ?_, ?_, by decide⟩
  · cases trade.side <;> decide
  · cases trade.regimeType <;> decide
  · cases trade.strategy <;> decide
  · rcases trade.feeAsset with asset | _
    · cases asset <;> decide
    · decide

theorem recordHasFeeEvidence_tradeToJsonObject (padsYear : Bool) (trade : StoredTrade) :
    recordHasFeeEvidence (tradeToJsonObject padsYear trade) = trade.fields.hasFeeEvidence := by
  have hlookup : (tradeToJsonObject padsYear trade).lookup "schema_version" =
      some (.int trade.schemaVersion.number) := by
    unfold tradeToJsonObject
    split <;> rfl
  rw [recordHasFeeEvidence, hlookup]
  cases hversion : trade.schemaVersion <;>
    simp [TradeFields.hasFeeEvidence, TradeValues.fields, hversion, TradeSchemaVersion.number]

theorem getField_tradeToJsonObject {padsYear : Bool} {trade : StoredTrade} {key : String}
    (h : key ≠ "fee_fills") :
    getField (tradeToJsonObject padsYear trade) key =
      getField (tradeBaseMembers padsYear trade) key := by
  unfold tradeToJsonObject
  split
  · exact getField_cons_ne h _ _
  · rfl

/-- The keys are those the decoder expects, in the same order. -/
theorem keys_tradeToJsonObject (padsYear : Bool) (trade : StoredTrade) :
    (tradeToJsonObject padsYear trade).map Prod.fst =
      if recordHasFeeEvidence (tradeToJsonObject padsYear trade) then
        "fee_fills" :: tradeRecordFields else tradeRecordFields := by
  rw [recordHasFeeEvidence_tradeToJsonObject]
  unfold tradeToJsonObject
  split <;> rfl

theorem StoredTrade.texts (trade : StoredTrade) :
    isCanonicalText trade.tradeId = true ∧ isCanonicalText trade.clientOrderId = true ∧
      isPositiveIntegerText trade.orderId = true ∧ trade.symbol = supportedSymbol := by
  have hvalid := trade.valid
  simp only [TradeValues.check, Except.bind_eq_ok_iff] at hvalid
  obtain ⟨_, htexts, hfields⟩ := hvalid
  simp only [TradeValues.checkTexts, Except.require_bind_eq_ok_iff] at htexts
  simp only [TradeFields.validate, Except.require_bind_eq_ok_iff] at hfields
  exact ⟨htexts.1, htexts.2.1, htexts.2.2.1, hfields.1⟩

/-- The decoder of a trade: what can fail are its time and its fills. -/
theorem tradeFromJsonObject_tradeToJsonObject (padsYear : Bool) (trade : StoredTrade) :
    tradeFromJsonObject (tradeToJsonObject padsYear trade) = (do
      let executedAt ← parseTime false (timeJson padsYear trade.executedAt)
      let feeFills ← feeFillsFromRecord (tradeToJsonObject padsYear trade)
      TradeValues.create { trade.toTradeValues.plain with
        executedAt := executedAt
        feeFills := feeFills }) := by
  obtain ⟨htrade, hclient, horder, hsymbol⟩ := trade.texts
  obtain ⟨hside, hregime, hstrategy, hasset, hsupported⟩ := isCanonicalText_wire trade
  have horder' := isPositiveIntegerText.isCanonicalText horder
  have hsymbol' : isCanonicalText trade.symbol = true := hsymbol ▸ hsupported
  unfold tradeFromJsonObject
  rw [requireKeys_of_keys (keys_tradeToJsonObject padsYear trade)]
  simp (disch := decide) only [getField_tradeToJsonObject]
  simp (disch := decide) only [tradeBaseMembers, getField_cons_self, getField_cons_ne]
  simp only [expectString_string, expectInt_int, Except.ok_bind, parseText_textJson htrade,
    parseText_textJson hclient, parseText_textJson horder', parseText_textJson hsymbol',
    parseText_textJson hside, parseText_textJson hregime, parseText_textJson hstrategy,
    parseText_textJson hasset, TradeSchemaVersion.ofNumber_number, OrderSide.ofWire_wire,
    RegimeType.ofWire_wire, StrategyType.ofWire_wire, AggregateFeeAsset.ofWire_wire,
    parsePlainDecimal_decimalJson, readOptional_decimalJson, readOptional_exitReason,
    Except.require, horder, if_true]
  rfl

/-- The fills are there exactly when the version has fee evidence. -/
theorem StoredTrade.feeFills_eq_nil_iff (trade : StoredTrade) :
    trade.feeFills = [] ↔ trade.fields.hasFeeEvidence = false := by
  have hvalid := trade.valid
  simp only [TradeValues.check, Except.bind_eq_ok_iff] at hvalid
  obtain ⟨_, -, hfields⟩ := hvalid
  simp only [TradeFields.validate, Except.require_bind_eq_ok_iff] at hfields
  obtain ⟨-, -, -, -, -, hrest⟩ := hfields
  simp only [Except.bind_eq_ok_iff] at hrest
  obtain ⟨_, -, _, -, _, -, _, hevidence, -⟩ := hrest
  unfold TradeFields.validateFeeEvidence at hevidence
  cases hhas : trade.fields.hasFeeEvidence with
  | true =>
      rw [if_pos hhas] at hevidence
      simp only [Except.require_bind_eq_ok_iff] at hevidence
      have hne := hevidence.1.1
      simp only [TradeValues.fields, ne_eq, List.map_eq_nil_iff] at hne
      simp [hne]
  | false =>
      rw [if_neg (by simp [hhas])] at hevidence
      have hnil := Except.require_eq_ok_iff.mp hevidence
      simp only [TradeValues.fields, List.map_eq_nil_iff] at hnil
      simp [hnil]

/-- The fills of a record of a version with fee evidence. -/
theorem feeFillsFromRecord_of_hasFeeEvidence {padsYear : Bool} {trade : StoredTrade}
    (h : trade.fields.hasFeeEvidence = true) :
    feeFillsFromRecord (tradeToJsonObject padsYear trade) =
      if trade.feeFills.length ≤ 1000 then
        (trade.feeFills.map (fillToRecord padsYear)).mapM fillFromRecord
      else .error (.valueError "v3 requires 1..1000 fee fills") := by
  have hpos : 1 ≤ trade.feeFills.length := by
    have hne : trade.feeFills ≠ [] := fun hnil => by
      rw [trade.feeFills_eq_nil_iff.mp hnil] at h
      cases h
    exact List.length_pos_iff.mpr hne
  have hfield : getField (tradeToJsonObject padsYear trade) "fee_fills" =
      .ok (.array (trade.feeFills.map (fillToRecord padsYear))) := by
    rw [tradeToJsonObject, if_pos h]
    exact getField_cons_self _ _ _
  rw [feeFillsFromRecord, recordHasFeeEvidence_tradeToJsonObject, if_pos h, hfield, Except.ok_bind,
    readFeeFills, List.length_map]
  by_cases hlength : trade.feeFills.length ≤ 1000
  · rw [if_pos ⟨hpos, hlength⟩, if_pos hlength, Except.ok_bind]
  · rw [if_neg fun hbounds => hlength hbounds.2, if_neg hlength, Except.error_bind]

theorem feeFillsFromRecord_of_readable {padsYear : Bool} {trade : StoredTrade}
    (h : trade.Readable padsYear) :
    feeFillsFromRecord (tradeToJsonObject padsYear trade) =
      .ok (trade.feeFills.map StoredFill.plain) := by
  cases hhas : trade.fields.hasFeeEvidence with
  | true =>
      obtain ⟨hlength, hfills⟩ := h.2 hhas
      rw [feeFillsFromRecord_of_hasFeeEvidence hhas, if_pos hlength,
        mapM_fillFromRecord_of_readable hfills]
  | false =>
      rw [feeFillsFromRecord, recordHasFeeEvidence_tradeToJsonObject, hhas,
        trade.feeFills_eq_nil_iff.mpr hhas]
      rfl

/-- A readable trade is read as itself, its decimals by their plain text. -/
theorem tradeFromJsonObject_of_readable {padsYear : Bool} {trade : StoredTrade}
    (h : trade.Readable padsYear) :
    tradeFromJsonObject (tradeToJsonObject padsYear trade) = .ok trade.plain := by
  rw [tradeFromJsonObject_tradeToJsonObject, parseTime_timeJson, if_pos h.1, Except.ok_bind,
    feeFillsFromRecord_of_readable h, Except.ok_bind]
  exact TradeValues.create_of_check trade.plain.valid

theorem readable_of_tradeFromJsonObject {padsYear : Bool} {trade other : StoredTrade}
    (h : tradeFromJsonObject (tradeToJsonObject padsYear trade) = .ok other) :
    trade.Readable padsYear := by
  rw [tradeFromJsonObject_tradeToJsonObject] at h
  obtain ⟨time, htime, h⟩ := Except.bind_eq_ok_iff.mp h
  obtain ⟨fills, hfills, -⟩ := Except.bind_eq_ok_iff.mp h
  refine ⟨?_, fun hhas => ?_⟩
  · by_contra hreadable
    rw [parseTime_timeJson, if_neg hreadable] at htime
    cases htime
  · rw [feeFillsFromRecord_of_hasFeeEvidence hhas] at hfills
    by_cases hlength : trade.feeFills.length ≤ 1000
    · rw [if_pos hlength] at hfills
      exact ⟨hlength, readable_of_mapM_fillFromRecord hfills⟩
    · rw [if_neg hlength] at hfills
      cases hfills

/-- A trade the constructor accepts is read back, equal to what was written, exactly when it
has at most a thousand fills, none of their fees is a negative zero and the years are written
with four digits. -/
theorem tradeFromJsonObject_roundTrip (padsYear : Bool) (trade : StoredTrade) :
    (∃ other, tradeFromJsonObject (tradeToJsonObject padsYear trade) = .ok other ∧
      other.Equal trade) ↔ trade.Readable padsYear := by
  constructor
  · rintro ⟨other, hread, -⟩
    exact readable_of_tradeFromJsonObject hread
  · intro hreadable
    exact ⟨trade.plain, tradeFromJsonObject_of_readable hreadable, trade.plain_equal⟩

/-- A purchase of one fill whose fee is a negative zero. -/
def negativeZeroFill : FillValues where
  exchangeOrderId := "7"
  tradeId := "1"
  quantity := ⟨false, 1, 0⟩
  price := ⟨false, 2000, 0⟩
  feeAmount := ⟨true, 0, 0⟩
  feeAsset := .usdt
  feeQuoteAmount := ⟨false, 0, 0⟩
  executedAt := ⟨⟨2026, 9, 9, 0, 0, 0, 0⟩, by decide⟩

def negativeZeroTrade : TradeValues where
  tradeId := "trade-7"
  orderId := "7"
  clientOrderId := "bat-1"
  executedAt := ⟨⟨2026, 9, 9, 0, 0, 0, 0⟩, by decide⟩
  side := .buy
  regimeType := .type1
  strategy := .caseB
  requestedQuantity := ⟨false, 1, 0⟩
  executedQuantity := ⟨false, 1, 0⟩
  executedAmount := ⟨false, 2000, 0⟩
  averageFillPrice := ⟨false, 2000, 0⟩
  marketPriceAtDecision := some ⟨false, 2000, 0⟩
  feeAmount := ⟨true, 0, 0⟩
  feeAsset := .single .usdt
  feeQuoteAmount := ⟨false, 0, 0⟩
  schemaVersion := .v3
  feeFills := [⟨negativeZeroFill, by decide +kernel⟩]

/-- The constructor accepts it, the decoder does not. -/
theorem negativeZeroTrade_not_read :
    ¬∀ (padsYear : Bool) (trade : StoredTrade),
      ∃ other, tradeFromJsonObject (tradeToJsonObject padsYear trade) = .ok other ∧
        other.Equal trade := by
  intro h
  obtain ⟨other, hread, -⟩ := h true ⟨negativeZeroTrade, by decide +kernel⟩
  have hfill := (readable_of_tradeFromJsonObject hread).2 rfl
  exact absurd (hfill.2 _ List.mem_cons_self).1 (by decide)

end Trading
