import AutoTrader.Support.Csv
import AutoTrader.Support.JsonLaws
import AutoTrader.Support.LineFile
import AutoTrader.Trading.History.TradeRecord

/-!
# The exported CSV file

`csv_file_gateway.py`: the row of a trade and the bytes of a file of them.

* `csvHeader`, `tradeToCsvRow`, `csvContent` — what is written.
* `readCsvContent` — a reader of such a file.
* `TradeValues.exported` — what a row says of its trade.
* `csv_content_law` — a file gives its rows back, and a row its trade.

The time zone of the second timestamp is the runtime's, so that its text is a parameter.
-/

namespace Trading

open Arithmetic

/-! ## Rows -/

/-- `CSV_HEADER`. -/
def csvHeader : List String :=
  ["schema_version", "trade_id", "order_id", "client_order_id", "executed_at_utc",
    "executed_at_kst", "symbol", "side", "regime_type", "strategy", "average_fill_price",
    "market_price_at_decision", "executed_quantity", "executed_amount", "fee_amount",
    "fee_asset", "fee_quote_amount", "allocated_cost_basis", "realized_pnl",
    "realized_return_rate", "exit_reason", "trade_schema_version", "fee_evidence_json"]

/-- `CSV_SCHEMA_VERSION`. -/
def csvSchemaVersion : ℕ := 2

/-- `_plain_decimal`: nothing, or the digits of the decimal. -/
def plainDecimalText : Option PlainDecimal → List Char
  | none => []
  | some d => d.fixedText

/-- The text of an exit reason, or nothing. -/
def exitReasonText : Option ExitReason → List Char
  | none => []
  | some reason => reason.wire.toList

/-- `_trade_to_csv_row`, under the text of the execution time in the exported zone. -/
def tradeToCsvRow (padsYear : Bool) (kst : List Char) (trade : StoredTrade) : List (List Char) :=
  [Nat.toDigits 10 csvSchemaVersion,
    trade.tradeId.toList,
    trade.orderId.toList,
    trade.clientOrderId.toList,
    trade.executedAt.text padsYear,
    kst,
    trade.symbol.toList,
    trade.side.wire.toList,
    trade.regimeType.wire.toList,
    trade.strategy.wire.toList,
    plainDecimalText (some trade.averageFillPrice),
    plainDecimalText trade.marketPriceAtDecision,
    plainDecimalText (some trade.executedQuantity),
    plainDecimalText (some trade.executedAmount),
    plainDecimalText (some trade.feeAmount),
    trade.feeAsset.wire.toList,
    plainDecimalText (some trade.feeQuoteAmount),
    plainDecimalText trade.allocatedCostBasis,
    plainDecimalText trade.realizedPnl,
    plainDecimalText trade.realizedReturnRate,
    exitReasonText trade.exitReason,
    Nat.toDigits 10 trade.schemaVersion.number,
    Json.dumps (.array (trade.feeFills.map (fillToRecord padsYear)))]

/-! ## Files -/

/-- The mark that `utf-8-sig` writes first. -/
def byteOrderMark : List UInt8 := [0xEF, 0xBB, 0xBF]

/-- What `_write_csv_content` writes: the mark, the header and a row for each trade.  A time
that has no text in the exported zone ends it with an exception. -/
def csvContent (padsYear : Bool) (astimezone : UtcDatetime → Option (List Char))
    (trades : List StoredTrade) : Option (List UInt8) :=
  (trades.mapM fun trade =>
    (astimezone trade.executedAt).map fun kst => tradeToCsvRow padsYear kst trade).map
  fun rows => byteOrderMark ++
    LineFile.utf8Encode (Csv.writeRows (csvHeader.map String.toList :: rows))

/-- A reader of an exported file: the rows behind the mark. -/
def readCsvContent (bytes : List UInt8) : Option (List (List (List Char))) :=
  if byteOrderMark <+: bytes then
    (LineFile.utf8Decode (bytes.drop byteOrderMark.length)).bind Csv.readRows
  else none

/-- What a row says of its trade: everything but the quantity that was asked for, with the
decimals by their plain text. -/
def TradeValues.exported (trade : TradeValues) : TradeValues :=
  { trade.plain with requestedQuantity := trade.executedQuantity.plain }

/-! ## A column says its field -/

theorem plain_eq_of_fixedText {first second : PlainDecimal}
    (h : first.fixedText = second.fixedText) : first.plain = second.plain := by
  have hfirst := PlainDecimal.parsePlain_fixedText first
  rw [h, PlainDecimal.parsePlain_fixedText second] at hfirst
  exact (Option.some.inj hfirst).symm

theorem fixedText_ne_nil (d : PlainDecimal) : d.fixedText ≠ [] := by
  obtain ⟨c, chars, hhead, -⟩ := d.unsignedText_head
  unfold PlainDecimal.fixedText
  split
  · exact List.cons_ne_nil _ _
  · rw [hhead]
    exact List.cons_ne_nil _ _

theorem map_plain_eq_of_text {first second : Option PlainDecimal}
    (h : plainDecimalText first = plainDecimalText second) :
    first.map PlainDecimal.plain = second.map PlainDecimal.plain := by
  cases first with
  | none =>
      cases second with
      | none => rfl
      | some d => exact absurd h.symm (fixedText_ne_nil d)
  | some d =>
      cases second with
      | none => exact absurd h (fixedText_ne_nil d)
      | some e => exact congrArg some (plain_eq_of_fixedText h)

theorem exitReason_eq_of_text {first second : Option ExitReason}
    (h : exitReasonText first = exitReasonText second) : first = second := by
  have hne : ∀ reason : ExitReason, reason.wire.toList ≠ [] := by
    intro reason
    cases reason <;> decide
  cases first with
  | none =>
      cases second with
      | none => rfl
      | some reason => exact absurd h.symm (hne reason)
  | some reason =>
      cases second with
      | none => exact absurd h (hne reason)
      | some other =>
          have hwire := ExitReason.ofWire_wire reason
          rw [String.toList_injective h, ExitReason.ofWire_wire] at hwire
          exact congrArg some (Except.ok.inj hwire).symm

theorem feeAsset_eq_of_wire {first second : AggregateFeeAsset}
    (h : first.wire.toList = second.wire.toList) : first = second := by
  have hwire := String.toList_injective h
  rcases first with (_ | _ | _) | _ <;> rcases second with (_ | _ | _) | _ <;>
    first | rfl | (revert hwire; decide)

theorem schemaVersion_eq_of_digits {first second : TradeSchemaVersion}
    (h : Nat.toDigits 10 first.number = Nat.toDigits 10 second.number) : first = second := by
  have hnumber := congrArg (fun digits => Nat.ofDigitChars 10 digits 0) h
  simp only [Nat.ofDigitChars_ten_toDigits] at hnumber
  cases first <;> cases second <;> first | rfl | (revert hnumber; decide)

theorem executedAt_eq_of_text {padsYear : Bool} {first second : UtcDatetime}
    (hfirst : first.Readable padsYear) (hsecond : second.Readable padsYear)
    (h : first.text padsYear = second.text padsYear) : first = second := by
  have hfirst : padsYear = true ∨ 1000 ≤ first.year := hfirst
  have hsecond : padsYear = true ∨ 1000 ≤ second.year := hsecond
  have htext := parseUtcTimestamp_text padsYear false first
  rw [h, parseUtcTimestamp_text, if_pos hfirst, if_pos hsecond] at htext
  exact (Option.some.inj htext).symm

theorem StoredTrade.readable_fills {padsYear : Bool} {trade : StoredTrade}
    (h : trade.Readable padsYear) : ∀ fill ∈ trade.feeFills, fill.Readable padsYear := by
  intro fill hfill
  cases hhas : trade.fields.hasFeeEvidence with
  | true => exact (h.2 hhas).2 fill hfill
  | false =>
      rw [trade.feeFills_eq_nil_iff.mpr hhas] at hfill
      cases hfill

theorem feeFills_eq_of_json {padsYear : Bool} {first second : List StoredFill}
    (hfirst : ∀ fill ∈ first, fill.Readable padsYear)
    (hsecond : ∀ fill ∈ second, fill.Readable padsYear)
    (h : Json.dumps (.array (first.map (fillToRecord padsYear))) =
      Json.dumps (.array (second.map (fillToRecord padsYear)))) :
    first.map StoredFill.plain = second.map StoredFill.plain := by
  have hload := Json.loads_dumps (.array (first.map (fillToRecord padsYear)))
  rw [h, Json.loads_dumps] at hload
  have hrecords : second.map (fillToRecord padsYear) = first.map (fillToRecord padsYear) :=
    JsonValue.array.inj (Option.some.inj hload)
  have hread := mapM_fillFromRecord_of_readable hfirst
  rw [← hrecords, mapM_fillFromRecord_of_readable hsecond] at hread
  exact (Except.ok.inj hread).symm

/-- A row is the row of one trade only. -/
theorem exported_eq_of_row {padsYear : Bool} {kst kst' : List Char} {first second : StoredTrade}
    (hfirst : first.Readable padsYear) (hsecond : second.Readable padsYear)
    (h : tradeToCsvRow padsYear kst first = tradeToCsvRow padsYear kst' second) :
    first.exported = second.exported := by
  simp only [tradeToCsvRow, List.cons.injEq, true_and, and_true] at h
  obtain ⟨htrade, horder, hclient, htime, -, hsymbol, hside, hregime, hstrategy, haverage, hmarket,
    hquantity, hamount, hfee, hasset, hquote, hbasis, hpnl, hrate, hexit, hversion, hfills⟩ := h
  have hsides : first.side = second.side := by
    have hwire := OrderSide.ofWire_wire first.side
    rw [String.toList_injective hside, OrderSide.ofWire_wire] at hwire
    exact (Except.ok.inj hwire).symm
  have hregimes : first.regimeType = second.regimeType := by
    have hwire := RegimeType.ofWire_wire first.regimeType
    rw [String.toList_injective hregime, RegimeType.ofWire_wire] at hwire
    exact (Except.ok.inj hwire).symm
  have hstrategies : first.strategy = second.strategy := by
    have hwire := StrategyType.ofWire_wire first.strategy
    rw [String.toList_injective hstrategy, StrategyType.ofWire_wire] at hwire
    exact (Except.ok.inj hwire).symm
  unfold TradeValues.exported TradeValues.plain
  simp only [TradeValues.mk.injEq]
  exact ⟨String.toList_injective htrade, String.toList_injective horder,
    String.toList_injective hclient, String.toList_injective hsymbol,
    executedAt_eq_of_text hfirst.1 hsecond.1 htime, hsides, hregimes, hstrategies,
    plain_eq_of_fixedText hquantity, plain_eq_of_fixedText hquantity,
    plain_eq_of_fixedText hamount, plain_eq_of_fixedText haverage, map_plain_eq_of_text hmarket,
    plain_eq_of_fixedText hfee, feeAsset_eq_of_wire hasset, plain_eq_of_fixedText hquote,
    map_plain_eq_of_text hbasis, map_plain_eq_of_text hpnl, map_plain_eq_of_text hrate,
    exitReason_eq_of_text hexit, schemaVersion_eq_of_digits hversion,
    feeFills_eq_of_json (StoredTrade.readable_fills hfirst) (StoredTrade.readable_fills hsecond)
      hfills⟩

/-! ## The law -/

theorem mapM_rows {padsYear : Bool} {astimezone : UtcDatetime → Option (List Char)}
    {trades : List StoredTrade} {rows : List (List (List Char))}
    (h : (trades.mapM fun trade => (astimezone trade.executedAt).map fun kst =>
      tradeToCsvRow padsYear kst trade) = some rows) :
    List.Forall₂ (fun trade row => ∃ kst, astimezone trade.executedAt = some kst ∧
      row = tradeToCsvRow padsYear kst trade) trades rows := by
  induction trades generalizing rows with
  | nil =>
      rw [List.mapM_nil] at h
      cases h
      exact List.Forall₂.nil
  | cons trade trades ih =>
      rw [List.mapM_cons] at h
      obtain ⟨row, hrow, h⟩ := Option.bind_eq_some_iff.mp h
      obtain ⟨others, hothers, h⟩ := Option.bind_eq_some_iff.mp h
      cases h
      obtain ⟨kst, hkst, rfl⟩ := Option.map_eq_some_iff.mp hrow
      exact List.Forall₂.cons ⟨kst, hkst, rfl⟩ (ih hothers)

/-- The rows of trades, each under some text of its time in the exported zone. -/
def RowsOf (padsYear : Bool) (astimezone : UtcDatetime → Option (List Char))
    (trades : List StoredTrade) (rows : List (List (List Char))) : Prop :=
  List.Forall₂ (fun trade row => ∃ kst, astimezone trade.executedAt = some kst ∧
    row = tradeToCsvRow padsYear kst trade) trades rows

section Rows

variable {padsYear : Bool} {astimezone : UtcDatetime → Option (List Char)}
  {trades others : List StoredTrade} {rows : List (List (List Char))} {bytes : List UInt8}

theorem RowsOf.length (h : RowsOf padsYear astimezone trades rows) :
    ∀ row ∈ rows, row.length = csvHeader.length := by
  unfold RowsOf at h
  induction h with
  | nil => simp
  | cons hrow _ ih =>
      obtain ⟨kst, -, rfl⟩ := hrow
      intro row hmem
      rcases List.mem_cons.mp hmem with rfl | hmem
      · rfl
      · exact ih row hmem

/-- Rows are the rows of one list of trades only. -/
theorem RowsOf.exported_eq (h : RowsOf padsYear astimezone trades rows)
    (h' : RowsOf padsYear astimezone others rows)
    (htrades : ∀ trade ∈ trades, trade.Readable padsYear)
    (hothers : ∀ trade ∈ others, trade.Readable padsYear) :
    trades.map (fun trade => trade.exported) = others.map (fun trade => trade.exported) := by
  unfold RowsOf at h h'
  induction h generalizing others with
  | nil =>
      cases h'
      rfl
  | cons hrow _ ih =>
      cases h' with
      | cons hrow' hrest =>
          obtain ⟨kst, -, rfl⟩ := hrow
          obtain ⟨kst', -, heq⟩ := hrow'
          have hhead := exported_eq_of_row (htrades _ List.mem_cons_self)
            (hothers _ List.mem_cons_self) heq
          have htail := ih hrest (fun trade hmem => htrades trade (List.mem_cons_of_mem _ hmem))
            (fun trade hmem => hothers trade (List.mem_cons_of_mem _ hmem))
          rw [List.map_cons, List.map_cons, hhead, htail]

/-- The rows of a file are read back. -/
theorem readCsvContent_csvContent (h : csvContent padsYear astimezone trades = some bytes) :
    ∃ rows, readCsvContent bytes = some (csvHeader.map String.toList :: rows) ∧
      RowsOf padsYear astimezone trades rows := by
  obtain ⟨rows, hrows, rfl⟩ := Option.map_eq_some_iff.mp h
  have hof : RowsOf padsYear astimezone trades rows := mapM_rows hrows
  refine ⟨rows, ?_, hof⟩
  have hne : ∀ row ∈ csvHeader.map String.toList :: rows, row ≠ [] := by
    intro row hrow
    rcases List.mem_cons.mp hrow with rfl | hmem
    · exact List.cons_ne_nil _ _
    · rintro rfl
      have := hof.length [] hmem
      simp [csvHeader] at this
  unfold readCsvContent
  rw [if_pos (List.prefix_append _ _), List.drop_left, LineFile.utf8Decode_utf8Encode,
    Option.bind_some, Csv.readRows_writeRows hne]

end Rows

/-- An exported file says everything about its trades but the quantities asked for.  Its rows
are read back as they were written, whatever the fields hold, behind one header; and of two
lists of readable trades with the same file, the trades agree one by one. -/
theorem csv_content_law (padsYear : Bool) (astimezone : UtcDatetime → Option (List Char))
    (trades : List StoredTrade) (bytes : List UInt8)
    (hbytes : csvContent padsYear astimezone trades = some bytes) :
    (∃ rows, readCsvContent bytes = some (csvHeader.map String.toList :: rows) ∧
      rows.length = trades.length ∧ ∀ row ∈ rows, row.length = csvHeader.length) ∧
    ∀ others, csvContent padsYear astimezone others = some bytes →
      (∀ trade ∈ trades, trade.Readable padsYear) →
      (∀ trade ∈ others, trade.Readable padsYear) →
        trades.map (fun trade => trade.exported) = others.map (fun trade => trade.exported) := by
  obtain ⟨rows, hread, hrows⟩ := readCsvContent_csvContent hbytes
  refine ⟨⟨rows, hread, (List.Forall₂.length_eq hrows).symm, hrows.length⟩, ?_⟩
  intro others hothers htrades hreadable
  obtain ⟨rows', hread', hrows'⟩ := readCsvContent_csvContent hothers
  rw [hread, Option.some.injEq, List.cons.injEq] at hread'
  rw [← hread'.2] at hrows'
  exact hrows.exported_eq hrows' htrades hreadable

/-- A purchase whose identifiers hold quotes, commas and line breaks. -/
def quotedPurchase (requested : PlainDecimal) : TradeValues where
  tradeId := "a \"first\", then\r\nmore"
  orderId := "7"
  clientOrderId := "bat,\"1\""
  executedAt := ⟨⟨2026, 9, 9, 15, 30, 0, 1⟩, by decide⟩
  side := .buy
  regimeType := .type1
  strategy := .caseB
  requestedQuantity := requested
  executedQuantity := ⟨false, 1, 0⟩
  executedAmount := ⟨false, 2000, 0⟩
  averageFillPrice := ⟨false, 2000, 0⟩
  marketPriceAtDecision := some ⟨false, 2000, 0⟩
  feeAmount := ⟨false, 2, 0⟩
  feeAsset := .single .usdt
  feeQuoteAmount := ⟨false, 2, 0⟩

def wholePurchase : StoredTrade := ⟨quotedPurchase ⟨false, 1, 0⟩, by decide +kernel⟩

/-- Twice as much was asked for. -/
def halfPurchase : StoredTrade := ⟨quotedPurchase ⟨false, 2, 0⟩, by decide +kernel⟩

/-- The time of both in Seoul, where it is the next day. -/
def quotedKst (time : UtcDatetime) : Option (List Char) :=
  if time = wholePurchase.executedAt then some "2026-09-10T00:30:00.000001+09:00".toList else none

/-- Two purchases that differ in the quantity asked for have one file. -/
theorem csv_content_law_quoted : wholePurchase ≠ halfPurchase ∧ ∃ bytes rows,
    csvContent true quotedKst [wholePurchase, halfPurchase] = some bytes ∧
      csvContent true quotedKst [halfPurchase, wholePurchase] = some bytes ∧
      readCsvContent bytes = some (csvHeader.map String.toList :: rows) ∧ rows.length = 2 ∧
      wholePurchase.exported = halfPurchase.exported := by
  refine ⟨by decide +kernel, ?_⟩
  have hreadable : wholePurchase.Readable true ∧ halfPurchase.Readable true :=
    ⟨⟨.inl rfl, nofun⟩, ⟨.inl rfl, nofun⟩⟩
  obtain ⟨⟨rows, hread, hlength, -⟩, hothers⟩ :=
    csv_content_law true quotedKst [wholePurchase, halfPurchase] _ rfl
  have hexported := hothers [halfPurchase, wholePurchase] rfl (by simp [hreadable])
    (by simp [hreadable])
  exact ⟨_, rows, rfl, rfl, hread, hlength, (List.cons.inj hexported).1⟩

end Trading
