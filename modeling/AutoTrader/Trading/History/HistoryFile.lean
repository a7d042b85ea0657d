import AutoTrader.Support.LineFile
import AutoTrader.Trading.History.TradeRecord

/-!
# The trade history file

The save path and the load of `adapters/persistence/trade_history_repository.py`, over the
bytes of the JSONL file.  What `json.loads` makes of a line is left to a `Json.Reader`.

* `recordBytes` — the bytes of the record of a trade, without its line feed.
* `readLines`, `readHistory` — `_read_history_file`: the trades of a file and how much of
  it is kept.
* `HistoryStore`, `HistoryStore.load`, `HistoryStore.save` — the file with the index over
  it; every append may write any prefix of its bytes before it fails.
* `HistoryRun` — saves, loads and restarts in any order.
* `HistoryFile` — what a file looks like: complete records, each on a line of its own, and
  at most a torn one after them.
* `HistoryRun.recovers_ofEvents` — what the next load returns and leaves of the file.
-/

/-! ## Unique keys -/

mutual

/-- `_build_unique_json_object` accepts every object of the value. -/
def JsonValue.uniqueKeys : JsonValue → Bool
  | .array items => JsonValue.uniqueKeysItems items
  | .object members => decide (members.map Prod.fst).Nodup && JsonValue.uniqueKeysMembers members
  | _ => true

def JsonValue.uniqueKeysItems : List JsonValue → Bool
  | [] => true
  | item :: items => item.uniqueKeys && JsonValue.uniqueKeysItems items

def JsonValue.uniqueKeysMembers : List (String × JsonValue) → Bool
  | [] => true
  | (_, value) :: members => value.uniqueKeys && JsonValue.uniqueKeysMembers members

end

theorem JsonValue.uniqueKeysItems_eq (items : List JsonValue) :
    JsonValue.uniqueKeysItems items = items.all JsonValue.uniqueKeys := by
  induction items with
  | nil => rw [uniqueKeysItems]; rfl
  | cons item items ih => rw [uniqueKeysItems, ih, List.all_cons]

theorem JsonValue.uniqueKeysMembers_eq (members : List (String × JsonValue)) :
    JsonValue.uniqueKeysMembers members = members.all fun member => member.2.uniqueKeys := by
  induction members with
  | nil => rw [uniqueKeysMembers]; rfl
  | cons member members ih => rw [uniqueKeysMembers, ih, List.all_cons]

namespace Trading

open Arithmetic LineFile

/-! ## Records -/

/-- The text of the record of a trade. -/
def recordText (padsYear : Bool) (trade : StoredTrade) : List Char :=
  Json.dumps (.object (tradeToJsonObject padsYear trade))

/-- The record of a trade, without its line feed. -/
def recordBytes (padsYear : Bool) (trade : StoredTrade) : List UInt8 :=
  utf8Encode (recordText padsYear trade)

/-- Why a line is not JSON. -/
inductive JsonLineError where
  | malformed
  | duplicateKey
  deriving DecidableEq, Repr

section Reading

variable [Json.Reader]

/-- `_decode_json_line`, over any reader in the place of `json.loads`. -/
def decodeJsonLine (bytes : List UInt8) : Except JsonLineError JsonValue :=
  match (utf8Decode bytes).bind Json.Reader.loads with
  | some value => if value.uniqueKeys then .ok value else .error .duplicateKey
  | none => .error .malformed

/-- `_trade_from_decoded_json`. -/
def tradeFromDecodedJson (value : JsonValue) : Except TradingError StoredTrade :=
  match value with
  | .object members => tradeFromJsonObject members
  | _ => .error (.typeError "trade record must decode to a JSON object")

instance StoredTrade.Equal.decidable (trade other : StoredTrade) : Decidable (trade.Equal other) :=
  inferInstanceAs (Decidable (_ = _))

/-! ## Reading -/

/-- Why a load or a save raises. -/
inductive HistoryError where
  /-- `HistoryCorruptedError`, with the number of the line. -/
  | corrupted (line : ℕ)
  /-- `OrderHistoryConflictError`. -/
  | conflict (orderId : String)
  /-- The order ID of the call is not that of the trade. -/
  | mismatch
  /-- The file system raised. -/
  | io
  deriving DecidableEq, Repr

/-- The trade of an order in the index, which keeps the order of the file. -/
def findOrder (index : List StoredTrade) (orderId : String) : Option StoredTrade :=
  index.find? fun trade => trade.orderId == orderId

/-- The loop of `_read_history_file`: the trades in the order of their first record, and where
a torn last line starts. -/
def readLines : List Line → ℕ → ℕ → List StoredTrade →
    Except HistoryError (List StoredTrade × Option ℕ)
  | [], _, _, index => .ok (index, none)
  | line :: lines, number, offset, index =>
      if line.bytes.getLast? = some 13 then .error (.corrupted number)
      else match decodeJsonLine line.bytes with
        | .error .malformed =>
            -- `_recover_partial_tail`: only the last line has no line feed
            if line.hasLineFeed then .error (.corrupted number) else .ok (index, some offset)
        | .error .duplicateKey => .error (.corrupted number)
        | .ok value =>
            match tradeFromDecodedJson value with
            | .error _ => .error (.corrupted number)
            | .ok trade =>
                match findOrder index trade.orderId with
                | none => readLines lines (number + 1) (offset + line.length) (index ++ [trade])
                | some existing =>
                    if existing.Equal trade then
                      readLines lines (number + 1) (offset + line.length) index
                    else .error (.conflict trade.orderId)

/-- What a load keeps of a file, and its trades. -/
def readHistory (file : List UInt8) : Except HistoryError (List UInt8 × List StoredTrade) :=
  match readLines (splitLines file) 1 0 [] with
  | .ok (index, none) => .ok (file, index)
  | .ok (index, some offset) => .ok (file.take offset, index)
  | .error error => .error error

/-! ## Loads and saves -/

/-- The file, the index over it while it is loaded, and the orders whose append failed. -/
structure HistoryStore where
  file : List UInt8 := []
  index : Option (List StoredTrade) := none
  uncertainOrderIds : List String := []

/-- What the file system does during a load. -/
inductive LoadIo where
  | completes
  /-- The file cannot be opened. -/
  | openRaises
  /-- The backup of a torn tail, or a read, raises. -/
  | readRaises
  /-- The sync of the truncated file raises. -/
  | syncRaises
  deriving DecidableEq, Repr

/-- `get_trade_history`. A file that does not exist is an empty one. -/
def HistoryStore.load (store : HistoryStore) (io : LoadIo) :
    HistoryStore × Except HistoryError (List StoredTrade) :=
  if io = .openRaises then (store, .error .io)
  else match readHistory store.file with
    | .error error => ({ store with index := none }, .error error)
    | .ok (kept, index) =>
        match io with
        | .completes => ({ store with file := kept, index := some index }, .ok index)
        | .syncRaises => ({ store with file := kept, index := none }, .error .io)
        | _ => ({ store with index := none }, .error .io)

/-- What the file system does during the append of a save. -/
inductive AppendIo where
  | completes
  /-- The end of the file cannot be read, so nothing is written. -/
  | prepareRaises
  /-- The write or the sync raises after some bytes reached the file. -/
  | raises (written : ℕ)
  deriving DecidableEq, Repr

/-- What the file system does during a save. -/
structure SaveIo where
  load : LoadIo := .completes
  append : AppendIo := .completes
  confirms : Bool := true
  deriving DecidableEq, Repr

/-- `_build_append_payload`: a last record without its line feed gets it first. -/
def buildAppendPayload (file record : List UInt8) : List UInt8 :=
  match file.getLast? with
  | none => record
  | some b => if b = lineFeed then record else lineFeed :: record

/-- The bytes a save of a trade appends. -/
def appendPayload (padsYear : Bool) (file : List UInt8) (trade : StoredTrade) : List UInt8 :=
  buildAppendPayload file (recordBytes padsYear trade ++ [lineFeed])

/-- The store after a save, whether the save returned, whether it raised in its append and
whether its append wrote the complete record, its line feed aside. -/
structure SaveReport where
  store : HistoryStore
  returned : Bool := false
  failed : Bool := false
  complete : Bool := false

namespace HistoryStore

/-- The append of a save. -/
def append (padsYear : Bool) (store : HistoryStore) (io : AppendIo) (index : List StoredTrade)
    (trade : StoredTrade) : SaveReport :=
  match io with
  | .prepareRaises => { store := { store with index := some index } }
  | .raises written => {
      store := {
        file := store.file ++ (appendPayload padsYear store.file trade).take written
        index := none
        uncertainOrderIds := trade.orderId :: store.uncertainOrderIds }
      failed := true
      complete := decide ((appendPayload padsYear store.file trade).length ≤ written + 1) }
  | .completes => {
      store := {
        file := store.file ++ appendPayload padsYear store.file trade
        index := some (index ++ [trade])
        uncertainOrderIds := store.uncertainOrderIds.filter (· ≠ trade.orderId) }
      returned := true
      complete := true }

/-- A save while the index is loaded. -/
def saveLoaded (padsYear : Bool) (store : HistoryStore) (io : SaveIo) (index : List StoredTrade)
    (trade : StoredTrade) : SaveReport :=
  match findOrder index trade.orderId with
  | none => store.append padsYear io.append index trade
  | some existing =>
      if existing.Equal trade then
        if trade.orderId ∈ store.uncertainOrderIds then
          -- `_confirm_uncertain_append`
          if io.confirms then {
            store := { store with
              index := some index
              uncertainOrderIds := store.uncertainOrderIds.filter (· ≠ trade.orderId) }
            returned := true }
          else { store := { store with index := none } }
        else { store := { store with index := some index }, returned := true }
      else { store := { store with index := some index } }

/-- `save_this_trade_by_order_id`. -/
def save (padsYear : Bool) (store : HistoryStore) (io : SaveIo) (orderId : String)
    (trade : StoredTrade) : SaveReport :=
  if orderId ≠ trade.orderId then { store := store }
  else match store.index with
    | some index => store.saveLoaded padsYear io index trade
    | none =>
        match store.load io.load with
        | (loaded, .ok index) => loaded.saveLoaded padsYear io index trade
        | (loaded, .error _) => { store := loaded }

end HistoryStore

/-! ## Runs -/

/-- What happens to a history. A process that stops during a save is one whose append raised,
restarted. -/
inductive HistoryEvent where
  | save (io : SaveIo) (orderId : String) (trade : StoredTrade)
  | load (io : LoadIo)
  | restart

/-- The store, and what has happened so far: the trades whose save returned, those whose save
raised in its append, and those whose append wrote the complete record, in that order. -/
structure HistoryRun where
  store : HistoryStore := {}
  acknowledged : List StoredTrade := []
  failed : List StoredTrade := []
  landed : List StoredTrade := []

/-- A trade joins a list. -/
def addIf (condition : Bool) (trade : StoredTrade) (trades : List StoredTrade) :
    List StoredTrade :=
  if condition then trades ++ [trade] else trades

/-- What a save adds to a run. -/
def HistoryRun.report (run : HistoryRun) (trade : StoredTrade) (report : SaveReport) :
    HistoryRun where
  store := report.store
  acknowledged := addIf report.returned trade run.acknowledged
  failed := addIf report.failed trade run.failed
  landed := addIf report.complete trade run.landed

/-- One step of a run. -/
def HistoryRun.step (padsYear : Bool) (run : HistoryRun) : HistoryEvent → HistoryRun
  | .save io orderId trade => run.report trade (run.store.save padsYear io orderId trade)
  | .load io => { run with store := (run.store.load io).1 }
  | .restart => { run with store := { file := run.store.file } }

/-- The run of a list of events, from a history that does not exist yet. -/
def HistoryRun.ofEvents (padsYear : Bool) (events : List HistoryEvent) : HistoryRun :=
  events.foldl (HistoryRun.step padsYear) {}

end Reading

/-! ## What a record is -/

theorem recordText_printable (padsYear : Bool) (trade : StoredTrade) :
    ∀ c ∈ recordText padsYear trade, 32 ≤ c.toNat :=
  Json.printable_dumps _

/-- No byte of a record is a control character. -/
theorem le_of_mem_recordBytes {padsYear : Bool} {trade : StoredTrade} :
    ∀ b ∈ recordBytes padsYear trade, 32 ≤ b.toNat :=
  le_of_mem_utf8Encode (recordText_printable padsYear trade)

theorem lineFeed_notMem {bytes : List UInt8} (h : ∀ b ∈ bytes, 32 ≤ b.toNat) :
    lineFeed ∉ bytes := fun hmem => absurd (h _ hmem) (by decide)

theorem getLast?_ne_carriageReturn {bytes : List UInt8} (h : ∀ b ∈ bytes, 32 ≤ b.toNat) :
    bytes.getLast? ≠ some 13 := fun hlast =>
  absurd (h _ (List.mem_of_getLast? hlast)) (by decide)

theorem uniqueKeys_optionalJson {α : Type} {json : α → JsonValue} {value : Option α}
    (h : ∀ a, (json a).uniqueKeys = true) : (optionalJson json value).uniqueKeys = true := by
  cases value with
  | none => rw [optionalJson, JsonValue.uniqueKeys]; all_goals simp
  | some a => exact h a

@[simp] theorem uniqueKeys_string (text : String) : (JsonValue.string text).uniqueKeys = true := by
  rw [JsonValue.uniqueKeys] <;> simp

@[simp] theorem uniqueKeys_int (n : Int) : (JsonValue.int n).uniqueKeys = true := by
  rw [JsonValue.uniqueKeys] <;> simp

theorem uniqueKeys_object {members : Members} (hkeys : (members.map Prod.fst).Nodup)
    (h : ∀ member ∈ members, member.2.uniqueKeys = true) :
    (JsonValue.object members).uniqueKeys = true := by
  rw [JsonValue.uniqueKeys, JsonValue.uniqueKeysMembers_eq, decide_eq_true hkeys, Bool.true_and,
    List.all_eq_true]
  exact h

theorem uniqueKeys_valuationToRecord (valuation : StoredValuation) :
    (valuationToRecord valuation).uniqueKeys = true := by
  refine uniqueKeys_object (show ["source", "open_time_ms", "close_time_ms", "rate"].Nodup by
    decide) ?_
  simp [decimalJson]

theorem uniqueKeys_fillToRecord (padsYear : Bool) (fill : StoredFill) :
    (fillToRecord padsYear fill).uniqueKeys = true := by
  refine uniqueKeys_object (show ["exchange_order_id", "trade_id", "quantity", "price",
    "fee_amount", "fee_asset", "fee_quote_amount", "executed_at", "fee_valuation"].Nodup by
    decide) ?_
  simp [decimalJson, textJson, timeJson, uniqueKeys_optionalJson uniqueKeys_valuationToRecord]

theorem uniqueKeys_tradeToJsonObject (padsYear : Bool) (trade : StoredTrade) :
    (JsonValue.object (tradeToJsonObject padsYear trade)).uniqueKeys = true := by
  have hbase : ∀ member ∈ tradeBaseMembers padsYear trade, member.2.uniqueKeys = true := by
    have hdecimal : ∀ d, (decimalJson d).uniqueKeys = true := fun d => uniqueKeys_string _
    have hreason : ∀ reason : ExitReason, (textJson reason.wire).uniqueKeys = true :=
      fun reason => uniqueKeys_string _
    simp [tradeBaseMembers, textJson, timeJson, hdecimal, uniqueKeys_optionalJson hdecimal]
    exact uniqueKeys_optionalJson hreason
  refine uniqueKeys_object ?_ ?_
  · rw [keys_tradeToJsonObject]
    split <;> decide
  · unfold tradeToJsonObject
    split
    · refine List.forall_mem_cons.mpr ⟨?_, hbase⟩
      rw [JsonValue.uniqueKeys, JsonValue.uniqueKeysItems_eq, List.all_eq_true]
      intro value hvalue
      obtain ⟨fill, -, rfl⟩ := List.mem_map.mp hvalue
      exact uniqueKeys_fillToRecord padsYear fill
    · exact hbase

theorem recordBytes_ne_nil (padsYear : Bool) (trade : StoredTrade) :
    recordBytes padsYear trade ≠ [] := by
  intro hnil
  have hdecode := utf8Decode_utf8Encode (recordText padsYear trade)
  rw [show utf8Encode (recordText padsYear trade) = [] from hnil,
    show utf8Decode [] = some [] from utf8Decode_utf8Encode []] at hdecode
  have hread := Json.loads_dumps (.object (tradeToJsonObject padsYear trade))
  rw [← recordText, ← Option.some.inj hdecode] at hread
  cases hread

/-! ## What a file is -/

/-- The lines of complete records. -/
def fileLines (padsYear : Bool) (trades : List StoredTrade) : List UInt8 :=
  trades.flatMap fun trade => recordBytes padsYear trade ++ [lineFeed]

theorem fileLines_append (padsYear : Bool) (trades : List StoredTrade) (trade : StoredTrade) :
    fileLines padsYear (trades ++ [trade]) =
      fileLines padsYear trades ++ (recordBytes padsYear trade ++ [lineFeed]) := by
  rw [fileLines, List.flatMap_append, List.flatMap_singleton]
  rfl

/-- A file is `kept ++ torn`: the complete records of the trades, each on a line of its own, the
last one with or without its line feed; after a line feed also the torn beginning of a record. -/
inductive HistoryFile (padsYear : Bool) : List StoredTrade → List UInt8 → List UInt8 → Prop
  | lines (trades : List StoredTrade) :
      HistoryFile padsYear trades (fileLines padsYear trades) []
  | unended (trades : List StoredTrade) (trade : StoredTrade) :
      HistoryFile padsYear (trades ++ [trade])
        (fileLines padsYear trades ++ recordBytes padsYear trade) []
  | torn (trades : List StoredTrade) (trade : StoredTrade) (tail more : List UInt8)
      (htail : tail ≠ []) (hmore : more ≠ []) (h : tail ++ more = recordBytes padsYear trade) :
      HistoryFile padsYear trades (fileLines padsYear trades) tail

/-- Without its torn tail a file has none. -/
theorem HistoryFile.kept {padsYear : Bool} {trades : List StoredTrade} {kept torn : List UInt8}
    (h : HistoryFile padsYear trades kept torn) : HistoryFile padsYear trades kept [] := by
  cases h with
  | lines => exact .lines trades
  | unended trades trade => exact .unended trades trade
  | torn => exact .lines trades

/-! ## What a load reads -/

theorem findOrder_eq_none_iff {index : List StoredTrade} {orderId : String} :
    findOrder index orderId = none ↔ orderId ∉ index.map (·.orderId) := by
  simp only [findOrder, List.find?_eq_none, beq_iff_eq, List.mem_map, not_exists, not_and]

/-- The plain trades of a list. -/
theorem orderIds_plain (trades : List StoredTrade) :
    (trades.map StoredTrade.plain).map (·.orderId) = trades.map (·.orderId) := by
  rw [List.map_map]
  rfl

section Laws

variable [Json.Reader]

/-- A complete record is JSON. -/
theorem decodeJsonLine_recordBytes (padsYear : Bool) (trade : StoredTrade) :
    decodeJsonLine (recordBytes padsYear trade) =
      .ok (.object (tradeToJsonObject padsYear trade)) := by
  rw [decodeJsonLine, recordBytes, utf8Decode_utf8Encode, Option.bind_some, recordText,
    Json.Reader.loads_dumps]
  exact if_pos (uniqueKeys_tradeToJsonObject padsYear trade)

/-- A torn record is not JSON. -/
theorem decodeJsonLine_torn {padsYear : Bool} {trade : StoredTrade} {tail more : List UInt8}
    (h : tail ++ more = recordBytes padsYear trade) (hmore : more ≠ []) :
    decodeJsonLine tail = .error .malformed := by
  have hnone : (utf8Decode tail).bind Json.Reader.loads = none := by
    cases hdecode : utf8Decode tail with
    | none => rfl
    | some chars =>
        obtain ⟨rest, hrest, hne⟩ := utf8Decode_of_append h hdecode
        exact Json.Reader.loads_of_prefix hrest (hne hmore)
  rw [decodeJsonLine, hnone]

/-- A line with the record of a trade of a new order. -/
theorem readLines_record {padsYear : Bool} {trade : StoredTrade} {index : List StoredTrade}
    (hreadable : trade.Readable padsYear) (hnew : findOrder index trade.orderId = none)
    (hasLineFeed : Bool) (lines : List Line) (number offset : ℕ) :
    readLines (⟨recordBytes padsYear trade, hasLineFeed⟩ :: lines) number offset index =
      readLines lines (number + 1)
        (offset + Line.length ⟨recordBytes padsYear trade, hasLineFeed⟩)
        (index ++ [trade.plain]) := by
  have hnew' : findOrder index trade.plain.orderId = none := hnew
  rw [readLines, if_neg (getLast?_ne_carriageReturn le_of_mem_recordBytes),
    decodeJsonLine_recordBytes]
  simp only [tradeFromDecodedJson, tradeFromJsonObject_of_readable hreadable, hnew']

/-- The lines of complete records are read one by one. -/
theorem readLines_fileLines {padsYear : Bool} {trades : List StoredTrade}
    (hreadable : ∀ trade ∈ trades, trade.Readable padsYear) (rest : List UInt8) :
    ∀ before : List StoredTrade, ((before ++ trades).map (·.orderId)).Nodup →
      ∀ number offset, ∃ number',
        readLines (splitLines (fileLines padsYear trades ++ rest)) number offset
            (before.map StoredTrade.plain) =
          readLines (splitLines rest) number' (offset + (fileLines padsYear trades).length)
            ((before ++ trades).map StoredTrade.plain) := by
  induction trades with
  | nil =>
      intro before _ number offset
      exact ⟨number, by simp [fileLines]⟩
  | cons trade trades ih =>
      intro before hnodup number offset
      have hnew : findOrder (before.map StoredTrade.plain) trade.orderId = none := by
        rw [findOrder_eq_none_iff, orderIds_plain]
        rw [List.map_append, List.map_cons, List.nodup_append] at hnodup
        exact fun hmem => hnodup.2.2 _ hmem _ List.mem_cons_self rfl
      have hline : fileLines padsYear (trade :: trades) ++ rest =
          recordBytes padsYear trade ++ lineFeed :: (fileLines padsYear trades ++ rest) := by
        simp [fileLines]
      have hmove : before ++ trade :: trades = before ++ [trade] ++ trades := by simp
      have htrades : ∀ other ∈ trades, other.Readable padsYear := fun other hother =>
        hreadable other (List.mem_cons_of_mem _ hother)
      obtain ⟨number', hread⟩ := ih htrades (before ++ [trade]) (hmove ▸ hnodup) (number + 1)
        (offset + Line.length ⟨recordBytes padsYear trade, true⟩)
      refine ⟨number', ?_⟩
      rw [hline, splitLines_line (lineFeed_notMem le_of_mem_recordBytes),
        readLines_record (hreadable trade List.mem_cons_self) hnew]
      rw [List.map_append, List.map_singleton] at hread
      rw [hread, hmove]
      congr 1
      simp [fileLines, Line.length]
      omega

/-- A load keeps the complete records and returns their trades. -/
theorem HistoryFile.readHistory {padsYear : Bool} {trades : List StoredTrade}
    {kept torn : List UInt8} (h : HistoryFile padsYear trades kept torn)
    (hreadable : ∀ trade ∈ trades, trade.Readable padsYear)
    (hnodup : (trades.map (·.orderId)).Nodup) :
    readHistory (kept ++ torn) = .ok (kept, trades.map StoredTrade.plain) := by
  cases h with
  | lines =>
      obtain ⟨number, hread⟩ := readLines_fileLines hreadable [] [] hnodup 1 0
      rw [List.map_nil, List.nil_append] at hread
      rw [Trading.readHistory, hread]
      simp [splitLines, readLines]
  | unended trades trade =>
      have htrades : ∀ other ∈ trades, other.Readable padsYear := fun other hother =>
        hreadable other (List.mem_append_left _ hother)
      have horders : ((([] : List StoredTrade) ++ trades).map (·.orderId)).Nodup := by
        rw [List.map_append] at hnodup
        exact (List.nodup_append.mp hnodup).1
      obtain ⟨number, hread⟩ :=
        readLines_fileLines htrades (recordBytes padsYear trade) [] horders 1 0
      have hnew : findOrder (trades.map StoredTrade.plain) trade.orderId = none := by
        rw [findOrder_eq_none_iff, orderIds_plain]
        rw [List.map_append, List.nodup_append] at hnodup
        exact fun hmem => hnodup.2.2 _ hmem _ (by simp) rfl
      rw [List.map_nil, List.nil_append,
        splitLines_last (lineFeed_notMem le_of_mem_recordBytes) (recordBytes_ne_nil padsYear trade),
        readLines_record (hreadable trade (by simp)) hnew] at hread
      rw [Trading.readHistory, List.append_nil, hread]
      simp [readLines]
  | torn trades trade torn more htail hmore heq =>
      obtain ⟨number, hread⟩ := readLines_fileLines hreadable torn [] hnodup 1 0
      have hbytes : ∀ b ∈ torn, 32 ≤ b.toNat := by
        intro b hb
        have hmem : b ∈ recordBytes padsYear trade := by
          rw [← heq]
          exact List.mem_append_left _ hb
        exact le_of_mem_recordBytes b hmem
      rw [List.map_nil, List.nil_append, splitLines_last (lineFeed_notMem hbytes) htail, readLines,
        if_neg (getLast?_ne_carriageReturn hbytes), decodeJsonLine_torn heq hmore] at hread
      rw [Trading.readHistory, hread]
      simp

end Laws

/-! ## What an append writes -/

theorem getLast?_fileLines (padsYear : Bool) (trades : List StoredTrade) :
    (fileLines padsYear trades).getLast? = none ∧ trades = [] ∨
      (fileLines padsYear trades).getLast? = some lineFeed := by
  rcases List.eq_nil_or_concat trades with rfl | ⟨trades, trade, rfl⟩
  · exact Or.inl ⟨rfl, rfl⟩
  · right
    rw [List.concat_eq_append, fileLines_append, ← List.append_assoc, List.getLast?_concat]

/-- After a line feed, or at its start, a file gets the record and its line feed. -/
theorem appendPayload_fileLines (padsYear : Bool) (trades : List StoredTrade)
    (trade : StoredTrade) : appendPayload padsYear (fileLines padsYear trades) trade =
      recordBytes padsYear trade ++ [lineFeed] := by
  rcases getLast?_fileLines padsYear trades with ⟨hlast, -⟩ | hlast
  · rw [appendPayload, buildAppendPayload, hlast]
  · rw [appendPayload, buildAppendPayload, hlast]
    exact if_pos rfl

/-- After a record without its line feed, a file gets that first. -/
theorem appendPayload_unended (padsYear : Bool) (trades : List StoredTrade)
    (last trade : StoredTrade) :
    appendPayload padsYear (fileLines padsYear trades ++ recordBytes padsYear last) trade =
      lineFeed :: (recordBytes padsYear trade ++ [lineFeed]) := by
  have hne := recordBytes_ne_nil padsYear last
  have hlast : (fileLines padsYear trades ++ recordBytes padsYear last).getLast? =
      some ((recordBytes padsYear last).getLast hne) := by
    rw [List.getLast?_append_of_ne_nil _ hne, List.getLast?_eq_some_getLast hne]
  have hfeed : (recordBytes padsYear last).getLast hne ≠ lineFeed := fun h =>
    lineFeed_notMem le_of_mem_recordBytes (h ▸ List.getLast_mem hne)
  rw [appendPayload, buildAppendPayload, hlast]
  exact if_neg hfeed

/-- The complete record, its line feed aside, is among the first bytes of the payload. -/
theorem HistoryFile.take_lines (padsYear : Bool) (trades : List StoredTrade) (trade : StoredTrade)
    (written : ℕ) :
    ∃ kept torn, HistoryFile padsYear
        (addIf (decide ((recordBytes padsYear trade).length ≤ written)) trade trades) kept torn ∧
      fileLines padsYear trades ++ (recordBytes padsYear trade ++ [lineFeed]).take written =
        kept ++ torn := by
  by_cases hcomplete : (recordBytes padsYear trade).length ≤ written
  · rw [decide_eq_true hcomplete]
    rcases Nat.eq_or_lt_of_le hcomplete with hlength | hlength
    · refine ⟨_, _, .unended trades trade, ?_⟩
      rw [← hlength, List.take_left, List.append_nil]
    · refine ⟨_, _, .lines (trades ++ [trade]), ?_⟩
      rw [List.take_of_length_le (by simpa using hlength), fileLines_append, List.append_nil]
  · rw [decide_eq_false hcomplete]
    obtain hzero | hpos := Nat.eq_zero_or_pos written
    · exact ⟨_, _, .lines trades, by rw [hzero, List.take_zero]⟩
    · have hle : written ≤ (recordBytes padsYear trade).length := by omega
      refine ⟨_, _, .torn trades trade _ ((recordBytes padsYear trade).drop written) ?_ ?_
        (List.take_append_drop written _), ?_⟩
      · exact List.ne_nil_of_length_pos (by rw [List.length_take]; omega)
      · exact List.ne_nil_of_length_pos (by rw [List.length_drop]; omega)
      · rw [List.take_append_of_le_length hle]

/-- Whatever prefix of its payload an append writes, the file keeps its form, and it has one more
trade exactly when the complete record was written. -/
theorem HistoryFile.take_appendPayload {padsYear : Bool} {trades : List StoredTrade}
    {file : List UInt8} (h : HistoryFile padsYear trades file []) (trade : StoredTrade)
    (written : ℕ) :
    ∃ kept torn, HistoryFile padsYear
        (addIf (decide ((appendPayload padsYear file trade).length ≤ written + 1)) trade trades)
        kept torn ∧
      file ++ (appendPayload padsYear file trade).take written = kept ++ torn := by
  cases h with
  | lines =>
      simp only [appendPayload_fileLines, List.length_append, List.length_singleton,
        Nat.add_le_add_iff_right]
      exact take_lines padsYear trades trade written
  | unended trades last =>
      have hlength : (lineFeed :: (recordBytes padsYear trade ++ [lineFeed])).length =
          (recordBytes padsYear trade).length + 2 := by simp
      simp only [appendPayload_unended, hlength]
      cases written with
      | zero =>
          refine ⟨_, _, ?_, by rw [List.take_zero]⟩
          rw [decide_eq_false (by omega)]
          exact .unended trades last
      | succ written =>
          have hiff : (recordBytes padsYear trade).length + 2 ≤ written + 1 + 1 ↔
              (recordBytes padsYear trade).length ≤ written := by omega
          simp only [hiff]
          obtain ⟨kept, torn, hfile, hbytes⟩ :=
            take_lines padsYear (trades ++ [last]) trade written
          refine ⟨kept, torn, hfile, ?_⟩
          rw [← hbytes, fileLines_append, List.take_succ_cons]
          simp
  | torn trades last tail more htail => exact absurd rfl htail

/-- A complete append leaves a file of complete lines. -/
theorem HistoryFile.appendPayload {padsYear : Bool} {trades : List StoredTrade}
    {file : List UInt8} (h : HistoryFile padsYear trades file []) (trade : StoredTrade) :
    file ++ appendPayload padsYear file trade = fileLines padsYear (trades ++ [trade]) := by
  cases h with
  | lines => rw [appendPayload_fileLines, fileLines_append]
  | unended trades last =>
      rw [appendPayload_unended, fileLines_append, fileLines_append]
      simp
  | torn trades last tail more htail => exact absurd rfl htail

/-! ## What a run preserves -/

theorem StoredTrade.Equal.orderId {trade other : StoredTrade} (h : trade.Equal other) :
    trade.orderId = other.orderId := congrArg TradeFields.orderId h

/-- What a store holds: the complete records on its file, and an index over them while it is
loaded, which it never is over a torn file. -/
structure HistoryStore.Holds (padsYear : Bool) (landed : List StoredTrade)
    (store : HistoryStore) : Prop where
  file : ∃ kept torn, HistoryFile padsYear landed kept torn ∧ store.file = kept ++ torn
  index : ∀ index, store.index = some index →
    List.Forall₂ StoredTrade.Equal index landed ∧ HistoryFile padsYear landed store.file []

/-- What a save reports: the store holds the trades so far and the one of a complete append, which
is of a new order; a save that returns has its trade among them. -/
structure SaveReport.Sound (padsYear : Bool) (landed : List StoredTrade) (trade : StoredTrade)
    (report : SaveReport) : Prop where
  holds : report.store.Holds padsYear (addIf report.complete trade landed)
  fresh : report.complete = true → trade.orderId ∉ landed.map (·.orderId)
  returned : report.returned = true →
    ∃ other ∈ addIf report.complete trade landed, other.Equal trade
  origin : report.complete = true → report.returned = true ∨ report.failed = true

theorem forall₂_equal_plain (trades : List StoredTrade) :
    List.Forall₂ StoredTrade.Equal (trades.map StoredTrade.plain) trades := by
  rw [List.forall₂_map_left_iff, List.forall₂_same]
  exact fun trade _ => trade.plain_equal

theorem orderIds_of_forall₂ {index landed : List StoredTrade}
    (h : List.Forall₂ StoredTrade.Equal index landed) :
    index.map (·.orderId) = landed.map (·.orderId) := by
  induction h with
  | nil => rfl
  | cons hequal _ ih => rw [List.map_cons, List.map_cons, hequal.orderId, ih]

theorem exists_equal_of_forall₂ {index landed : List StoredTrade}
    (h : List.Forall₂ StoredTrade.Equal index landed) :
    ∀ existing ∈ index, ∃ other ∈ landed, existing.Equal other := by
  induction h with
  | nil => simp
  | cons hequal _ ih =>
      intro existing hexisting
      rcases List.mem_cons.mp hexisting with rfl | hexisting
      · exact ⟨_, List.mem_cons_self, hequal⟩
      · obtain ⟨other, hother, h⟩ := ih existing hexisting
        exact ⟨other, List.mem_cons_of_mem _ hother, h⟩

namespace HistoryStore.Holds

variable {padsYear : Bool} {landed : List StoredTrade} {store : HistoryStore}

/-- A store that is not loaded only has its file. -/
theorem unloaded (h : store.Holds padsYear landed) (uncertain : List String) :
    HistoryStore.Holds padsYear landed
      { file := store.file, index := none, uncertainOrderIds := uncertain } :=
  ⟨h.file, fun _ => nofun⟩

/-- The append of a trade of a new order. -/
theorem append (h : store.Holds padsYear landed) {index : List StoredTrade}
    (hindex : store.index = some index) (io : AppendIo) {trade : StoredTrade}
    (hnew : trade.orderId ∉ landed.map (·.orderId)) :
    (store.append padsYear io index trade).Sound padsYear landed trade := by
  obtain ⟨hequal, hfile⟩ := h.index index hindex
  cases io with
  | prepareRaises =>
      have hstore : { store with index := some index } = store := by rw [← hindex]
      refine ⟨?_, fun _ => hnew, nofun, nofun⟩
      rw [HistoryStore.append, hstore]
      exact h
  | raises written =>
      refine ⟨⟨hfile.take_appendPayload trade written, fun _ => nofun⟩,
        fun _ => hnew, nofun, fun _ => Or.inr rfl⟩
  | completes =>
      have hlines := hfile.appendPayload trade
      have hlanded : HistoryFile padsYear (landed ++ [trade])
          (store.file ++ Trading.appendPayload padsYear store.file trade) [] := by
        rw [hlines]
        exact .lines _
      refine ⟨⟨⟨_, _, hlanded, (List.append_nil _).symm⟩, fun index' hindex' => ?_⟩,
        fun _ => hnew, fun _ => ⟨trade, by simp [HistoryStore.append, addIf], rfl⟩,
        fun _ => Or.inl rfl⟩
      rw [← Option.some.inj hindex']
      exact ⟨List.rel_append hequal (.cons rfl .nil), hlanded⟩

/-- A save over a loaded index. -/
theorem saveLoaded (h : store.Holds padsYear landed) {index : List StoredTrade}
    (hindex : store.index = some index) (io : SaveIo) (trade : StoredTrade) :
    (store.saveLoaded padsYear io index trade).Sound padsYear landed trade := by
  obtain ⟨hequal, hfile⟩ := h.index index hindex
  have hunwritten : ∀ uncertain, HistoryStore.Holds padsYear landed
      { file := store.file, index := some index, uncertainOrderIds := uncertain } :=
    fun uncertain => ⟨h.file, fun _ hsome => Option.some.inj hsome ▸ ⟨hequal, hfile⟩⟩
  unfold HistoryStore.saveLoaded
  cases hfind : findOrder index trade.orderId with
  | none =>
      rw [findOrder_eq_none_iff, orderIds_of_forall₂ hequal] at hfind
      exact h.append hindex io.append hfind
  | some existing =>
      have hreturned : existing.Equal trade → ∃ other ∈ landed, other.Equal trade := by
        intro hsame
        obtain ⟨other, hother, hexisting⟩ :=
          exists_equal_of_forall₂ hequal existing (List.mem_of_find?_eq_some hfind)
        exact ⟨other, hother, hexisting.symm.trans hsame⟩
      dsimp only
      split_ifs with hsame hknown hconfirms
      · exact ⟨hunwritten _, nofun, fun _ => hreturned hsame, nofun⟩
      · exact ⟨h.unloaded _, nofun, nofun, nofun⟩
      · exact ⟨hunwritten _, nofun, fun _ => hreturned hsame, nofun⟩
      · exact ⟨hunwritten _, nofun, nofun, nofun⟩

variable [Json.Reader]

/-- A load keeps what the store holds, and returns its trades when nothing raises. -/
theorem load (h : store.Holds padsYear landed)
    (hreadable : ∀ trade ∈ landed, trade.Readable padsYear)
    (hnodup : (landed.map (·.orderId)).Nodup) (io : LoadIo) :
    (store.load io).1.Holds padsYear landed ∧
      ∀ index, (store.load io).2 = .ok index → (store.load io).1.index = some index := by
  obtain ⟨kept, torn, hfile, hbytes⟩ := h.file
  have hread := hfile.readHistory hreadable hnodup
  rw [← hbytes] at hread
  have hkept : ∃ kept' torn', HistoryFile padsYear landed kept' torn' ∧ kept = kept' ++ torn' :=
    ⟨kept, [], hfile.kept, (List.append_nil kept).symm⟩
  by_cases hopen : io = .openRaises
  · rw [HistoryStore.load, if_pos hopen]
    exact ⟨h, fun _ => nofun⟩
  · rw [HistoryStore.load, if_neg hopen, hread]
    cases io with
    | completes =>
        refine ⟨⟨hkept, fun index hindex => ?_⟩, fun index hindex => ?_⟩
        · rw [← Option.some.inj hindex]
          exact ⟨forall₂_equal_plain landed, hfile.kept⟩
        · rw [← Except.ok.inj hindex]
    | openRaises => exact absurd rfl hopen
    | readRaises => exact ⟨h.unloaded _, fun _ => nofun⟩
    | syncRaises =>
        exact ⟨⟨hkept, fun _ => nofun⟩, fun _ => nofun⟩

/-- A save, which loads the index first when it is not there. -/
theorem save (h : store.Holds padsYear landed)
    (hreadable : ∀ trade ∈ landed, trade.Readable padsYear)
    (hnodup : (landed.map (·.orderId)).Nodup) (io : SaveIo) (orderId : String)
    (trade : StoredTrade) :
    (store.save padsYear io orderId trade).Sound padsYear landed trade := by
  have hunsaved : ∀ {store : HistoryStore}, store.Holds padsYear landed →
      SaveReport.Sound padsYear landed trade { store := store } := fun h =>
    ⟨h, nofun, nofun, nofun⟩
  unfold HistoryStore.save
  split
  · exact hunsaved h
  · cases hindex : store.index with
    | some index => exact h.saveLoaded hindex io trade
    | none =>
        obtain ⟨hload, hloaded⟩ := h.load hreadable hnodup io.load
        generalize store.load io.load = result at hload hloaded
        obtain ⟨loaded, index | index⟩ := result
        · exact hunsaved hload
        · exact hload.saveLoaded (hloaded index rfl) io trade

/-- A save of a new order whose append raises after all of its bytes were written. -/
theorem save_raises (h : store.Holds padsYear landed)
    (hreadable : ∀ trade ∈ landed, trade.Readable padsYear)
    (hnodup : (landed.map (·.orderId)).Nodup) {trade : StoredTrade}
    (hnew : trade.orderId ∉ landed.map (·.orderId)) {written : ℕ}
    (hwritten : (recordBytes padsYear trade).length < written) :
    (store.save padsYear { append := .raises written } trade.orderId trade).complete = true ∧
      (store.save padsYear { append := .raises written } trade.orderId trade).returned = false := by
  have hlength : ∀ file, (appendPayload padsYear file trade).length ≤ written + 1 := by
    intro file
    unfold appendPayload buildAppendPayload
    split
    · simpa using hwritten.le
    · split <;> simp <;> omega
  have hloaded : ∀ {store : HistoryStore} {index : List StoredTrade}, store.Holds padsYear landed →
      store.index = some index →
      (store.saveLoaded padsYear { append := .raises written } index trade).complete = true ∧
      (store.saveLoaded padsYear { append := .raises written } index trade).returned = false := by
    intro store index hstore hindex
    have hfind : findOrder index trade.orderId = none := by
      rw [findOrder_eq_none_iff, orderIds_of_forall₂ (hstore.index index hindex).1]
      exact hnew
    rw [HistoryStore.saveLoaded, hfind]
    exact ⟨decide_eq_true (hlength store.file), rfl⟩
  rw [HistoryStore.save, if_neg (not_not.mpr rfl)]
  cases hindex : store.index with
  | some index => exact hloaded h hindex
  | none =>
      obtain ⟨hload, hresult⟩ := h.load hreadable hnodup .completes
      obtain ⟨kept, torn, hfile, hbytes⟩ := h.file
      have hread := hfile.readHistory hreadable hnodup
      rw [← hbytes] at hread
      have hok : (store.load .completes).2 = .ok (landed.map StoredTrade.plain) := by
        rw [HistoryStore.load, if_neg (by decide), hread]
      have hsome := hresult _ hok
      generalize store.load .completes = result at hload hok hsome
      obtain ⟨loaded, index⟩ := result
      simp only at hok hload hsome
      subst hok
      exact hloaded hload hsome

end HistoryStore.Holds

/-- What holds of a run between two of its events. -/
structure HistoryRun.Consistent (padsYear : Bool) (run : HistoryRun) : Prop where
  holds : run.store.Holds padsYear run.landed
  readable : ∀ trade ∈ run.landed, trade.Readable padsYear
  nodup : (run.landed.map (·.orderId)).Nodup
  acknowledged : ∀ trade ∈ run.acknowledged, ∃ other ∈ run.landed, other.Equal trade
  origin : ∀ trade ∈ run.landed, trade ∈ run.acknowledged ∨ trade ∈ run.failed

/-- The trade of a save is one the decoder reads back. -/
def HistoryEvent.Readable (padsYear : Bool) : HistoryEvent → Prop
  | .save _ _ trade => trade.Readable padsYear
  | _ => True

theorem mem_addIf {condition : Bool} {trade other : StoredTrade} {trades : List StoredTrade} :
    other ∈ addIf condition trade trades ↔ other ∈ trades ∨ condition = true ∧ other = trade := by
  unfold addIf
  split <;> simp_all

namespace HistoryRun

variable {padsYear : Bool}

theorem consistent_empty : ({} : HistoryRun).Consistent padsYear where
  holds := ⟨⟨_, _, .lines [], rfl⟩, fun _ => nofun⟩
  readable := by simp
  nodup := List.nodup_nil
  acknowledged := by simp
  origin := by simp

/-- A save is recorded by its report. -/
theorem Consistent.report {run : HistoryRun} (h : run.Consistent padsYear) {trade : StoredTrade}
    (hreadable : trade.Readable padsYear) {report : SaveReport}
    (hsound : report.Sound padsYear run.landed trade) :
    (run.report trade report).Consistent padsYear where
  holds := hsound.holds
  readable := by
    intro other hother
    rcases mem_addIf.mp hother with hother | ⟨-, rfl⟩
    · exact h.readable other hother
    · exact hreadable
  nodup := by
    show ((addIf report.complete trade run.landed).map (·.orderId)).Nodup
    cases hcomplete : report.complete with
    | false => exact h.nodup
    | true =>
        have hfresh := hsound.fresh hcomplete
        rw [addIf, if_pos rfl, List.map_append, List.nodup_append]
        refine ⟨h.nodup, List.nodup_singleton _, fun id hid other hother heq => hfresh ?_⟩
        have horder : other = trade.orderId := List.mem_singleton.mp hother
        rw [← horder, ← heq]
        exact hid
  acknowledged := by
    intro other hother
    rcases mem_addIf.mp hother with hother | ⟨hreturned, rfl⟩
    · obtain ⟨landed, hlanded, hequal⟩ := h.acknowledged other hother
      exact ⟨landed, mem_addIf.mpr (Or.inl hlanded), hequal⟩
    · exact hsound.returned hreturned
  origin := by
    intro other hother
    rcases mem_addIf.mp hother with hother | ⟨hcomplete, rfl⟩
    · rcases h.origin other hother with horigin | horigin
      · exact Or.inl (mem_addIf.mpr (Or.inl horigin))
      · exact Or.inr (mem_addIf.mpr (Or.inl horigin))
    · rcases hsound.origin hcomplete with hreturned | hfailed
      · exact Or.inl (mem_addIf.mpr (Or.inr ⟨hreturned, rfl⟩))
      · exact Or.inr (mem_addIf.mpr (Or.inr ⟨hfailed, rfl⟩))

variable [Json.Reader]

theorem Consistent.step {run : HistoryRun} (h : run.Consistent padsYear) {event : HistoryEvent}
    (hreadable : event.Readable padsYear) : (run.step padsYear event).Consistent padsYear := by
  cases event with
  | save io orderId trade =>
      exact h.report hreadable (h.holds.save h.readable h.nodup io orderId trade)
  | load io => exact { h with holds := (h.holds.load h.readable h.nodup io).1 }
  | restart => exact { h with holds := h.holds.unloaded [] }

theorem Consistent.foldl {run : HistoryRun} (h : run.Consistent padsYear)
    {events : List HistoryEvent} (hreadable : ∀ event ∈ events, event.Readable padsYear) :
    (events.foldl (HistoryRun.step padsYear) run).Consistent padsYear := by
  induction events generalizing run with
  | nil => exact h
  | cons event events ih =>
      obtain ⟨hevent, hevents⟩ := List.forall_mem_cons.mp hreadable
      exact ih (h.step hevent) hevents

/-- What the next load makes of a run. -/
structure Recovers (padsYear : Bool) (run : HistoryRun) : Prop where
  /-- It returns the trades whose complete record was written, in that order. -/
  returns : ∃ trades, (run.store.load .completes).2 = .ok trades ∧
    List.Forall₂ StoredTrade.Equal trades run.landed
  /-- Each order is among them once. -/
  once : (run.landed.map (·.orderId)).Nodup
  /-- Every acknowledged trade is among them. -/
  acknowledged : ∀ trade ∈ run.acknowledged, ∃ other ∈ run.landed, other.Equal trade
  /-- All others are trades whose append failed after their complete record was written. -/
  origin : ∀ trade ∈ run.landed, trade ∈ run.acknowledged ∨ trade ∈ run.failed
  /-- Of the file nothing but a torn tail is removed. -/
  truncates : ∃ torn, run.store.file = (run.store.load .completes).1.file ++ torn ∧
    HistoryFile padsYear run.landed (run.store.load .completes).1.file torn
  /-- A later record gets a line of its own. -/
  freshLine : ∀ trade, (run.store.load .completes).1.file ++
      appendPayload padsYear (run.store.load .completes).1.file trade =
    fileLines padsYear (run.landed ++ [trade])

theorem Consistent.recovers {run : HistoryRun} (h : run.Consistent padsYear) :
    run.Recovers padsYear := by
  obtain ⟨kept, torn, hfile, hbytes⟩ := h.holds.file
  have hload : run.store.load .completes =
      ({ run.store with file := kept, index := some (run.landed.map StoredTrade.plain) },
        .ok (run.landed.map StoredTrade.plain)) := by
    have hread := hfile.readHistory h.readable h.nodup
    rw [← hbytes] at hread
    rw [HistoryStore.load, if_neg (by decide), hread]
  exact {
    returns := ⟨_, by rw [hload], forall₂_equal_plain run.landed⟩
    once := h.nodup
    acknowledged := h.acknowledged
    origin := h.origin
    truncates := ⟨torn, by rw [hload, hbytes], by rw [hload]; exact hfile⟩
    freshLine := fun trade => by rw [hload]; exact hfile.kept.appendPayload trade }

/-- Whatever prefix of its bytes every append writes, wherever the process stops and however often
saves are repeated: the next load returns the trades whose complete record was written, each
once, all acknowledged ones among them; it removes only a torn tail, and the next record starts
on a fresh line. -/
theorem recovers_ofEvents (padsYear : Bool) (events : List HistoryEvent)
    (hreadable : ∀ event ∈ events, event.Readable padsYear) :
    (HistoryRun.ofEvents padsYear events).Recovers padsYear :=
  (consistent_empty.foldl hreadable).recovers

end HistoryRun

namespace HistoryRun

variable {padsYear : Bool}

/-- A purchase of one ETH. -/
def purchase (orderId : String) : TradeValues where
  tradeId := "trade-1"
  orderId := orderId
  clientOrderId := "bat-1"
  executedAt := ⟨⟨2026, 8, 21, 0, 0, 0, 0⟩, by decide⟩
  side := .buy
  regimeType := .type1
  strategy := .caseB
  requestedQuantity := ⟨false, 1, 0⟩
  executedQuantity := ⟨false, 1, 0⟩
  executedAmount := ⟨false, 2000, 0⟩
  averageFillPrice := ⟨false, 2000, 0⟩
  marketPriceAtDecision := some ⟨false, 2000, 0⟩
  feeAmount := ⟨false, 2, 0⟩
  feeAsset := .single .usdt
  feeQuoteAmount := ⟨false, 2, 0⟩

def firstPurchase : StoredTrade := ⟨purchase "7", by decide +kernel⟩

def secondPurchase : StoredTrade := ⟨purchase "8", by decide +kernel⟩

/-- An append is torn after five bytes, the process restarts, and the save is repeated. -/
theorem recovers_torn_purchase :
    (HistoryRun.ofEvents true [.save { append := .raises 5 } "7" firstPurchase, .restart,
      .save {} "7" firstPurchase]).Recovers true := by
  have hreadable : firstPurchase.Readable true := ⟨Or.inl rfl, nofun⟩
  refine recovers_ofEvents true _ ?_
  simp [HistoryEvent.Readable, hreadable]

/-- A save whose append raises after its complete record was written. -/
def unsyncedSave (padsYear : Bool) (trade : StoredTrade) : HistoryEvent :=
  .save { append := .raises ((recordBytes padsYear trade).length + 1) } trade.orderId trade

/-- Of a new order it leaves a trade that is not acknowledged. -/
theorem Consistent.landed_of_unsyncedSave {run : HistoryRun} (h : run.Consistent padsYear)
    (trade : StoredTrade) (hnew : trade.orderId ∉ run.landed.map (·.orderId)) :
    (run.step padsYear (unsyncedSave padsYear trade)).landed = run.landed ++ [trade] ∧
      (run.step padsYear (unsyncedSave padsYear trade)).acknowledged = run.acknowledged := by
  obtain ⟨hcomplete, hreturned⟩ :=
    h.holds.save_raises h.readable h.nodup hnew (Nat.lt_succ_self _)
  constructor
  · show addIf _ trade run.landed = _
    rw [hcomplete]
    rfl
  · show addIf _ trade run.acknowledged = _
    rw [hreturned]
    rfl

/-- Two appends raise after their complete records were written: both trades are loaded, and none
was acknowledged. -/
theorem two_trades_inFlight :
    ¬∀ (padsYear : Bool) (events : List HistoryEvent),
      (∀ event ∈ events, event.Readable padsYear) →
      ∃ (trades : List StoredTrade) (inFlight : Option StoredTrade),
        ((HistoryRun.ofEvents padsYear events).store.load .completes).2 = .ok trades ∧
        (trades.map (·.orderId)).Perm
          (((HistoryRun.ofEvents padsYear events).acknowledged ++ inFlight.toList).map
            (·.orderId)) := by
  intro h
  have hfirst : (unsyncedSave true firstPurchase).Readable true := ⟨Or.inl rfl, nofun⟩
  have hsecond : (unsyncedSave true secondPurchase).Readable true := ⟨Or.inl rfl, nofun⟩
  have hreadable : ∀ event ∈ [unsyncedSave true firstPurchase, unsyncedSave true secondPurchase],
      event.Readable true := by
    simp [hfirst, hsecond]
  obtain ⟨trades, inFlight, hload, hperm⟩ := h true _ hreadable
  have hempty : ({} : HistoryRun).Consistent true := consistent_empty
  obtain ⟨hlanded, hacknowledged⟩ := hempty.landed_of_unsyncedSave firstPurchase (by simp)
  obtain ⟨hlanded', hacknowledged'⟩ := (hempty.step hfirst).landed_of_unsyncedSave secondPurchase
    (by rw [hlanded]; decide)
  obtain ⟨trades', hload', hequal⟩ := (consistent_empty.foldl hreadable).recovers.returns
  have hlength := hequal.length_eq
  have hlength' := hperm.length_eq
  rw [← Except.ok.inj (hload.symm.trans hload')] at hlength
  simp only [HistoryRun.ofEvents, List.foldl_cons, List.foldl_nil, hlanded', hlanded,
    hacknowledged', hacknowledged, List.length_map, List.length_append, List.length_singleton,
    List.length_nil] at hlength hlength'
  have hoption : inFlight.toList.length ≤ 1 := by cases inFlight <;> simp
  omega

end HistoryRun

end Trading
