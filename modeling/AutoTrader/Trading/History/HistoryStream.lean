import AutoTrader.Trading.History.HistoryFile
import AutoTrader.Trading.History.Performance

/-!
# The stream of the trade history

`stream_trades` of `adapters/persistence/trade_history_repository.py`, which reads the file of the
history line by line while saves append to it, and `TradeHistory.find` of
`domain/history/trade_history.py`.

* `TradeHistoryQuery`, `findTrades` — the query over the trades of a load.
* `TradeStream`, `HistoryStore.streamTrades` — what the stream fixes when it is made.
* `TradeStream.readRecord` — one line, against the index and the order list of the store.
* `StreamRun` — lines of the stream and saves in any order.
* `HistoryStore.Indexed` — what the store and its file have in common.
* `StreamRun.result_foldl` — a stream that is consumed yields what the query finds.
-/

namespace Trading

open LineFile

/-! ## The query -/

inductive TradeSide where
  | all
  | buy
  | sell
  deriving DecidableEq, Repr

/-- `TradeHistoryQuery`: the first and the last date in Seoul, and the side. -/
structure TradeHistoryQuery where
  startDate : ℤ
  endDate : ℤ
  side : TradeSide := .all
  ordered : startDate ≤ endDate

/-- Why a query or a stream raises. -/
inductive StreamError where
  | history (error : HistoryError)
  /-- `HistoryCorruptedError` with `SnapshotChanged`. -/
  | snapshotChanged
  /-- `OverflowError`: the time in Seoul is after the last representable one. -/
  | overflow
  deriving DecidableEq, Repr

/-- `datetime.max` in microseconds since 1970. -/
def maxTimestamp : Timestamp := 253402300799999999

/-- `executed_at.astimezone(KST).date()`. -/
def executedDate (trade : StoredTrade) : Except StreamError ℤ :=
  if trade.executedAt.timestamp + 9 * 3600000000 ≤ maxTimestamp then
    .ok (kstDate trade.executedAt.timestamp)
  else .error .overflow

/-- Whether a side asks for the orders of another. -/
def TradeSide.Admits : TradeSide → OrderSide → Prop
  | .all, _ => True
  | .buy, side => side = .buy
  | .sell, side => side = .sell

instance (side : TradeSide) (other : OrderSide) : Decidable (side.Admits other) := by
  cases side <;> unfold TradeSide.Admits <;> infer_instance

/-- The conditions of a query on a trade. -/
def TradeHistoryQuery.selects (query : TradeHistoryQuery) (trade : StoredTrade) :
    Except StreamError Bool :=
  match executedDate trade with
  | .error error => .error error
  | .ok date => .ok (decide (query.startDate ≤ date ∧ date ≤ query.endDate ∧
      query.side.Admits trade.side))

/-- The loop of `find`. -/
def findLoop (query : TradeHistoryQuery) (matching : List StoredTrade) :
    List StoredTrade → Except StreamError (List StoredTrade)
  | [] => .ok matching
  | trade :: trades => do
      let selected ← query.selects trade
      findLoop query (if selected then matching ++ [trade] else matching) trades

theorem findLoop_of_error {query : TradeHistoryQuery} {trade : StoredTrade} {error : StreamError}
    (h : query.selects trade = .error error) (matching trades : List StoredTrade) :
    findLoop query matching (trade :: trades) = .error error := by
  rw [findLoop, h, Except.error_bind]

theorem findLoop_of_ok {query : TradeHistoryQuery} {trade : StoredTrade} {selected : Bool}
    (h : query.selects trade = .ok selected) (matching trades : List StoredTrade) :
    findLoop query matching (trade :: trades) =
      findLoop query (matching ++ (if selected then some trade else none).toList) trades := by
  rw [findLoop, h, Except.ok_bind]
  cases selected with
  | true => rfl
  | false => rw [if_neg Bool.false_ne_true, if_neg Bool.false_ne_true, Option.toList_none,
      List.append_nil]

/-- `TradeHistory.find`. -/
def findTrades (query : TradeHistoryQuery) (trades : List StoredTrade) :
    Except StreamError (List StoredTrade) :=
  findLoop query [] trades

/-! ## Equal indices -/

theorem findOrder_append {index : List StoredTrade} {orderId : String} {trade : StoredTrade}
    (h : findOrder index orderId = some trade) (more : List StoredTrade) :
    findOrder (index ++ more) orderId = some trade := by
  unfold findOrder at h ⊢
  rw [List.find?_append, h, Option.some_or]

/-- Equal trades are found under the same order. -/
theorem findOrder_of_forall₂ {index trades : List StoredTrade}
    (h : List.Forall₂ StoredTrade.Equal index trades) {orderId : String} {trade : StoredTrade}
    (hfind : findOrder trades orderId = some trade) :
    ∃ canonical, findOrder index orderId = some canonical ∧ canonical.Equal trade := by
  induction h with
  | nil => cases hfind
  | @cons first other index trades hequal _ ih =>
      unfold findOrder at hfind ih ⊢
      rw [List.find?_cons] at hfind ⊢
      rw [hequal.orderId]
      by_cases hsame : (other.orderId == orderId) = true
      · rw [hsame] at hfind ⊢
        obtain rfl := Option.some.inj hfind
        exact ⟨first, rfl, hequal⟩
      · rw [Bool.not_eq_true] at hsame
        rw [hsame] at hfind ⊢
        exact ih hfind

theorem forall₂_equal_refl (trades : List StoredTrade) :
    List.Forall₂ StoredTrade.Equal trades trades :=
  List.forall₂_same.mpr fun trade _ => Eq.refl trade.fields

/-! ## The stream -/

section Reading

variable [Json.Reader]

/-- What a stream fixes when it is made, and where it is: the index and the order list it reads are
those of the store. -/
structure TradeStream where
  query : TradeHistoryQuery
  snapshotLength : ℕ
  snapshotOrderCount : ℕ
  position : ℕ := 0
  lineNumber : ℕ := 0
  nextOrderIndex : ℕ := 0

/-- `_ordered_order_ids`: the orders of the index, in the order of their first records. -/
def orderedOrderIds (index : List StoredTrade) : List String := index.map (·.orderId)

namespace HistoryStore

/-- `len(_ordered_order_ids)` and the length of the file, at the time of the call. -/
def snapshot (store : HistoryStore) (query : TradeHistoryQuery) (index : List StoredTrade) :
    TradeStream where
  query := query
  snapshotLength := store.file.length
  snapshotOrderCount := (orderedOrderIds index).length

/-- `stream_trades`: the index is only read again when it is not loaded. -/
def streamTrades (store : HistoryStore) (io : LoadIo) (query : TradeHistoryQuery) :
    HistoryStore × Except HistoryError TradeStream :=
  match store.index with
  | some index =>
      match io with
      | .completes => (store, .ok (store.snapshot query index))
      | .openRaises => (store, .error .io)
      | _ => ({ store with index := none }, .error .io)
  | none =>
      match store.load io with
      | (loaded, .ok index) => (loaded, .ok (loaded.snapshot query index))
      | (loaded, .error error) => (loaded, .error error)

end HistoryStore

namespace TradeStream

/-- `readline` of what is left of the snapshot. -/
def readline (stream : TradeStream) (file : List UInt8) : Option Line :=
  (splitLines ((file.drop stream.position).take
    (stream.snapshotLength - stream.position))).head?

/-- The trade of a line. -/
def decodeRecord (line : Line) (number : ℕ) : Except StreamError StoredTrade :=
  if line.bytes.getLast? = some 13 then .error (.history (.corrupted number))
  else match decodeJsonLine line.bytes with
    | .error _ => .error (.history (.corrupted number))
    | .ok value =>
        match tradeFromDecodedJson value with
        | .error _ => .error (.history (.corrupted number))
        | .ok trade => .ok trade

/-- Whether a trade is the next one whose first record is expected. -/
def IsFirstRecord (stream : TradeStream) (index : List StoredTrade) (trade : StoredTrade) : Prop :=
  stream.nextOrderIndex < stream.snapshotOrderCount ∧
    (orderedOrderIds index)[stream.nextOrderIndex]? = some trade.orderId

instance (stream : TradeStream) (index : List StoredTrade) (trade : StoredTrade) :
    Decidable (stream.IsFirstRecord index trade) := inferInstanceAs (Decidable (_ ∧ _))

/-- The trade a record of the stream yields, when its content is that of the index. -/
def yieldRecord (stream : TradeStream) (index : List StoredTrade) (trade : StoredTrade) :
    Except StreamError (TradeStream × Option StoredTrade) :=
  match findOrder index trade.orderId with
  | none => .error (.history (.conflict trade.orderId))
  | some canonical =>
      if ¬canonical.Equal trade then .error (.history (.conflict trade.orderId))
      else if ¬stream.IsFirstRecord index trade then .ok (stream, none)
      else
        match stream.query.selects trade with
        | .error error => .error error
        | .ok selected => .ok ({ stream with nextOrderIndex := stream.nextOrderIndex + 1 },
            if selected then some trade else none)

/-- The stream behind a line. -/
def advance (stream : TradeStream) (line : Line) : TradeStream :=
  { stream with
    position := stream.position + line.length
    lineNumber := stream.lineNumber + 1 }

/-- One line of `_stream_history_snapshot`. -/
def readRecord (stream : TradeStream) (file : List UInt8) (index : List StoredTrade) :
    Except StreamError (TradeStream × Option StoredTrade) :=
  match stream.readline file with
  | none => .error .snapshotChanged
  | some line =>
      match decodeRecord line (stream.lineNumber + 1) with
      | .error error => .error error
      | .ok trade => (stream.advance line).yieldRecord index trade

end TradeStream

/-! ## Runs -/

/-- A stream over a store, what it yielded and, once it has ended, how. -/
structure StreamRun where
  store : HistoryStore
  stream : TradeStream
  yielded : List StoredTrade := []
  ended : Option (Except StreamError Unit) := none

/-- A save whose append completes, or the next turn of the loop of the stream. -/
inductive StreamEvent where
  | save (orderId : String) (trade : StoredTrade)
  | next

def StreamEvent.isNext : StreamEvent → Bool
  | .save _ _ => false
  | .next => true

namespace StreamRun

/-- One turn of the loop. -/
def next (run : StreamRun) : StreamRun :=
  if run.stream.position < run.stream.snapshotLength then
    match run.stream.readRecord run.store.file (run.store.index.getD []) with
    | .error error => { run with ended := some (.error error) }
    | .ok (stream, yielded) =>
        { run with stream := stream, yielded := run.yielded ++ yielded.toList }
  else if run.stream.nextOrderIndex = run.stream.snapshotOrderCount then
    { run with ended := some (.ok ()) }
  else { run with ended := some (.error .snapshotChanged) }

/-- One event of a run. A stream that has ended stays so. -/
def step (padsYear : Bool) (run : StreamRun) : StreamEvent → StreamRun
  | .save orderId trade => { run with store := (run.store.save padsYear {} orderId trade).store }
  | .next => if run.ended = none then run.next else run

/-- What a stream that has ended yielded. -/
def result (run : StreamRun) : Option (Except StreamError (List StoredTrade)) :=
  run.ended.map fun outcome => outcome.map fun _ => run.yielded

end StreamRun

/-! ## What a load read -/

/-- A line of a load that was accepted: a torn end, a new order or a repetition of a known one. -/
theorem readLines_step {line : Line} {lines : List Line} {number offset : ℕ}
    {seen : List StoredTrade} {result : List StoredTrade × Option ℕ}
    (h : readLines (line :: lines) number offset seen = .ok result) :
    result = (seen, some offset) ∨ ∃ trade seen',
      (∀ number, TradeStream.decodeRecord line number = .ok trade) ∧
      (findOrder seen trade.orderId = none ∧ seen' = seen ++ [trade] ∨
        (∃ existing, findOrder seen trade.orderId = some existing ∧ existing.Equal trade) ∧
          seen' = seen) ∧
      ∀ lines, readLines (line :: lines) number offset seen =
        readLines lines (number + 1) (offset + line.length) seen' := by
  simp only [readLines] at h ⊢
  split at h
  · cases h
  · rename_i hreturn
    cases hdecode : decodeJsonLine line.bytes with
    | error reason =>
        rw [hdecode] at h
        cases reason with
        | malformed =>
            dsimp only at h
            split at h
            · cases h
            · exact .inl (Except.ok.inj h).symm
        | duplicateKey => cases h
    | ok value =>
        rw [hdecode] at h
        dsimp only at h
        cases htrade : tradeFromDecodedJson value with
        | error reason =>
            rw [htrade] at h
            cases h
        | ok trade =>
            rw [htrade] at h
            dsimp only at h
            have hrecord : ∀ number, TradeStream.decodeRecord line number = .ok trade := by
              intro number
              rw [TradeStream.decodeRecord, if_neg hreturn, hdecode]
              simp only [htrade]
            refine .inr ⟨trade, ?_⟩
            cases hfind : findOrder seen trade.orderId with
            | none =>
                refine ⟨seen ++ [trade], hrecord, .inl ⟨rfl, rfl⟩, fun lines => ?_⟩
                simp only [if_neg hreturn, htrade, hfind]
            | some existing =>
                rw [hfind] at h
                dsimp only at h
                split at h
                · rename_i hequal
                  refine ⟨seen, hrecord, .inr ⟨⟨existing, rfl, hequal⟩, rfl⟩, fun lines => ?_⟩
                  simp only [if_neg hreturn, htrade, hfind, if_pos hequal]
                · cases h

/-- A line of a file without a torn end. -/
theorem readLines_cons_ok {line : Line} {lines : List Line} {number offset : ℕ}
    {seen trades : List StoredTrade}
    (h : readLines (line :: lines) number offset seen = .ok (trades, none)) :
    ∃ trade, (∀ number, TradeStream.decodeRecord line number = .ok trade) ∧
      (findOrder seen trade.orderId = none ∧
          readLines lines (number + 1) (offset + line.length) (seen ++ [trade]) =
            .ok (trades, none) ∨
        (∃ existing, findOrder seen trade.orderId = some existing ∧ existing.Equal trade) ∧
          readLines lines (number + 1) (offset + line.length) seen = .ok (trades, none)) := by
  obtain htorn | ⟨trade, seen', hrecord, hcases, hstep⟩ := readLines_step h
  · cases htorn
  · refine ⟨trade, hrecord, ?_⟩
    rw [hstep] at h
    obtain ⟨hnew, rfl⟩ | ⟨hknown, rfl⟩ := hcases
    · exact .inl ⟨hnew, h⟩
    · exact .inr ⟨hknown, h⟩

/-- The lines before a torn end are read without it. -/
theorem readLines_torn {lines : List Line} {number offset torn : ℕ} {seen trades : List StoredTrade}
    (h : readLines lines number offset seen = .ok (trades, some torn)) :
    ∃ whole rest, lines = whole ++ rest ∧ rest ≠ [] ∧
      torn = offset + (whole.flatMap Line.toBytes).length ∧
      readLines whole number offset seen = .ok (trades, none) := by
  induction lines generalizing number offset seen with
  | nil => cases h
  | cons line lines ih =>
      obtain htorn | ⟨trade, seen', -, -, hstep⟩ := readLines_step h
      · obtain ⟨rfl, hoffset⟩ := Prod.mk.inj htorn
        exact ⟨[], line :: lines, rfl, List.cons_ne_nil _ _, Option.some.inj hoffset, rfl⟩
      · rw [hstep] at h
        obtain ⟨whole, rest, rfl, hrest, rfl, hread⟩ := ih h
        refine ⟨line :: whole, rest, rfl, hrest, ?_, (hstep whole).trans hread⟩
        rw [List.flatMap_cons, List.length_append, length_toBytes, Nat.add_assoc]

/-- What a load keeps of a file is read again as it was. -/
theorem readLines_of_readHistory {file kept : List UInt8} {trades : List StoredTrade}
    (h : readHistory file = .ok (kept, trades)) :
    readLines (splitLines kept) 1 0 [] = .ok (trades, none) := by
  rw [readHistory] at h
  cases hread : readLines (splitLines file) 1 0 [] with
  | error error =>
      rw [hread] at h
      cases h
  | ok result =>
      obtain ⟨index, _ | torn⟩ := result
      · rw [hread] at h
        obtain ⟨rfl, rfl⟩ := Prod.mk.inj (Except.ok.inj h)
        exact hread
      · obtain ⟨whole, rest, hlines, hrest, rfl, hwhole⟩ := readLines_torn hread
        rw [hread] at h
        obtain ⟨rfl, rfl⟩ := Prod.mk.inj (Except.ok.inj h)
        have hkept : file.take (0 + (whole.flatMap Line.toBytes).length) =
            whole.flatMap Line.toBytes := by
          rw [← flatMap_splitLines file, hlines, List.flatMap_append, Nat.zero_add, List.take_left]
        have hsplit := splitLines_flatMap (hasLineFeed_of_append hlines hrest) []
        rw [List.append_nil, splitLines, List.append_nil] at hsplit
        rw [hkept, hsplit]
        exact hwhole

/-- The trades so far are the first ones of a load. -/
theorem prefix_of_readLines {lines : List Line} {number offset : ℕ}
    {seen trades : List StoredTrade}
    (h : readLines lines number offset seen = .ok (trades, none)) : seen <+: trades := by
  induction lines generalizing number offset seen with
  | nil =>
      obtain ⟨rfl, -⟩ := Prod.mk.inj (Except.ok.inj h)
      exact List.prefix_rfl
  | cons line lines ih =>
      obtain ⟨trade, -, ⟨-, hrest⟩ | ⟨-, hrest⟩⟩ := readLines_cons_ok h
      · exact (List.prefix_append seen [trade]).trans (ih hrest)
      · exact ih hrest

/-- No order is twice in the index of a load. -/
theorem nodup_of_readLines {lines : List Line} {number offset : ℕ}
    {seen trades : List StoredTrade} (hseen : (orderedOrderIds seen).Nodup)
    (h : readLines lines number offset seen = .ok (trades, none)) :
    (orderedOrderIds trades).Nodup := by
  induction lines generalizing number offset seen with
  | nil =>
      obtain ⟨rfl, -⟩ := Prod.mk.inj (Except.ok.inj h)
      exact hseen
  | cons line lines ih =>
      obtain ⟨trade, -, ⟨hnew, hrest⟩ | ⟨-, hrest⟩⟩ := readLines_cons_ok h
      · refine ih ?_ hrest
        rw [orderedOrderIds, List.map_append, List.nodup_append]
        refine ⟨hseen, List.nodup_singleton _, ?_⟩
        intro orderId hmem other hother hequal
        rw [List.map_singleton, List.mem_singleton] at hother
        exact findOrder_eq_none_iff.mp hnew (hother ▸ hequal ▸ hmem)
      · exact ih hseen hrest

/-! ## What the stream finds in the index -/

/-- A save whose append completes only adds to the file and to the index. -/
theorem HistoryStore.save_completes (padsYear : Bool) {store : HistoryStore}
    {index : List StoredTrade} (hindex : store.index = some index) (orderId : String)
    (trade : StoredTrade) :
    ∃ more added, (store.save padsYear {} orderId trade).store.file = store.file ++ more ∧
      (store.save padsYear {} orderId trade).store.index = some (index ++ added) := by
  have hsame : ∃ more added, store.file = store.file ++ more ∧
      some index = some (index ++ added) := ⟨[], [], by simp, by simp⟩
  unfold HistoryStore.save
  by_cases hmatch : orderId = trade.orderId
  · rw [if_neg (not_not.mpr hmatch), hindex]
    dsimp only [HistoryStore.saveLoaded]
    cases hfind : findOrder index trade.orderId with
    | none => exact ⟨_, [trade], rfl, rfl⟩
    | some existing =>
        simp only [if_true]
        split_ifs <;> exact hsame
  · rw [if_pos hmatch, hindex]
    exact hsame

/-! ## What the events preserve -/

namespace StreamRun

variable {query : TradeHistoryQuery} {trades : List StoredTrade}

/-- An open stream over what a load read: `unread` is what is left of its snapshot. -/
structure Follows (query : TradeHistoryQuery) (trades : List StoredTrade) (unread : List UInt8)
    (run : StreamRun) : Prop where
  running : run.ended = none
  asked : run.stream.query = query
  count : run.stream.snapshotOrderCount = trades.length
  file : ∃ read more, run.store.file = read ++ unread ++ more ∧
    run.stream.position = read.length ∧ run.stream.snapshotLength = (read ++ unread).length
  index : ∃ index, run.store.index = some index ∧
    List.Forall₂ StoredTrade.Equal (index.take trades.length) trades
  lines : ∃ seen number offset,
    readLines (splitLines unread) number offset seen = .ok (trades, none) ∧
      run.stream.nextOrderIndex = seen.length ∧
      findLoop query run.yielded (trades.drop seen.length) = findTrades query trades
  distinct : (orderedOrderIds trades).Nodup

variable {unread : List UInt8} {run : StreamRun}

/-- A save leaves what the stream reads. -/
theorem Follows.save (h : run.Follows query trades unread) (padsYear : Bool) (orderId : String)
    (trade : StoredTrade) :
    (run.step padsYear (.save orderId trade)).Follows query trades unread := by
  obtain ⟨read, more, hfile, hposition, hlength⟩ := h.file
  obtain ⟨index, hindex, hequal⟩ := h.index
  obtain ⟨written, added, hwritten, hadded⟩ :=
    HistoryStore.save_completes padsYear hindex orderId trade
  refine ⟨h.running, h.asked, h.count, ⟨read, more ++ written, ?_, hposition, hlength⟩,
    ⟨index ++ added, hadded, ?_⟩, h.lines, h.distinct⟩
  · rw [StreamRun.step, hwritten, hfile, List.append_assoc (read ++ unread)]
  · have hle : trades.length ≤ index.length := by
      have htake := hequal.length_eq
      rw [List.length_take] at htake
      omega
    rw [List.take_append_of_le_length hle]
    exact hequal

/-- The line the stream reads next. -/
theorem Follows.readline (h : run.Follows query trades unread) :
    run.stream.readline run.store.file = (splitLines unread).head? := by
  obtain ⟨read, more, hfile, hposition, hlength⟩ := h.file
  have hleft : (read ++ unread).length - read.length = unread.length := by simp
  rw [TradeStream.readline, hfile, hposition, hlength, hleft, List.append_assoc, List.drop_left,
    List.take_left]

/-- The trade of a line is in the index as the load read it. -/
theorem Follows.canonical (h : run.Follows query trades unread) {trade known : StoredTrade}
    (hfind : findOrder trades trade.orderId = some known) (hknown : known.Equal trade) :
    ∃ index canonical, run.store.index = some index ∧
      findOrder index trade.orderId = some canonical ∧ canonical.Equal trade ∧
      ∀ i < trades.length, (orderedOrderIds index)[i]? = (orderedOrderIds trades)[i]? := by
  obtain ⟨index, hindex, hequal⟩ := h.index
  obtain ⟨canonical, hcanonical, hsame⟩ := findOrder_of_forall₂ hequal hfind
  have hall := findOrder_append hcanonical (index.drop trades.length)
  rw [List.take_append_drop] at hall
  refine ⟨index, canonical, hindex, hall, hsame.trans hknown, ?_⟩
  intro i hi
  have hids := orderIds_of_forall₂ hequal
  rw [orderedOrderIds, orderedOrderIds, ← hids, List.map_take, List.getElem?_take_of_lt hi]

/-- Before the end of its snapshot the stream reads the next line. -/
theorem Follows.position_lt (h : run.Follows query trades unread) {line : Line} {lines : List Line}
    (hcons : splitLines unread = line :: lines) :
    run.stream.position < run.stream.snapshotLength := by
  obtain ⟨read, more, -, hposition, hlength⟩ := h.file
  have hne : unread ≠ [] := by
    rintro rfl
    cases hcons
  have hpos := List.length_pos_iff.mpr hne
  rw [hposition, hlength, List.length_append]
  omega

/-- What is left of the snapshot after a line. -/
theorem Follows.advance (h : run.Follows query trades unread) {line : Line} {lines : List Line}
    (hcons : splitLines unread = line :: lines) :
    ∃ read more, run.store.file = read ++ lines.flatMap Line.toBytes ++ more ∧
      (run.stream.advance line).position = read.length ∧
      (run.stream.advance line).snapshotLength = (read ++ lines.flatMap Line.toBytes).length := by
  obtain ⟨read, more, hfile, hposition, hlength⟩ := h.file
  obtain ⟨hbytes, -⟩ := splitLines_tail hcons
  refine ⟨read ++ line.toBytes, more, ?_, ?_, ?_⟩
  · rw [hfile, hbytes, ← List.append_assoc read]
  · rw [TradeStream.advance, hposition, List.length_append, length_toBytes]
  · rw [TradeStream.advance, hlength, hbytes, ← List.append_assoc read]

/-- The next turn of the loop, when it reads a record of the snapshot. -/
theorem Follows.next_eq (h : run.Follows query trades unread) {line : Line} {lines : List Line}
    (hcons : splitLines unread = line :: lines) {trade : StoredTrade}
    (hrecord : ∀ number, TradeStream.decodeRecord line number = .ok trade)
    {index : List StoredTrade} (hindex : run.store.index = some index) :
    run.next = match (run.stream.advance line).yieldRecord index trade with
      | .error error => { run with ended := some (.error error) }
      | .ok (stream, yielded) =>
          { run with stream := stream, yielded := run.yielded ++ yielded.toList } := by
  have hline : run.stream.readline run.store.file = some line := by
    rw [h.readline, hcons, List.head?_cons]
  have hread : run.stream.readRecord run.store.file index =
      (run.stream.advance line).yieldRecord index trade := by
    rw [TradeStream.readRecord, hline]
    simp only [hrecord]
  rw [next, if_pos (h.position_lt hcons), hindex, Option.getD_some, hread]

/-- A turn at the end of the snapshot: the stream ends, and has yielded what the query finds. -/
theorem Follows.next_nil (h : run.Follows query trades unread) (hnil : splitLines unread = []) :
    run.next.result = some (findTrades query trades) := by
  obtain ⟨read, more, hfile, hposition, hlength⟩ := h.file
  obtain ⟨seen, number, offset, hread, horder, hfind⟩ := h.lines
  have hunread : unread = [] := by rw [← flatMap_splitLines unread, hnil, List.flatMap_nil]
  have hend : ¬run.stream.position < run.stream.snapshotLength := by
    rw [hposition, hlength, hunread, List.append_nil]
    exact lt_irrefl _
  rw [hnil] at hread
  obtain ⟨rfl, -⟩ := Prod.mk.inj (Except.ok.inj hread)
  rw [List.drop_length] at hfind
  rw [next, if_neg hend, if_pos (horder.trans h.count.symm)]
  exact congrArg some hfind

/-- A turn that reads the first record of an order, which is the next trade of the load. -/
theorem Follows.next_first (h : run.Follows query trades unread) {line : Line} {lines : List Line}
    (hcons : splitLines unread = line :: lines) {trade : StoredTrade}
    (hrecord : ∀ number, TradeStream.decodeRecord line number = .ok trade)
    {seen : List StoredTrade} {number offset : ℕ} (hnew : findOrder seen trade.orderId = none)
    (hrest : readLines lines number offset (seen ++ [trade]) = .ok (trades, none))
    (horder : run.stream.nextOrderIndex = seen.length)
    (hfind : findLoop query run.yielded (trades.drop seen.length) = findTrades query trades) :
    run.next.result = some (findTrades query trades) ∨
      run.next.Follows query trades (lines.flatMap Line.toBytes) := by
  obtain ⟨later, hlater⟩ := prefix_of_readLines hrest
  have hknown : findOrder trades trade.orderId = some trade := by
    rw [← hlater]
    refine findOrder_append ?_ later
    unfold findOrder at hnew ⊢
    rw [List.find?_append, hnew, Option.none_or, List.find?_singleton, beq_self_eq_true]
    rfl
  obtain ⟨index, canonical, hindex, hcanonical, hsame, hids⟩ :=
    h.canonical hknown (Eq.refl trade.fields)
  have hdrop : trades.drop seen.length = trade :: later := by
    rw [← hlater, List.append_assoc, List.drop_left, List.singleton_append]
  have hdrop' : trades.drop (seen.length + 1) = later := by
    rw [← List.drop_drop, hdrop, List.drop_one, List.tail_cons]
  have hless : seen.length < trades.length := by
    by_contra hge
    rw [List.drop_eq_nil_of_le (not_lt.mp hge)] at hdrop
    cases hdrop
  have hget : trades[seen.length]? = some trade := by
    rw [← Nat.add_zero seen.length, ← List.getElem?_drop, hdrop, List.getElem?_cons_zero]
  have hfirst : (run.stream.advance line).IsFirstRecord index trade := by
    refine ⟨?_, ?_⟩
    · rw [TradeStream.advance, horder, h.count]
      exact hless
    · rw [TradeStream.advance, horder, hids _ hless, orderedOrderIds, List.getElem?_map, hget]
      rfl
  have hasked : (run.stream.advance line).query.selects trade = query.selects trade := by
    rw [← h.asked]
    rfl
  rw [hdrop] at hfind
  cases hselects : query.selects trade with
  | error error =>
      have hyield : (run.stream.advance line).yieldRecord index trade = .error error := by
        rw [TradeStream.yieldRecord, hcanonical]
        dsimp only
        rw [if_neg (not_not.mpr hsame), if_neg (not_not.mpr hfirst), hasked, hselects]
      rw [h.next_eq hcons hrecord hindex, hyield]
      rw [findLoop_of_error hselects] at hfind
      exact .inl (congrArg some hfind)
  | ok selected =>
      have hyield : (run.stream.advance line).yieldRecord index trade =
          .ok ({ run.stream.advance line with
            nextOrderIndex := (run.stream.advance line).nextOrderIndex + 1 },
            if selected then some trade else none) := by
        rw [TradeStream.yieldRecord, hcanonical]
        dsimp only
        rw [if_neg (not_not.mpr hsame), if_neg (not_not.mpr hfirst), hasked, hselects]
      have hlines := (splitLines_tail hcons).2
      rw [h.next_eq hcons hrecord hindex, hyield]
      rw [findLoop_of_ok hselects] at hfind
      refine .inr ⟨h.running, h.asked, h.count, h.advance hcons, h.index,
        ⟨seen ++ [trade], number, offset, ?_, ?_, ?_⟩, h.distinct⟩
      · rw [hlines]
        exact hrest
      · rw [List.length_append, List.length_singleton, ← horder]
        rfl
      · rw [List.length_append, List.length_singleton, hdrop']
        exact hfind

/-- A turn that reads a repetition, which is passed over: the next trade is another one. -/
theorem Follows.next_repeated (h : run.Follows query trades unread) {line : Line}
    {lines : List Line} (hcons : splitLines unread = line :: lines) {trade existing : StoredTrade}
    (hrecord : ∀ number, TradeStream.decodeRecord line number = .ok trade)
    {seen : List StoredTrade} {number offset : ℕ}
    (hexisting : findOrder seen trade.orderId = some existing) (hequal : existing.Equal trade)
    (hrest : readLines lines number offset seen = .ok (trades, none))
    (horder : run.stream.nextOrderIndex = seen.length)
    (hfind : findLoop query run.yielded (trades.drop seen.length) = findTrades query trades) :
    run.next.Follows query trades (lines.flatMap Line.toBytes) := by
  obtain ⟨later, hlater⟩ := prefix_of_readLines hrest
  have hknown : findOrder trades trade.orderId = some existing := by
    rw [← hlater]
    exact findOrder_append hexisting later
  obtain ⟨index, canonical, hindex, hcanonical, hsame, hids⟩ := h.canonical hknown hequal
  have hmem : trade.orderId ∈ orderedOrderIds seen := by
    by_contra hnot
    rw [findOrder_eq_none_iff.mpr hnot] at hexisting
    cases hexisting
  have hfirst : ¬(run.stream.advance line).IsFirstRecord index trade := by
    rintro ⟨hless, hnext⟩
    have hdistinct := h.distinct
    rw [TradeStream.advance, horder] at hless hnext
    dsimp only at hless
    rw [h.count] at hless
    rw [hids _ hless, ← hlater, orderedOrderIds, List.map_append,
      List.getElem?_append_right (by rw [List.length_map])] at hnext
    rw [← hlater, orderedOrderIds, List.map_append, List.nodup_append] at hdistinct
    exact hdistinct.2.2 _ hmem _ (List.mem_of_getElem? hnext) rfl
  have hyield : (run.stream.advance line).yieldRecord index trade =
      .ok (run.stream.advance line, none) := by
    rw [TradeStream.yieldRecord, hcanonical]
    dsimp only
    rw [if_neg (not_not.mpr hsame), if_pos hfirst]
  have hlines := (splitLines_tail hcons).2
  rw [h.next_eq hcons hrecord hindex, hyield]
  refine ⟨h.running, h.asked, h.count, h.advance hcons, h.index,
    ⟨seen, number, offset, ?_, horder, ?_⟩, h.distinct⟩
  · rw [hlines]
    exact hrest
  · simp only [Option.toList_none, List.append_nil]
    exact hfind

/-- A turn that reads a line: the stream goes on, or raises as the query does. -/
theorem Follows.next_cons (h : run.Follows query trades unread) {line : Line} {lines : List Line}
    (hcons : splitLines unread = line :: lines) :
    run.next.result = some (findTrades query trades) ∨
      run.next.Follows query trades (lines.flatMap Line.toBytes) := by
  obtain ⟨seen, number, offset, hread, horder, hfind⟩ := h.lines
  rw [hcons] at hread
  obtain ⟨trade, hrecord, ⟨hnew, hrest⟩ | ⟨⟨existing, hexisting, hequal⟩, hrest⟩⟩ :=
    readLines_cons_ok hread
  · exact h.next_first hcons hrecord hnew hrest horder hfind
  · exact .inr (h.next_repeated hcons hrecord hexisting hequal hrest horder hfind)

/-- A stream that has ended keeps what it yielded. -/
theorem result_step (padsYear : Bool) {outcome : Except StreamError (List StoredTrade)}
    (h : run.result = some outcome) (event : StreamEvent) :
    (run.step padsYear event).result = some outcome := by
  cases event with
  | save orderId trade => exact h
  | next =>
      rw [step]
      split
      · rename_i hrunning
        rw [result, hrunning] at h
        cases h
      · exact h

theorem result_foldl_of_ended (padsYear : Bool)
    {outcome : Except StreamError (List StoredTrade)} (h : run.result = some outcome)
    (events : List StreamEvent) :
    (events.foldl (step padsYear) run).result = some outcome := by
  induction events generalizing run with
  | nil => exact h
  | cons event events ih => exact ih (result_step padsYear h event)

/-- An open stream that gets more turns than it has lines left ends with what the query finds,
whatever is saved in between. -/
theorem Follows.foldl (h : run.Follows query trades unread) (padsYear : Bool)
    {events : List StreamEvent}
    (hturns : (splitLines unread).length < events.countP StreamEvent.isNext) :
    (events.foldl (step padsYear) run).result = some (findTrades query trades) := by
  induction events generalizing run unread with
  | nil => exact absurd hturns (Nat.not_lt_zero _)
  | cons event events ih =>
      rw [List.foldl_cons]
      cases event with
      | save orderId trade => exact ih (h.save padsYear orderId trade) hturns
      | next =>
          have hcount : (StreamEvent.next :: events).countP StreamEvent.isNext =
              events.countP StreamEvent.isNext + 1 := List.countP_cons_of_pos rfl
          have hstep : run.step padsYear .next = run.next := if_pos h.running
          rw [hcount] at hturns
          rw [hstep]
          cases hsplit : splitLines unread with
          | nil => exact result_foldl_of_ended padsYear (h.next_nil hsplit) events
          | cons line lines =>
              obtain hended | hnext := h.next_cons hsplit
              · exact result_foldl_of_ended padsYear hended events
              · refine ih hnext ?_
                rw [hsplit, List.length_cons] at hturns
                rw [(splitLines_tail hsplit).2]
                omega

end StreamRun

/-! ## Streams of a store -/

namespace HistoryStore

/-- A load of the store would return `trades`, and while its index is loaded it is over them. -/
structure Indexed (store : HistoryStore) (trades : List StoredTrade) : Prop where
  loads : (store.load .completes).2 = .ok trades
  index : ∀ index, store.index = some index →
    readLines (splitLines store.file) 1 0 [] = .ok (trades, none) ∧
      List.Forall₂ StoredTrade.Equal index trades

/-- A file that a load accepts, before it is loaded. -/
theorem indexed_of_file {file : List UInt8} {trades : List StoredTrade}
    (h : (({ file := file } : HistoryStore).load .completes).2 = .ok trades) :
    ({ file := file } : HistoryStore).Indexed trades :=
  ⟨h, fun _ => nofun⟩

/-- What a load that completes leaves. -/
theorem load_completes {store : HistoryStore} {trades : List StoredTrade}
    (h : (store.load .completes).2 = .ok trades) :
    (store.load .completes).1.index = some trades ∧
      readLines (splitLines (store.load .completes).1.file) 1 0 [] = .ok (trades, none) := by
  rw [load, if_neg (by decide)] at h ⊢
  cases hread : readHistory store.file with
  | error error =>
      rw [hread] at h
      cases h
  | ok result =>
      obtain ⟨kept, index⟩ := result
      rw [hread] at h
      obtain rfl := Except.ok.inj h
      exact ⟨rfl, readLines_of_readHistory hread⟩

/-- A load that completes returns the same trades again, and its index is over them. -/
theorem Indexed.load {store : HistoryStore} {trades : List StoredTrade}
    (h : store.Indexed trades) : (store.load .completes).1.Indexed trades := by
  obtain ⟨hindex, hread⟩ := load_completes h.loads
  refine ⟨?_, fun index hother => ?_⟩
  · rw [HistoryStore.load, if_neg (by decide), readHistory, hread]
  · obtain rfl := Option.some.inj (hindex.symm.trans hother)
    exact ⟨hread, forall₂_equal_refl trades⟩

/-- The stream of a store begins at its first line. -/
theorem Indexed.streamTrades {store : HistoryStore} {trades : List StoredTrade}
    (h : store.Indexed trades) (query : TradeHistoryQuery) :
    ∃ stream, (store.streamTrades .completes query).2 = .ok stream ∧
      StreamRun.Follows query trades (store.streamTrades .completes query).1.file
        { store := (store.streamTrades .completes query).1, stream := stream } := by
  have hstart : ∀ (store : HistoryStore) (index : List StoredTrade), store.index = some index →
      readLines (splitLines store.file) 1 0 [] = .ok (trades, none) →
      List.Forall₂ StoredTrade.Equal index trades →
      StreamRun.Follows query trades store.file
        { store := store, stream := store.snapshot query index } := by
    intro store index hindex hread hequal
    have hlength := hequal.length_eq
    refine ⟨rfl, rfl, ?_, ⟨[], [], ?_, rfl, rfl⟩, ⟨index, hindex, ?_⟩, ⟨[], 1, 0, hread, rfl, rfl⟩,
      nodup_of_readLines (show (orderedOrderIds []).Nodup from List.nodup_nil) hread⟩
    · rw [snapshot, orderedOrderIds, List.length_map, hlength]
    · rw [List.nil_append, List.append_nil]
    · rw [← hlength, List.take_length]
      exact hequal
  cases hindex : store.index with
  | some index =>
      obtain ⟨hread, hequal⟩ := h.index index hindex
      rw [HistoryStore.streamTrades, hindex]
      exact ⟨_, rfl, hstart store index hindex hread hequal⟩
  | none =>
      obtain ⟨hloaded, hread⟩ := load_completes h.loads
      have hloads := h.loads
      rw [HistoryStore.streamTrades, hindex]
      generalize store.load .completes = result at hloads hloaded hread
      obtain ⟨loaded, outcome⟩ := result
      dsimp only at hloads hloaded hread
      obtain rfl := hloads
      exact ⟨_, rfl, hstart loaded trades hloaded hread (forall₂_equal_refl trades)⟩

end HistoryStore

/-- The stream of a query over a store, once it has had enough turns, has yielded what the query
finds among the trades a load of the store returns, or raised as it does: whatever was saved since
the stream was made. -/
theorem StreamRun.result_foldl (padsYear : Bool) (store : HistoryStore) (trades : List StoredTrade)
    (hstore : store.Indexed trades) (query : TradeHistoryQuery) :
    ∃ stream, (store.streamTrades .completes query).2 = .ok stream ∧
      ∀ events : List StreamEvent,
        (splitLines (store.streamTrades .completes query).1.file).length <
          events.countP StreamEvent.isNext →
        (events.foldl (StreamRun.step padsYear)
          { store := (store.streamTrades .completes query).1, stream := stream }).result =
            some (findTrades query trades) := by
  obtain ⟨stream, hstream, hfollows⟩ := hstore.streamTrades query
  exact ⟨stream, hstream, fun _ hturns => hfollows.foldl padsYear hturns⟩

/-- A file without a torn end is left as it is by the load of a stream. -/
theorem HistoryStore.file_streamTrades {file : List UInt8} {trades : List StoredTrade}
    (h : readHistory file = .ok (file, trades)) (query : TradeHistoryQuery) :
    (({ file := file } : HistoryStore).streamTrades .completes query).1.file = file := by
  simp only [HistoryStore.streamTrades, HistoryStore.load, h,
    if_neg (show LoadIo.completes ≠ .openRaises by decide)]

theorem HistoryStore.indexed_of_readHistory {file : List UInt8} {trades : List StoredTrade}
    (h : readHistory file = .ok (file, trades)) :
    ({ file := file } : HistoryStore).Indexed trades := by
  refine indexed_of_file ?_
  simp only [HistoryStore.load, h, if_neg (show LoadIo.completes ≠ .openRaises by decide)]

/-- A line with the record of a trade that has been read. -/
theorem readLines_repeated {padsYear : Bool} {trade known : StoredTrade} {index : List StoredTrade}
    (hreadable : trade.Readable padsYear) (hknown : findOrder index trade.orderId = some known)
    (hequal : known.Equal trade.plain) (hasLineFeed : Bool) (lines : List Line)
    (number offset : ℕ) :
    readLines (⟨recordBytes padsYear trade, hasLineFeed⟩ :: lines) number offset index =
      readLines lines (number + 1)
        (offset + Line.length ⟨recordBytes padsYear trade, hasLineFeed⟩) index := by
  have hknown' : findOrder index trade.plain.orderId = some known := hknown
  rw [readLines, if_neg (getLast?_ne_carriageReturn le_of_mem_recordBytes),
    decodeJsonLine_recordBytes]
  simp only [tradeFromDecodedJson, tradeFromJsonObject_of_readable hreadable, hknown', if_pos hequal]

end Reading

/-- The file of a purchase that was written twice, the second time without its line feed. -/
def repeatedFile : List UInt8 :=
  fileLines true [HistoryRun.firstPurchase] ++ recordBytes true HistoryRun.firstPurchase

theorem splitLines_repeatedFile : splitLines repeatedFile =
    [⟨recordBytes true HistoryRun.firstPurchase, true⟩,
      ⟨recordBytes true HistoryRun.firstPurchase, false⟩] := by
  have hfile : repeatedFile = recordBytes true HistoryRun.firstPurchase ++
      lineFeed :: recordBytes true HistoryRun.firstPurchase := by
    simp [repeatedFile, fileLines]
  rw [hfile, splitLines_line (lineFeed_notMem le_of_mem_recordBytes),
    splitLines_last (lineFeed_notMem le_of_mem_recordBytes)
      (recordBytes_ne_nil true HistoryRun.firstPurchase)]

theorem readHistory_repeatedFile :
    readHistory repeatedFile = .ok (repeatedFile, [HistoryRun.firstPurchase.plain]) := by
  have hreadable : HistoryRun.firstPurchase.Readable true := ⟨Or.inl rfl, nofun⟩
  have hknown : findOrder [HistoryRun.firstPurchase.plain] HistoryRun.firstPurchase.orderId =
      some HistoryRun.firstPurchase.plain := List.find?_cons_of_pos (beq_self_eq_true _)
  rw [readHistory, splitLines_repeatedFile, readLines_record hreadable rfl, List.nil_append,
    readLines_repeated hreadable hknown rfl, readLines]

/-- The purchases of some days. -/
def purchaseQuery : TradeHistoryQuery := ⟨20000, 30000, .buy, by decide⟩

/-- Another trade is saved while the stream is between the two lines of its file, which are one
record, the second without its line feed. -/
theorem StreamRun.result_foldl_repeatedFile :
    ∃ stream, (({ file := repeatedFile } : HistoryStore).streamTrades
        .completes purchaseQuery).2 = .ok stream ∧
      ([StreamEvent.next, .save "8" HistoryRun.secondPurchase, .next, .next].foldl
        (StreamRun.step true)
        { store := (({ file := repeatedFile } : HistoryStore).streamTrades
            .completes purchaseQuery).1,
          stream := stream }).result =
        some (findTrades purchaseQuery [HistoryRun.firstPurchase.plain]) := by
  obtain ⟨stream, hstream, hresult⟩ := StreamRun.result_foldl true { file := repeatedFile }
    [HistoryRun.firstPurchase.plain]
    (HistoryStore.indexed_of_readHistory readHistory_repeatedFile) purchaseQuery
  refine ⟨stream, hstream, hresult _ ?_⟩
  rw [HistoryStore.file_streamTrades readHistory_repeatedFile, splitLines_repeatedFile]
  decide

end Trading
