import AutoTrader.Support.KeptOnce
import AutoTrader.Support.State
import AutoTrader.Trading.Conditions
import AutoTrader.Trading.Orders.Result

/-!
# The execution reports of an order

How the gateway merges the execution reports of one exchange order, and what a rebase to
an order queried over REST does to it.

* `mergeExecutionObservation`, `rebaseOrderResult` — the two writers of the order's entries.
* `ExchangeHistory` — the reports of an order as the exchange sends them.
* `Knows` — the gateway knows what a number of first reports say.
* `deliver_after_rebase_iff` — after a rebase the reports resume without a false gap exactly
  when the repeated ones say nothing that later known ones changed.
-/

namespace Trading

open Arithmetic KeptOnce Stateful

variable {ctx : DecimalContext}

/-! ## Reports -/

/-- The transaction time and the execution ID of a report. -/
abbrev SourceCursor := ℕ × ℕ

/-- The order of the cursors, the time first. -/
def SourceCursor.Precedes (first second : SourceCursor) : Prop :=
  first.1 < second.1 ∨ first.1 = second.1 ∧ first.2 < second.2

instance (first second : SourceCursor) : Decidable (SourceCursor.Precedes first second) :=
  inferInstanceAs (Decidable (_ ∨ _))

theorem SourceCursor.Precedes.ne {first second : SourceCursor}
    (h : SourceCursor.Precedes first second) : first ≠ second := by
  rintro rfl
  rcases h with h | ⟨-, h⟩
  · exact lt_irrefl _ h
  · exact lt_irrefl _ h

theorem SourceCursor.Precedes.not_precedes {first second : SourceCursor}
    (h : SourceCursor.Precedes first second) : ¬ SourceCursor.Precedes second first := by
  unfold Precedes at *
  omega

/-- `_ExecutionReportObservation`. -/
structure ExecutionReportObservation (ctx : DecimalContext) where
  symbol : String := supportedSymbol
  clientOrderId : String
  status : OrderStatus
  processedAt : Timestamp
  exchangeOrderId : String
  cumulativeQuantity : ℚ
  sourceCursor : SourceCursor
  fill : Option (Fill ctx)
  failureReason : Option String
  deriving DecidableEq

/-- What the gateway keeps of an exchange order: its entries in the six maps. -/
structure OrderStream (ctx : DecimalContext) where
  clientOrderId : Option String := none
  sourceCursor : Option SourceCursor := none
  latestObservation : Option (ExecutionReportObservation ctx) := none
  latestStatus : Option OrderStatus := none
  failureReason : Option String := none
  fills : List (Fill ctx) := []
  deriving DecidableEq

/-- `_resolve_stream_order_status`. -/
def resolveStreamOrderStatus (current? : Option OrderStatus) (observed : OrderStatus) :
    Except TradingError OrderStatus :=
  match current? with
  | none => .ok observed
  | some current =>
      if observed.rank < current.rank then .ok current
      else if current.rank = 5 ∧ observed.rank = 5 ∧ current ≠ observed then
        .error (.runtimeError "terminal executionReport status changed")
      else .ok observed

/-- `int(trade_id)`, of an ID of decimal digits. -/
def Fill.tradeNumber? (fill : Fill ctx) : Option ℕ :=
  if fill.tradeId ≠ "" ∧ fill.tradeId.toList.all Char.isDigit = true then
    some (Nat.ofDigitChars 10 fill.tradeId.toList 0)
  else none

/-- The order in which a result lists its fills: by time, then by trade number. -/
def Fill.sortLe (first second : Fill ctx) : Bool :=
  decide (first.executedAt < second.executedAt) ||
    decide (first.executedAt = second.executedAt) &&
      decide (first.tradeNumber?.getD 0 ≤ second.tradeNumber?.getD 0)

/-- The fills in the order of a result; every trade ID has to be a number. -/
def sortedFills (fills : List (Fill ctx)) : Except TradingError (List (Fill ctx)) := do
  Except.require (∀ fill ∈ fills, fill.tradeNumber? ≠ none)
    (.valueError "invalid literal for int() with base 10")
  .ok (fills.insertionSort fun first second => first.sortLe second = true)

/-- A fill is kept once under its key; other content under the key raises. -/
def mergeStreamFill (conflict : TradingError) :
    List (Fill ctx) → Fill ctx → Except TradingError (List (Fill ctx)) :=
  keepOnce Fill.key fun _ => conflict

namespace OrderStream

variable (order : OrderStream ctx) (observation : ExecutionReportObservation ctx)

/-- The fills with the one of the report. -/
def fillsWith : Except TradingError (List (Fill ctx)) :=
  match observation.fill with
  | none => .ok order.fills
  | some fill =>
      mergeStreamFill
        (.runtimeError "duplicate executionReport fill key has conflicting content")
        order.fills fill

/-- The report is older than the last one. -/
def isOutdated : Bool :=
  order.sourceCursor.any fun latest => SourceCursor.Precedes observation.sourceCursor latest

/-- The status after a report whose fills account for its cumulative quantity. -/
def checkReport (fills : List (Fill ctx)) : Except TradingError OrderStatus := do
  let ordered ← sortedFills fills
  Except.require (defaultContext.sum (ordered.map (·.quantity)) = observation.cumulativeQuantity)
    (.runtimeError "executionReport cumulative quantity requires REST reconciliation")
  resolveStreamOrderStatus order.latestStatus observation.status

/-- The order after an accepted report. -/
def committed (status : OrderStatus) (fills : List (Fill ctx)) : OrderStream ctx where
  clientOrderId := some observation.clientOrderId
  sourceCursor := some observation.sourceCursor
  latestObservation := some observation
  latestStatus := some status
  failureReason := observation.failureReason
  fills := fills

/-- The report says something new. -/
def hasNewFact (status : OrderStatus) (fills : List (Fill ctx)) : Bool :=
  decide (order.latestStatus ≠ some status ∨ order.failureReason ≠ observation.failureReason ∨
    fills.length ≠ order.fills.length)

/-- The result of an accepted report. -/
def reportedResult (status : OrderStatus) (fills : List (Fill ctx)) :
    Except TradingError (OrderResult ctx) := do
  let ordered ← sortedFills fills
  OrderResultFields.create {
    symbol := observation.symbol
    clientOrderId := observation.clientOrderId
    status := status
    processedAt := observation.processedAt
    exchangeOrderId := some observation.exchangeOrderId
    fills := ordered
    failureReason := observation.failureReason }

end OrderStream

open OrderStream

/-- `_merge_execution_observation`: a new fill is kept even when the report raises. -/
def mergeExecutionObservation (observation : ExecutionReportObservation ctx) :
    EStateM TradingError (OrderStream ctx) (Option (OrderResult ctx)) := fun order =>
  if ∃ known ∈ order.clientOrderId, known ≠ observation.clientOrderId then
    .error (.runtimeError
      "executionReport client order ID changed for one exchange order") order
  else match order.fillsWith observation with
  | .error error => .error error order
  | .ok fills =>
      if order.sourceCursor = some observation.sourceCursor then
        if order.latestObservation = some observation then .ok none order
        else .error (.runtimeError
          "executionReport source cursor has conflicting content") order
      else if order.isOutdated observation then
        if fills.length = order.fills.length then .ok none order
        else .error (.runtimeError
          "out-of-order executionReport introduced an unseen fill") { order with fills }
      else match order.checkReport observation fills with
      | .error error => .error error { order with fills }
      | .ok status =>
          if order.hasNewFact observation status fills then
            match reportedResult observation status fills with
            | .ok result => .ok (some result) (committed observation status fills)
            | .error error => .error error (committed observation status fills)
          else .ok none (committed observation status fills)

/-- `rebase_order_results` for a result of the order: the facts are merged, and the cursor
is dropped. -/
def rebaseOrderResult (result : OrderResult ctx) (order : OrderStream ctx) :
    Except TradingError (OrderStream ctx) := do
  Except.require (result.exchangeOrderId ≠ none)
    (.runtimeError "REST order rebase requires an exchange order ID")
  Except.require (∀ known ∈ order.clientOrderId, known = result.clientOrderId)
    (.runtimeError "REST order rebase changed a client order ID")
  let fills ← result.fills.foldlM
    (mergeStreamFill (.runtimeError "REST order rebase has conflicting fill content")) order.fills
  let status ← resolveStreamOrderStatus order.latestStatus result.status
  .ok {
    clientOrderId := some result.clientOrderId
    latestStatus := some status
    failureReason := result.failureReason
    fills := fills }

/-- Reports in turn; the first that raises ends the delivery. -/
def deliver : List (ExecutionReportObservation ctx) → OrderStream ctx →
    Except TradingError (List (Option (OrderResult ctx)) × OrderStream ctx)
  | [], order => .ok ([], order)
  | report :: rest, order =>
      match mergeExecutionObservation report order with
      | .error error _ => .error error
      | .ok emitted next =>
          (deliver rest next).map fun delivered => (emitted :: delivered.1, delivered.2)

/-! ## The reports of the exchange -/

/-- The fills that reports carry. -/
def fillsOf (reports : List (ExecutionReportObservation ctx)) : List (Fill ctx) :=
  reports.filterMap (·.fill)

/-- The quantity that reports fill. -/
def filledQuantity (reports : List (ExecutionReportObservation ctx)) : ℚ :=
  ((fillsOf reports).map (·.quantity)).sum

theorem fillsOf_append (first second : List (ExecutionReportObservation ctx)) :
    fillsOf (first ++ second) = fillsOf first ++ fillsOf second :=
  List.filterMap_append

theorem filledQuantity_append (first second : List (ExecutionReportObservation ctx)) :
    filledQuantity (first ++ second) = filledQuantity first + filledQuantity second := by
  rw [filledQuantity, fillsOf_append, List.map_append, List.sum_append]
  rfl

theorem filledQuantity_nonneg (reports : List (ExecutionReportObservation ctx)) :
    0 ≤ filledQuantity reports := by
  refine List.sum_nonneg fun quantity hquantity => ?_
  obtain ⟨fill, -, rfl⟩ := List.mem_map.mp hquantity
  exact fill.quantity_pos.le

/-- The reports of one order in the order of their cursors.  A report carries a fill of its
own or none, and its cumulative quantity counts the fills up to it; quantities have eight
decimals, and statuses only advance. -/
structure ExchangeHistory (ctx : DecimalContext) where
  exchangeOrderId : String
  clientOrderId : String
  reports : List (ExecutionReportObservation ctx)
  ids : ∀ report ∈ reports, report.exchangeOrderId = exchangeOrderId ∧
    report.clientOrderId = clientOrderId ∧ report.symbol = supportedSymbol
  cursors : reports.Pairwise fun first second =>
    SourceCursor.Precedes first.sourceCursor second.sourceCursor
  statuses : reports.Pairwise fun first second => first.status.Advances second.status
  fills_belong : ∀ fill ∈ fillsOf reports, fill.exchangeOrderId = exchangeOrderId ∧
    fill.tradeNumber? ≠ none ∧ ∃ ticks : ℕ, fill.quantity = ticks / 10 ^ 8
  fills_distinct : ((fillsOf reports).map Fill.key).Nodup
  cumulative : ∀ before report after, reports = before ++ report :: after →
    report.cumulativeQuantity = filledQuantity (before ++ [report])
  total : filledQuantity reports ≤ 10 ^ 20

/-! ## Sums of ticks -/

theorem sum_ticks {quantities : List ℚ} (h : ∀ q ∈ quantities, ∃ ticks : ℕ, q = ticks / 10 ^ 8) :
    ∃ ticks : ℕ, quantities.sum = ticks / 10 ^ 8 := by
  induction quantities with
  | nil => exact ⟨0, by simp⟩
  | cons q rest ih =>
      obtain ⟨first, hfirst⟩ := h q (by simp)
      obtain ⟨more, hmore⟩ := ih fun p hp => h p (by simp [hp])
      refine ⟨first + more, ?_⟩
      rw [List.sum_cons, hfirst, hmore]
      push_cast
      ring

/-- The sum of a moderate number of ticks is exact in the default context. -/
theorem defaultContext_sum_ticks {quantities : List ℚ}
    (h : ∀ q ∈ quantities, ∃ ticks : ℕ, q = ticks / 10 ^ 8)
    (htotal : quantities.sum ≤ 10 ^ 20) : defaultContext.sum quantities = quantities.sum := by
  refine defaultContext.sum_eq_of_sumExact fun part hpart => ?_
  have hnonneg : ∀ q ∈ quantities, (0 : ℚ) ≤ q := by
    intro q hq
    obtain ⟨ticks, rfl⟩ := h q hq
    positivity
  obtain ⟨ticks, hticks⟩ := sum_ticks fun q hq => h q (hpart.subset hq)
  have hle : part.sum ≤ quantities.sum := hpart.sublist.sum_le_sum hnonneg
  have hbound : ticks ≤ 10 ^ 28 := by
    have hq : (ticks : ℚ) / 10 ^ 8 ≤ 10 ^ 20 := by
      rw [← hticks]
      exact hle.trans htotal
    rw [div_le_iff₀ (by positivity), ← pow_add] at hq
    exact_mod_cast hq
  have hpower : part.sum = ticks * (10 : ℚ) ^ (-8 : ℤ) := by
    rw [hticks, zpow_neg, div_eq_mul_inv]
    norm_num
  show roundSignificant 28 part.sum = part.sum
  rw [hpower]
  exact roundSignificant_digits (by decide) hbound (-8)

namespace ExchangeHistory

variable {history : ExchangeHistory ctx} {known : List (ExecutionReportObservation ctx)}

theorem fillsOf_sublist (h : known.Sublist history.reports) :
    (fillsOf known).Sublist (fillsOf history.reports) :=
  h.filterMap _

theorem keys_nodup (h : known.Sublist history.reports) :
    ((fillsOf known).map Fill.key).Nodup :=
  history.fills_distinct.sublist ((fillsOf_sublist h).map _)

/-- The fills of some reports are sorted and add up to what they fill. -/
theorem sortedFills_of_perm (h : known.Sublist history.reports) {fills : List (Fill ctx)}
    (hfills : fills.Perm (fillsOf known)) :
    ∃ ordered, sortedFills fills = .ok ordered ∧ ordered.Perm fills ∧
      defaultContext.sum (ordered.map (·.quantity)) = filledQuantity known := by
  have hsubset : ∀ fill ∈ fills, fill ∈ fillsOf history.reports := fun fill hfill =>
    (fillsOf_sublist h).subset (hfills.mem_iff.mp hfill)
  refine ⟨fills.insertionSort fun first second => first.sortLe second = true, ?_,
    List.perm_insertionSort _ _, ?_⟩
  · rw [sortedFills, Except.require_bind_eq_ok_iff]
    exact ⟨fun fill hfill => (history.fills_belong fill (hsubset fill hfill)).2.1, rfl⟩
  · have hperm := ((List.perm_insertionSort (fun first second : Fill ctx =>
      first.sortLe second = true) fills).trans hfills).map (·.quantity)
    rw [defaultContext_sum_ticks, hperm.sum_eq, filledQuantity]
    · intro quantity hquantity
      obtain ⟨fill, hfill, rfl⟩ := List.mem_map.mp (hperm.mem_iff.mp hquantity)
      exact (history.fills_belong fill ((fillsOf_sublist h).subset hfill)).2.2
    · rw [hperm.sum_eq]
      refine le_trans (((fillsOf_sublist h).map _).sum_le_sum fun quantity hquantity => ?_)
        history.total
      obtain ⟨fill, -, rfl⟩ := List.mem_map.mp hquantity
      exact fill.quantity_pos.le

/-! ## What the gateway knows -/

/-- The gateway knows what some reports say: their fills, and the status and the failure
reason of the last. -/
structure Knows (history : ExchangeHistory ctx)
    (known : List (ExecutionReportObservation ctx)) (order : OrderStream ctx) : Prop where
  clientOrderId : ∀ id ∈ order.clientOrderId, id = history.clientOrderId
  fills : order.fills.Perm (fillsOf known)
  latestStatus : order.latestStatus = known.getLast?.map (·.status)
  failureReason : order.failureReason = known.getLast?.bind (·.failureReason)

/-- The last report seen comes before some others. -/
def CursorBefore (order : OrderStream ctx)
    (reports : List (ExecutionReportObservation ctx)) : Prop :=
  ∀ latest ∈ order.sourceCursor, ∀ report ∈ reports,
    SourceCursor.Precedes latest report.sourceCursor

variable {order next : OrderStream ctx} {report : ExecutionReportObservation ctx}

/-- The fill of a known report is known. -/
theorem fillsWith_of_mem (hsub : known.Sublist history.reports)
    (hfills : order.fills.Perm (fillsOf known)) (hreport : report ∈ known) :
    order.fillsWith report = .ok order.fills := by
  unfold OrderStream.fillsWith
  split
  · rfl
  · rename_i fill hfill
    have hmem : fill ∈ order.fills :=
      hfills.mem_iff.mpr (List.mem_filterMap.mpr ⟨report, hreport, hfill⟩)
    have hnodup : (order.fills.map Fill.key).Nodup :=
      (hfills.map Fill.key).nodup_iff.mpr (history.keys_nodup hsub)
    exact keepOnce_of_mem hnodup hmem

/-- The fill of a new report is added. -/
theorem fillsWith_of_new (hsub : (known ++ [report]).Sublist history.reports)
    (hfills : order.fills.Perm (fillsOf known)) :
    ∃ fills, order.fillsWith report = .ok fills ∧ fills.Perm (fillsOf (known ++ [report])) ∧
      (fills.length ≠ order.fills.length → report.fill ≠ none) := by
  have hnodup := history.keys_nodup hsub
  rw [fillsOf_append] at hnodup ⊢
  unfold OrderStream.fillsWith
  cases hfill : report.fill with
  | none =>
      refine ⟨order.fills, rfl, ?_, fun h => absurd rfl h⟩
      simpa [fillsOf, hfill] using hfills
  | some fill =>
      have hone : fillsOf [report] = [fill] := by simp [fillsOf, hfill]
      rw [hone, List.map_append, List.nodup_append] at hnodup
      have hnew : fill.key ∉ order.fills.map Fill.key := by
        rw [(hfills.map Fill.key).mem_iff]
        exact fun hmem => hnodup.2.2 _ hmem fill.key (by simp) rfl
      refine ⟨order.fills ++ [fill], keepOnce_of_new hnew, ?_, fun _ => by simp⟩
      rw [hone]
      exact hfills.append_right _

/-- A report that is newer than the last one. -/
theorem merge_of_newer (hids : ∀ id ∈ order.clientOrderId, id = history.clientOrderId)
    (hreport : report ∈ history.reports) (hcursor : CursorBefore order [report])
    {fills : List (Fill ctx)} (hfills : order.fillsWith report = .ok fills) :
    mergeExecutionObservation report order = match order.checkReport report fills with
      | .error error => .error error { order with fills }
      | .ok status =>
          if order.hasNewFact report status fills then
            match reportedResult report status fills with
            | .ok result => .ok (some result) (committed report status fills)
            | .error error => .error error (committed report status fills)
          else .ok none (committed report status fills) := by
  have hclient : ¬ ∃ id ∈ order.clientOrderId, id ≠ report.clientOrderId := by
    rintro ⟨id, hid, hne⟩
    exact hne ((hids id hid).trans (history.ids report hreport).2.1.symm)
  have hdifferent : order.sourceCursor ≠ some report.sourceCursor := fun hsame =>
    (hcursor _ (Option.mem_def.mpr hsame) report (by simp)).ne rfl
  have hnewer : order.isOutdated report = false := by
    unfold OrderStream.isOutdated
    cases hlatest : order.sourceCursor with
    | none => rfl
    | some latest =>
        rw [Option.any_some, decide_eq_false_iff_not]
        exact (hcursor latest (Option.mem_def.mpr hlatest) report (by simp)).not_precedes
  unfold mergeExecutionObservation
  rw [if_neg hclient, hfills]
  dsimp only
  rw [if_neg hdifferent, hnewer, if_neg Bool.false_ne_true]

/-- The check of a report compares what is filled. -/
theorem checkReport_of_perm {subset : List (ExecutionReportObservation ctx)}
    (hsub : subset.Sublist history.reports) {fills : List (Fill ctx)}
    (hfills : fills.Perm (fillsOf subset)) :
    order.checkReport report fills =
      if filledQuantity subset = report.cumulativeQuantity then
        resolveStreamOrderStatus order.latestStatus report.status
      else .error (.runtimeError
        "executionReport cumulative quantity requires REST reconciliation") := by
  obtain ⟨ordered, hordered, -, hsum⟩ := history.sortedFills_of_perm hsub hfills
  rw [OrderStream.checkReport, hordered, Except.ok_bind, hsum]
  unfold Except.require
  split
  · rfl
  · rfl

theorem resolve_of_advances {current observed : OrderStatus} (h : current.Advances observed) :
    resolveStreamOrderStatus (some current) observed = .ok observed := by
  unfold resolveStreamOrderStatus
  rcases h with rfl | h
  · simp
  · dsimp only
    rw [if_neg (by omega), if_neg (by omega)]

theorem resolve_of_advanced {current observed : OrderStatus} (h : observed.Advances current) :
    resolveStreamOrderStatus (some current) observed = .ok current := by
  unfold resolveStreamOrderStatus
  rcases h with rfl | h
  · simp
  · exact if_pos h

/-- A result can be made of an accepted report. -/
theorem reportedResult_of_perm {subset : List (ExecutionReportObservation ctx)}
    (hsub : subset.Sublist history.reports) {fills : List (Fill ctx)}
    (hfills : fills.Perm (fillsOf subset)) (hreport : report ∈ history.reports)
    (status : OrderStatus) : ∃ result, reportedResult report status fills = .ok result := by
  obtain ⟨ordered, hordered, hperm, -⟩ := history.sortedFills_of_perm hsub hfills
  obtain ⟨hid, -, hsymbol⟩ := history.ids report hreport
  have hbelong : ∀ fill ∈ ordered, some fill.exchangeOrderId = some report.exchangeOrderId := by
    intro fill hfill
    have hmem := (fillsOf_sublist hsub).subset (hfills.mem_iff.mp (hperm.mem_iff.mp hfill))
    rw [(history.fills_belong fill hmem).1, hid]
  rw [reportedResult, hordered, Except.ok_bind]
  unfold OrderResultFields.create
  split
  · exact ⟨_, rfl⟩
  · rename_i error herror
    rw [OrderResultFields.validate_eq_ok_iff.mpr
      ⟨hsymbol, .inr (by simp), hbelong, rfl, by simp⟩] at herror
    cases herror

/-! ## New reports -/

/-- A report says something that the known ones do not. -/
def IsNews (known : List (ExecutionReportObservation ctx))
    (report : ExecutionReportObservation ctx) : Prop :=
  known.getLast?.map (·.status) ≠ some report.status ∨
    known.getLast?.bind (·.failureReason) ≠ report.failureReason ∨ report.fill ≠ none

theorem knows_committed (hreport : report ∈ history.reports) {fills : List (Fill ctx)}
    (hfills : fills.Perm (fillsOf (known ++ [report]))) :
    Knows history (known ++ [report]) (committed report report.status fills) where
  clientOrderId := by
    intro id hid
    rw [committed, Option.mem_def, Option.some.injEq] at hid
    exact hid.symm.trans (history.ids report hreport).2.1
  fills := hfills
  latestStatus := by simp [committed]
  failureReason := by simp [committed]

/-- The next report is accepted, and a result is emitted for news only. -/
theorem merge_next {after : List (ExecutionReportObservation ctx)}
    (hreports : history.reports = known ++ report :: after) (hknows : Knows history known order)
    (hcursor : CursorBefore order [report]) :
    ∃ emitted next, mergeExecutionObservation report order = .ok emitted next ∧
      Knows history (known ++ [report]) next ∧ next.sourceCursor = some report.sourceCursor ∧
      (emitted ≠ none → IsNews known report) := by
  have hmem : report ∈ history.reports := by simp [hreports]
  have hsub : (known ++ [report]).Sublist history.reports := by
    rw [hreports]
    exact List.Sublist.append (List.Sublist.refl _) (by simp)
  obtain ⟨fills, hfills, hperm, hnew⟩ := fillsWith_of_new hsub hknows.fills
  have hstatus : resolveStreamOrderStatus order.latestStatus report.status =
      .ok report.status := by
    rw [hknows.latestStatus]
    cases hlast : known.getLast? with
    | none => rfl
    | some last =>
        refine resolve_of_advances ?_
        have hpairs := history.statuses
        rw [hreports, List.pairwise_append] at hpairs
        exact hpairs.2.2 last (List.mem_of_getLast? hlast) report (by simp)
  have hcheck : order.checkReport report fills = .ok report.status := by
    rw [checkReport_of_perm hsub hperm,
      if_pos (history.cumulative known report after hreports).symm, hstatus]
  rw [merge_of_newer hknows.clientOrderId hmem hcursor hfills, hcheck]
  dsimp only
  split
  · rename_i hfact
    obtain ⟨result, hresult⟩ := reportedResult_of_perm hsub hperm hmem report.status
    rw [hresult]
    refine ⟨_, _, rfl, knows_committed hmem hperm, rfl, fun _ => ?_⟩
    rw [OrderStream.hasNewFact, decide_eq_true_eq, hknows.latestStatus,
      hknows.failureReason] at hfact
    rcases hfact with h | h | h
    · exact .inl h
    · exact .inr (.inl h)
    · exact .inr (.inr (hnew h))
  · exact ⟨_, _, rfl, knows_committed hmem hperm, rfl, fun h => absurd rfl h⟩

/-- Results are emitted for news only. -/
def OnlyNews : List (ExecutionReportObservation ctx) → List (ExecutionReportObservation ctx) →
    List (Option (OrderResult ctx)) → Prop
  | known, report :: reports, emitted :: emissions =>
      (emitted ≠ none → IsNews known report) ∧ OnlyNews (known ++ [report]) reports emissions
  | _, [], [] => True
  | _, _, _ => False

theorem cursorBefore_next {after : List (ExecutionReportObservation ctx)}
    (hreports : history.reports = known ++ report :: after)
    (hnext : next.sourceCursor = some report.sourceCursor) : CursorBefore next after := by
  intro latest hlatest later hlater
  rw [hnext, Option.mem_def, Option.some.injEq] at hlatest
  subst hlatest
  have hpairs := history.cursors
  rw [hreports, List.pairwise_append, List.pairwise_cons] at hpairs
  exact hpairs.2.1.1 later hlater

/-- The reports after the known ones are delivered. -/
theorem deliver_next {later after : List (ExecutionReportObservation ctx)}
    (hreports : history.reports = known ++ later ++ after) (hknows : Knows history known order)
    (hcursor : CursorBefore order later) :
    ∃ emissions next, deliver later order = .ok (emissions, next) ∧
      Knows history (known ++ later) next ∧ OnlyNews known later emissions ∧
      (CursorBefore order after → CursorBefore next after) := by
  induction later generalizing known order with
  | nil => exact ⟨[], order, rfl, by simpa using hknows, trivial, id⟩
  | cons report rest ih =>
      have hsplit : history.reports = known ++ report :: (rest ++ after) := by simp [hreports]
      obtain ⟨emitted, middle, hmerge, hmiddle, hlatest, hnews⟩ := merge_next hsplit hknows
        fun latest hl other ho => hcursor latest hl other (by
          rw [List.mem_singleton] at ho
          simp [ho])
      have hbefore := cursorBefore_next hsplit hlatest
      obtain ⟨emissions, last, hdeliver, hlast, honly, hkeeps⟩ := @ih (known ++ [report]) middle
        (by simp [hreports]) hmiddle
        fun latest hl other ho => hbefore latest hl other (List.mem_append_left _ ho)
      refine ⟨emitted :: emissions, last, ?_, ?_, ⟨hnews, honly⟩, fun _ => hkeeps ?_⟩
      · rw [deliver, hmerge]
        dsimp only
        rw [hdeliver]
        rfl
      · rw [List.append_cons]
        exact hlast
      · exact fun latest hl other ho => hbefore latest hl other (List.mem_append_right _ ho)

/-! ## Missing reports -/

/-- A report after a missed fill raises. -/
theorem merge_after_missing {missing : ExecutionReportObservation ctx}
    {between after : List (ExecutionReportObservation ctx)}
    (hreports : history.reports = known ++ missing :: (between ++ report :: after))
    (hmissing : missing.fill ≠ none) (hknows : Knows history known order)
    (hcursor : CursorBefore order [report]) :
    ∃ error left, mergeExecutionObservation report order = .error error left := by
  have hmem : report ∈ history.reports := by simp [hreports]
  have hsub : (known ++ [report]).Sublist history.reports := by
    rw [hreports]
    refine List.Sublist.append (List.Sublist.refl _) (List.singleton_sublist.mpr ?_)
    simp
  obtain ⟨fills, hfills, hperm, -⟩ := fillsWith_of_new hsub hknows.fills
  have hcumulative := history.cumulative (known ++ missing :: between) report after
    (by simp [hreports])
  have hdiffer : filledQuantity (known ++ [report]) ≠ report.cumulativeQuantity := by
    obtain ⟨fill, hfill⟩ := Option.ne_none_iff_exists'.mp hmissing
    have hpos : 0 < filledQuantity [missing] := by
      simpa [filledQuantity, fillsOf, hfill] using fill.quantity_pos
    have hbetween := filledQuantity_nonneg between
    have hall : filledQuantity (known ++ ([missing] ++ between) ++ [report]) =
        filledQuantity known + (filledQuantity [missing] + filledQuantity between) +
          filledQuantity [report] := by
      rw [filledQuantity_append, filledQuantity_append, filledQuantity_append]
    rw [hcumulative, filledQuantity_append]
    intro hsame
    have htotal := hsame.trans hall
    linarith
  rw [merge_of_newer hknows.clientOrderId hmem hcursor hfills,
    checkReport_of_perm hsub hperm, if_neg hdiffer]
  exact ⟨_, _, rfl⟩

/-! ## Repeated reports -/

/-- A known report says nothing that the last known one changed. -/
def SaysTheSame (report last : ExecutionReportObservation ctx) : Prop :=
  report.cumulativeQuantity = last.cumulativeQuantity ∧
    report.failureReason = last.failureReason

instance (report last : ExecutionReportObservation ctx) : Decidable (SaysTheSame report last) :=
  inferInstanceAs (Decidable (_ ∧ _))

variable {after : List (ExecutionReportObservation ctx)}
  {last : ExecutionReportObservation ctx}

/-- A known report that is repeated: it raises when the known fills are more than it
counts, and is dropped when it says the same as the last known one. -/
theorem merge_repeated (hreports : history.reports = known ++ after)
    (hlast : known.getLast? = some last) (hknows : Knows history known order)
    (hreport : report ∈ known) (hcursor : CursorBefore order [report]) :
    (∀ next, mergeExecutionObservation report order = .ok none next →
      SaysTheSame report last) ∧
    (SaysTheSame report last → ∃ next, mergeExecutionObservation report order = .ok none next ∧
      Knows history known next ∧ next.sourceCursor = some report.sourceCursor) := by
  have hsub : known.Sublist history.reports := by
    rw [hreports]
    exact List.sublist_append_left _ _
  have hmem : report ∈ history.reports := hsub.subset hreport
  obtain ⟨init, rfl⟩ := List.getLast?_eq_some_iff.mp hlast
  have hfilled : filledQuantity (init ++ [last]) = last.cumulativeQuantity :=
    (history.cumulative init last after (by simp [hreports])).symm
  have hadvances : report.status.Advances last.status := by
    rcases List.mem_append.mp hreport with hinit | hone
    · have hpairs := history.statuses.sublist hsub
      rw [List.pairwise_append] at hpairs
      exact hpairs.2.2 report hinit last (by simp)
    · rw [List.mem_singleton] at hone
      rw [hone]
  have hstatus : order.latestStatus = some last.status := by
    rw [hknows.latestStatus, hlast]
    rfl
  have hreason : order.failureReason = last.failureReason := by
    rw [hknows.failureReason, hlast]
    rfl
  have hmerge := merge_of_newer hknows.clientOrderId hmem hcursor
    (fillsWith_of_mem hsub hknows.fills hreport)
  rw [checkReport_of_perm hsub hknows.fills, hfilled, hstatus,
    resolve_of_advanced hadvances] at hmerge
  have hfact : order.hasNewFact report last.status order.fills =
      decide (last.failureReason ≠ report.failureReason) := by
    simp [OrderStream.hasNewFact, hstatus, hreason]
  by_cases hquantity : last.cumulativeQuantity = report.cumulativeQuantity
  · rw [if_pos hquantity] at hmerge
    dsimp only at hmerge
    rw [hfact] at hmerge
    by_cases hsame : last.failureReason = report.failureReason
    · rw [if_neg (by simp [hsame])] at hmerge
      refine ⟨fun _ _ => ⟨hquantity.symm, hsame.symm⟩, fun _ => ⟨_, hmerge, ?_, rfl⟩⟩
      refine ⟨?_, hknows.fills, ?_, ?_⟩
      · intro id hid
        rw [committed, Option.mem_def, Option.some.injEq] at hid
        exact hid.symm.trans (history.ids report hmem).2.1
      · rw [hlast]
        rfl
      · rw [hlast]
        exact hsame.symm
    · obtain ⟨result, hresult⟩ := reportedResult_of_perm hsub hknows.fills hmem last.status
      rw [if_pos (by simp [hsame]), hresult] at hmerge
      refine ⟨fun next hnext => ?_, fun hunchanged => absurd hunchanged.2.symm hsame⟩
      rw [hmerge] at hnext
      cases hnext
  · rw [if_neg hquantity] at hmerge
    refine ⟨fun next hnext => ?_, fun hunchanged => absurd hunchanged.1.symm hquantity⟩
    rw [hmerge] at hnext
    cases hnext

/-- The reports that are repeated after the rebase are dropped one by one. -/
theorem deliver_repeated {repeated later : List (ExecutionReportObservation ctx)}
    (hreports : history.reports = known ++ after) (hlast : known.getLast? = some last)
    (hknows : Knows history known order) (hrepeated : ∀ report ∈ repeated, report ∈ known)
    (horder : (repeated ++ later).Sublist history.reports)
    (hcursor : CursorBefore order (repeated ++ later)) :
    (∀ emissions next, deliver repeated order = .ok (emissions, next) →
      (∀ emitted ∈ emissions, emitted = none) → ∀ report ∈ repeated, SaysTheSame report last) ∧
    ((∀ report ∈ repeated, SaysTheSame report last) → ∃ emissions next,
      deliver repeated order = .ok (emissions, next) ∧ (∀ emitted ∈ emissions, emitted = none) ∧
        Knows history known next ∧ CursorBefore next later) := by
  induction repeated generalizing order with
  | nil =>
      exact ⟨fun _ _ _ _ => by simp, fun _ => ⟨[], order, rfl, by simp, hknows, hcursor⟩⟩
  | cons report rest ih =>
      obtain ⟨honly, hdrops⟩ := merge_repeated hreports hlast hknows
        (hrepeated report (by simp)) fun latest hl other ho => hcursor latest hl other (by
          rw [List.mem_singleton] at ho
          simp [ho])
      have hpairs := history.cursors.sublist horder
      rw [List.cons_append, List.pairwise_cons] at hpairs
      have hrest := (List.sublist_cons_self report (rest ++ later)).trans horder
      have hnext : ∀ next : OrderStream ctx, next.sourceCursor = some report.sourceCursor →
          CursorBefore next (rest ++ later) := by
        intro next hlatest latest hl other ho
        rw [hlatest, Option.mem_def, Option.some.injEq] at hl
        subst hl
        exact hpairs.1 other ho
      constructor
      · intro emissions next hdeliver hnone
        rw [deliver] at hdeliver
        split at hdeliver
        · cases hdeliver
        · rename_i emitted middle hmerge
          obtain ⟨delivered, hdelivered, hpair⟩ := Except.map_eq_ok_iff.mp hdeliver
          cases hpair
          have hemitted : emitted = none := hnone emitted (by simp)
          subst hemitted
          have hunchanged := honly middle hmerge
          obtain ⟨accepted, haccepted, hmiddle, hlatest⟩ := hdrops hunchanged
          rw [hmerge] at haccepted
          cases haccepted
          intro other hother
          rcases List.mem_cons.mp hother with rfl | hother
          · exact hunchanged
          · exact (ih hmiddle (fun r hr => hrepeated r (by simp [hr])) hrest
              (hnext middle hlatest)).1 delivered.1 delivered.2 hdelivered
              (fun e he => hnone e (by simp [he])) other hother
      · intro hunchanged
        obtain ⟨middle, hmerge, hmiddle, hlatest⟩ := hdrops (hunchanged report (by simp))
        obtain ⟨emissions, next, hdeliver, hnone, hknown, hbefore⟩ :=
          (ih hmiddle (fun r hr => hrepeated r (by simp [hr])) hrest (hnext middle hlatest)).2
            fun r hr => hunchanged r (by simp [hr])
        refine ⟨none :: emissions, next, ?_, by simpa using hnone, hknown, hbefore⟩
        rw [deliver, hmerge]
        dsimp only
        rw [hdeliver]
        rfl

/-! ## The rebase -/

/-- The result of a query of the order after some first reports. -/
structure Reflects (history : ExchangeHistory ctx)
    (known : List (ExecutionReportObservation ctx)) (last : ExecutionReportObservation ctx)
    (result : OrderResult ctx) : Prop where
  clientOrderId : result.clientOrderId = history.clientOrderId
  exchangeOrderId : result.exchangeOrderId = some history.exchangeOrderId
  status : result.status = last.status
  failureReason : result.failureReason = last.failureReason
  fills : result.fills.Perm (fillsOf known)

/-- A rebase brings the gateway to what the result reflects, whatever first reports it had
received, and drops the cursor. -/
theorem rebase_knows {received : List (ExecutionReportObservation ctx)}
    (hreports : history.reports = known ++ after) (hlast : known.getLast? = some last)
    (hreceived : received <+: known) (hknows : Knows history received order)
    {result : OrderResult ctx} (hresult : Reflects history known last result) :
    ∃ rebased, rebaseOrderResult result order = .ok rebased ∧ Knows history known rebased ∧
      rebased.sourceCursor = none := by
  have hsub : known.Sublist history.reports := by
    rw [hreports]
    exact List.sublist_append_left _ _
  have hkeys := history.keys_nodup hsub
  have hsubset : ∀ fill ∈ fillsOf received, fill ∈ fillsOf known := fun fill hfill =>
    (hreceived.sublist.filterMap _).subset hfill
  have hreceivedKeys : (order.fills.map Fill.key).Nodup :=
    (hknows.fills.map Fill.key).nodup_iff.mpr
      (((hreceived.sublist.filterMap _).map Fill.key).nodup hkeys)
  obtain ⟨fills, hfills⟩ : ∃ fills, result.fills.foldlM (mergeStreamFill
      (.runtimeError "REST order rebase has conflicting fill content")) order.fills = .ok fills :=
    @exists_foldlM _ _ _ _ Fill.key _ _ _ (· ∈ fillsOf known)
      (fun _ _ hfill hother hkey => List.inj_on_of_nodup_map hkeys hfill hother hkey) _
      (fun fill hfill => hresult.fills.mem_iff.mp hfill)
      (fun fill hfill => hsubset fill (hknows.fills.mem_iff.mp hfill))
  have hkeeps := keeps_foldlM hfills
  have hperm : fills.Perm (fillsOf known) := by
    refine (List.perm_ext_iff_of_nodup (List.Nodup.of_map _ (hkeeps.keys_nodup hreceivedKeys))
      (List.Nodup.of_map _ hkeys)).mpr fun fill => ?_
    rw [hkeeps.mem_iff, hresult.fills.mem_iff]
    exact or_iff_right_of_imp fun hfill => hsubset fill (hknows.fills.mem_iff.mp hfill)
  have hstatus : resolveStreamOrderStatus order.latestStatus last.status = .ok last.status := by
    rw [hknows.latestStatus]
    cases hprevious : received.getLast? with
    | none => rfl
    | some previous =>
        refine resolve_of_advances ?_
        obtain ⟨init, rfl⟩ := List.getLast?_eq_some_iff.mp hlast
        have hmem := hreceived.subset (List.mem_of_getLast? hprevious)
        rcases List.mem_append.mp hmem with hinit | hone
        · have hpairs := history.statuses.sublist hsub
          rw [List.pairwise_append] at hpairs
          exact hpairs.2.2 previous hinit last (by simp)
        · rw [List.mem_singleton] at hone
          rw [hone]
  refine ⟨{
    clientOrderId := some result.clientOrderId
    latestStatus := some last.status
    failureReason := result.failureReason
    fills := fills }, ?_, ⟨?_, hperm, ?_, ?_⟩, rfl⟩
  · rw [rebaseOrderResult, Except.require_bind_eq_ok_iff]
    refine ⟨by simp [hresult.exchangeOrderId], Except.require_bind_eq_ok_iff.mpr ⟨?_, ?_⟩⟩
    · intro id hid
      rw [hknows.clientOrderId id hid, hresult.clientOrderId]
    · rw [hfills, Except.ok_bind, hresult.status, hstatus]
      rfl
  · intro id hid
    rw [Option.mem_def, Option.some.injEq] at hid
    exact hid.symm.trans hresult.clientOrderId
  · rw [hlast]
    rfl
  · rw [hlast]
    exact hresult.failureReason

/-- After the rebase the stream resumes without a false gap: the repeated reports emit
nothing, the later ones only news, all fills are known in the end, and a report after a
missed fill raises. -/
def ResumesCleanly (history : ExchangeHistory ctx)
    (known repeated later : List (ExecutionReportObservation ctx))
    (rebased : OrderStream ctx) : Prop :=
  ∃ dropped resumed, deliver repeated rebased = .ok (dropped, resumed) ∧
    (∀ emitted ∈ dropped, emitted = none) ∧
    (∃ emissions final, deliver later resumed = .ok (emissions, final) ∧
      OnlyNews known later emissions ∧ final.fills.Perm (fillsOf history.reports)) ∧
    ∀ before missing between report after,
      later = before ++ missing :: (between ++ report :: after) → missing.fill ≠ none →
        ∃ emissions reached, deliver before resumed = .ok (emissions, reached) ∧
          ∃ error left, mergeExecutionObservation report reached = .error error left

/-- The gateway has received some first reports, and is rebased to a result that reflects
more: the stream that then resumes at any of those resumes cleanly if and only if the
repeated reports say the same as the last one reflected. -/
theorem deliver_after_rebase_iff (history : ExchangeHistory ctx)
    {received skipped repeated later : List (ExecutionReportObservation ctx)}
    (hreports : history.reports = skipped ++ repeated ++ later)
    (hlast : (skipped ++ repeated).getLast? = some last)
    (hreceived : received <+: skipped ++ repeated)
    {emissions : List (Option (OrderResult ctx))} {before : OrderStream ctx}
    (hbefore : deliver received {} = .ok (emissions, before))
    {result : OrderResult ctx} (hresult : Reflects history (skipped ++ repeated) last result) :
    ∃ rebased, rebaseOrderResult result before = .ok rebased ∧
      (ResumesCleanly history (skipped ++ repeated) repeated later rebased ↔
        ∀ report ∈ repeated, SaysTheSame report last) := by
  have hknows : Knows history received before := by
    obtain ⟨rest, hrest⟩ := hreceived
    have hstart : Knows history [] ({} : OrderStream ctx) := ⟨by simp, .refl _, rfl, rfl⟩
    obtain ⟨_, reached, hdelivered, hreached, -⟩ := @deliver_next _ history [] {} received
      (rest ++ later) (by rw [hreports, ← hrest]; simp) hstart (by simp [CursorBefore])
    rw [hbefore] at hdelivered
    cases hdelivered
    exact hreached
  obtain ⟨rebased, hrebased, hknown, hcursor⟩ := rebase_knows hreports hlast hreceived hknows
    hresult
  refine ⟨rebased, hrebased, ?_⟩
  have hstream : (repeated ++ later).Sublist history.reports := by
    rw [hreports, List.append_assoc]
    exact List.sublist_append_right _ _
  obtain ⟨honly, hdrops⟩ := deliver_repeated hreports hlast hknown
    (fun report hreport => List.mem_append_right _ hreport) hstream
    (by simp [CursorBefore, hcursor])
  constructor
  · rintro ⟨dropped, resumed, hdeliver, hnone, -⟩
    exact honly dropped resumed hdeliver hnone
  · intro hunchanged
    obtain ⟨dropped, resumed, hdeliver, hnone, hresumed, hlater⟩ := hdrops hunchanged
    refine ⟨dropped, resumed, hdeliver, hnone, ?_, ?_⟩
    · obtain ⟨emitted, final, hfinal, hall, hnews, -⟩ := @deliver_next _ history _ resumed later []
        (by rw [hreports, List.append_nil]) hresumed hlater
      refine ⟨emitted, final, hfinal, hnews, ?_⟩
      rw [hreports]
      exact hall.fills
    · rintro first missing between report rest rfl hmissing
      obtain ⟨emitted, reached, hreached, hknew, -, hkeeps⟩ := @deliver_next _ history _ resumed
        first (missing :: (between ++ report :: rest)) (by rw [hreports]; simp) hresumed
        fun latest hl other ho => hlater latest hl other (List.mem_append_left _ ho)
      have hnext := hkeeps fun latest hl other ho =>
        hlater latest hl other (List.mem_append_right _ ho)
      have hsplit : history.reports =
          skipped ++ repeated ++ first ++ missing :: (between ++ report :: rest) := by
        rw [hreports, List.append_assoc (skipped ++ repeated)]
      refine ⟨emitted, reached, hreached, merge_after_missing hsplit hmissing hknew
        fun latest hl other ho => hnext latest hl other ?_⟩
      rw [List.mem_singleton] at ho
      simp [ho]

/-! ### An order in three fills -/

/-- One unit is filled. -/
def unitFill (tradeId : String) : Fill DecimalContext.exact where
  exchangeOrderId := "7"
  tradeId := tradeId
  quantity := 1
  price := 100
  feeAmount := 0
  feeAsset := .usdt
  feeQuoteAmount := 0
  executedAt := 0
  valid := FillFields.validate_eq_ok_iff.mpr ⟨by norm_num, by norm_num, by norm_num, by norm_num,
    by simp [FillFields.validateFee, Except.require]⟩

/-- The report of a unit, when so many are filled. -/
def unitReport (tradeId : String) (filled : ℕ) (status : OrderStatus) :
    ExecutionReportObservation DecimalContext.exact where
  clientOrderId := "bat-1"
  status := status
  processedAt := filled
  exchangeOrderId := "7"
  cumulativeQuantity := filled
  sourceCursor := (filled, filled)
  fill := some (unitFill tradeId)
  failureReason := none

def unitReports : List (ExecutionReportObservation DecimalContext.exact) :=
  [unitReport "1" 1 .partiallyFilled, unitReport "2" 2 .partiallyFilled, unitReport "3" 3 .filled]

/-- The cumulative quantities can be checked position by position. -/
theorem cumulative_of_check {reports : List (ExecutionReportObservation ctx)}
    (h : ∀ i : Fin reports.length,
      reports[i].cumulativeQuantity = filledQuantity (reports.take (i + 1)))
    (before : List (ExecutionReportObservation ctx)) (report : ExecutionReportObservation ctx)
    (after : List (ExecutionReportObservation ctx)) (hreports : reports = before ++ report :: after) :
    report.cumulativeQuantity = filledQuantity (before ++ [report]) := by
  subst hreports
  have hcheck := h ⟨before.length, by simp⟩
  have htake : (before ++ report :: after).take (before.length + 1) = before ++ [report] := by
    rw [List.append_cons, List.take_left' (by simp)]
  rw [← htake]
  simpa using hcheck

/-- The history of the order. -/
def unitHistory : ExchangeHistory DecimalContext.exact where
  exchangeOrderId := "7"
  clientOrderId := "bat-1"
  reports := unitReports
  ids := by decide +kernel
  cursors := by decide +kernel
  statuses := by decide +kernel
  fills_belong fill hfill := by
    have hcheck : ∀ fill ∈ fillsOf unitReports, fill.exchangeOrderId = "7" ∧
        fill.tradeNumber? ≠ none ∧ fill.quantity = (100000000 : ℕ) / 10 ^ 8 := by
      decide +kernel
    obtain ⟨hid, hnumber, hquantity⟩ := hcheck fill hfill
    exact ⟨hid, hnumber, _, hquantity⟩
  fills_distinct := by decide +kernel
  cumulative := cumulative_of_check (by decide +kernel)
  total := by decide +kernel

/-- The order as it is queried after two fills. -/
def queriedResult : OrderResult DecimalContext.exact where
  clientOrderId := "bat-1"
  status := .partiallyFilled
  processedAt := 2
  exchangeOrderId := some "7"
  fills := [unitFill "1", unitFill "2"]
  valid := by decide +kernel

theorem queriedResult_reflects : Reflects unitHistory
    [unitReport "1" 1 .partiallyFilled, unitReport "2" 2 .partiallyFilled]
    (unitReport "2" 2 .partiallyFilled) queriedResult :=
  ⟨rfl, rfl, rfl, rfl, .refl _⟩

/-- A stream that repeats the second report only resumes cleanly. -/
theorem deliver_after_rebase_last : ∃ rebased, rebaseOrderResult queriedResult {} = .ok rebased ∧
    ResumesCleanly unitHistory
      [unitReport "1" 1 .partiallyFilled, unitReport "2" 2 .partiallyFilled]
      [unitReport "2" 2 .partiallyFilled] [unitReport "3" 3 .filled] rebased := by
  obtain ⟨rebased, hrebased, hclean⟩ := @deliver_after_rebase_iff _ _ unitHistory []
    [unitReport "1" 1 .partiallyFilled] [unitReport "2" 2 .partiallyFilled]
    [unitReport "3" 3 .filled] rfl rfl (List.nil_prefix) [] {} rfl queriedResult
    queriedResult_reflects
  exact ⟨rebased, hrebased, hclean.mpr (by decide +kernel)⟩

/-- A stream that repeats both reports raises at the first: the gateway knows two units, and
the report counts one. -/
theorem deliver_after_rebase_gap : ∃ rebased, rebaseOrderResult queriedResult {} = .ok rebased ∧
    ¬ ResumesCleanly unitHistory
      [unitReport "1" 1 .partiallyFilled, unitReport "2" 2 .partiallyFilled]
      [unitReport "1" 1 .partiallyFilled, unitReport "2" 2 .partiallyFilled]
      [unitReport "3" 3 .filled] rebased := by
  have hraises : ((rebaseOrderResult queriedResult {}).bind fun rebased => deliver
      [unitReport "1" 1 .partiallyFilled, unitReport "2" 2 .partiallyFilled] rebased).isOk =
        false := by decide +kernel
  cases hrebased : rebaseOrderResult queriedResult {} with
  | error error =>
      have hrebases : (rebaseOrderResult queriedResult {}).isOk = true := by decide +kernel
      rw [hrebased] at hrebases
      cases hrebases
  | ok rebased =>
      refine ⟨rebased, rfl, ?_⟩
      rintro ⟨dropped, resumed, hdeliver, -⟩
      rw [hrebased] at hraises
      change (deliver _ rebased).isOk = false at hraises
      rw [hdeliver] at hraises
      cases hraises

end ExchangeHistory

end Trading
