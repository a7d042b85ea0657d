import AutoTrader.Support.Dict
import AutoTrader.Trading.History.HistoryFile
import AutoTrader.Trading.History.PendingEvent

/-!
# The file of the pending-order journal

The writer and the reader of the sidecar of
`adapters/persistence/trade_history_repository.py`, over the bytes of its file.

* `PendingMaps` — the seven dictionaries both keep.
* `PendingMaps.replay`, `readPendingOrderFile` — `_read_pending_order_file`: every line is checked
  against the dictionaries read so far.
* `PendingStore` — the file, the dictionaries of the writer and whether they are loaded;
  `savePendingOrder`, `transitionPendingOrder`, `deletePendingOrder` and the load.
* `PendingMaps.Synced` — the dictionaries of the active orders have the same keys.
* `PendingStore.replays_calls` — the reader accepts what the writer wrote and reads what it holds.
-/

namespace Trading

open Arithmetic LineFile

/-- The dictionaries of the journal: three of the active orders, four of every intent. -/
structure PendingMaps where
  orders : List (String × StoredOrder) := []
  lifecycles : List (String × PendingOrderRecoveryLifecycle) := []
  submissionProvenance : List (String × PendingOrderSubmissionProvenance) := []
  submissionCounts : List (String × ℕ) := []
  clientIdsByIntentAttempt : List ((String × ℕ) × String) := []
  riskPolicyVersions : List (String × Option Int) := []
  exitPctBByIntent : List (String × Option PlainDecimal) := []
  deriving DecidableEq

/-- `_pending_lifecycle_can_transition`. -/
def pendingLifecycleCanTransition (current next : PendingOrderRecoveryLifecycle) : Bool :=
  decide (current = next) || current.successors.contains next

/-! ## The reader -/

namespace PendingMaps

/-- The key of an attempt of an intent. -/
def attemptKey (order : StoredOrder) : String × ℕ := (order.intentId, order.submissionAttempt)

/-- The checks of the reader on an UPSERT. -/
def checkUpsert (maps : PendingMaps) (order : StoredOrder)
    (lifecycle : PendingOrderRecoveryLifecycle) (provenance : PendingOrderSubmissionProvenance) :
    Except String Unit := do
  Except.require (∀ existing ∈ maps.orders.lookup order.clientOrderId, existing.Equal order)
    "PendingOrderJournalConflictError"
  Except.require (∀ existing ∈ maps.lifecycles.lookup order.clientOrderId, existing = lifecycle)
    "PendingOrderLifecycleRegression"
  Except.require (∀ existing ∈ maps.submissionProvenance.lookup order.clientOrderId,
    existing = provenance) "PendingOrderSubmissionProvenanceConflict"
  Except.require (∀ existing ∈ maps.clientIdsByIntentAttempt.lookup (attemptKey order),
    existing = order.clientOrderId) "PendingOrderAttemptIdentityConflict"
  Except.require (maps.clientIdsByIntentAttempt.lookup (attemptKey order) =
    some order.clientOrderId → order.clientOrderId ∈ Dict.keys maps.orders)
    "PendingOrderAttemptResurrection"
  Except.require (∀ entry ∈ maps.orders, entry.2.intentId = order.intentId →
    entry.2.clientOrderId = order.clientOrderId) "PendingOrderConcurrentIntentAttempts"
  Except.require (∀ count ∈ maps.submissionCounts.lookup order.intentId,
    order.submissionAttempt ≤ count) "PendingOrderSubmissionAttemptGap"
  Except.require (∀ version ∈ maps.riskPolicyVersions.lookup order.intentId,
    version = order.riskPolicyVersion) "PendingOrderRiskPolicyVersionConflict"
  Except.require (∀ pctB ∈ maps.exitPctBByIntent.lookup order.intentId,
    pctB.map PlainDecimal.value = order.exitPctBAtIntent.map PlainDecimal.value)
    "PendingOrderExitPctBConflict"

/-- An UPSERT of the reader. -/
def replayUpsert (maps : PendingMaps) (order : StoredOrder)
    (lifecycle : PendingOrderRecoveryLifecycle) (provenance : PendingOrderSubmissionProvenance) :
    PendingMaps where
  orders := Dict.insert order.clientOrderId order maps.orders
  lifecycles := Dict.insert order.clientOrderId lifecycle maps.lifecycles
  submissionProvenance := Dict.insert order.clientOrderId provenance maps.submissionProvenance
  clientIdsByIntentAttempt :=
    Dict.insert (attemptKey order) order.clientOrderId maps.clientIdsByIntentAttempt
  submissionCounts := Dict.insert order.intentId
    (max (order.submissionAttempt + 1) ((maps.submissionCounts.lookup order.intentId).getD 0))
    maps.submissionCounts
  riskPolicyVersions :=
    Dict.setDefault order.intentId order.riskPolicyVersion maps.riskPolicyVersions
  exitPctBByIntent := Dict.setDefault order.intentId order.exitPctBAtIntent maps.exitPctBByIntent

/-- A REMOVE, of the reader and of the writer. -/
def remove (maps : PendingMaps) (clientOrderId : String) : PendingMaps :=
  { maps with
    orders := Dict.erase clientOrderId maps.orders
    lifecycles := Dict.erase clientOrderId maps.lifecycles
    submissionProvenance := Dict.erase clientOrderId maps.submissionProvenance }

/-- A new lifecycle, of the reader and of the writer. -/
def setLifecycle (maps : PendingMaps) (clientOrderId : String)
    (lifecycle : PendingOrderRecoveryLifecycle) : PendingMaps :=
  { maps with lifecycles := Dict.insert clientOrderId lifecycle maps.lifecycles }

/-- A TRANSITION of the reader. -/
def replayTransition (maps : PendingMaps) (clientOrderId : String)
    (lifecycle : PendingOrderRecoveryLifecycle) : Except String PendingMaps :=
  if clientOrderId ∉ Dict.keys maps.orders then .error "PendingOrderTransitionWithoutPrepared"
  else match maps.lifecycles.lookup clientOrderId with
    | none => .error "KeyError"
    | some current =>
        if current = lifecycle then .ok maps
        else if pendingLifecycleCanTransition current lifecycle then
          .ok (maps.setLifecycle clientOrderId lifecycle)
        else .error "PendingOrderLifecycleRegression"

/-- One event of the reader. -/
def replay (maps : PendingMaps) : PendingEvent → Except String PendingMaps
  | .upsert order lifecycle provenance => do
      maps.checkUpsert order lifecycle provenance
      .ok (maps.replayUpsert order lifecycle provenance)
  | .transition clientOrderId lifecycle => maps.replayTransition clientOrderId lifecycle
  | .remove clientOrderId => .ok (maps.remove clientOrderId)

end PendingMaps

/-- Why a call of the journal raises. -/
inductive PendingJournalError where
  /-- A line cannot be decoded. -/
  | unreadable (line : ℕ)
  /-- An event contradicts the ones before it. -/
  | corrupted (line : ℕ) (reason : String)
  /-- `PendingOrderJournalConflictError`. -/
  | conflict (clientOrderId : String)
  | valueError (message : String)
  /-- The file system raised. -/
  | io
  deriving DecidableEq, Repr

section Reading

variable [Json.Reader]

/-- One line of the reader. -/
def readPendingLine (line : Line) (number : ℕ) : Except PendingJournalError PendingEvent :=
  if line.hasLineFeed = false ∨ line.bytes.getLast? = some 13 then .error (.unreadable number)
  else match decodeJsonLine line.bytes with
    | .error _ => .error (.unreadable number)
    | .ok value =>
        match pendingEventFromJson value with
        | .error _ => .error (.unreadable number)
        | .ok event => .ok event

/-- The loop of the reader. -/
def readPendingLines : List Line → ℕ → PendingMaps → Except PendingJournalError PendingMaps
  | [], _, maps => .ok maps
  | line :: lines, number, maps =>
      match readPendingLine line number with
      | .error error => .error error
      | .ok event =>
          match maps.replay event with
          | .error reason => .error (.corrupted number reason)
          | .ok maps => readPendingLines lines (number + 1) maps

/-- `_read_pending_order_file`. -/
def readPendingOrderFile (file : List UInt8) : Except PendingJournalError PendingMaps :=
  readPendingLines (splitLines file) 1 {}

/-! ## The writer -/

/-- The file, and the dictionaries of the writer. -/
structure PendingStore where
  file : List UInt8 := []
  maps : PendingMaps := {}
  loaded : Bool := false

/-- What the file system does during a load. -/
inductive PendingLoadIo where
  | completes
  /-- The file cannot be opened. -/
  | openRaises
  /-- A read or the sync raises. -/
  | raises
  deriving DecidableEq, Repr

/-- What the file system does during an append: it returns, or it raises before or after the whole
line reached the file. -/
inductive PendingAppendIo where
  | completes
  | raises (written : Bool)
  deriving DecidableEq, Repr

/-- What the file system does during a call. -/
structure PendingIo where
  load : PendingLoadIo := .completes
  append : PendingAppendIo := .completes
  deriving DecidableEq, Repr

/-- The line of an event. -/
def pendingLine (members : Members) : List UInt8 :=
  utf8Encode (Json.dumps (.object members)) ++ [lineFeed]

namespace PendingStore

/-- `get_pending_orders`. A file that does not exist is an empty one. -/
def load (store : PendingStore) (io : PendingLoadIo) :
    PendingStore × Except PendingJournalError Unit :=
  if io = .openRaises then (store, .error .io)
  else match readPendingOrderFile store.file with
    | .error error => ({ store with loaded := false }, .error error)
    | .ok maps =>
        if io = .completes then ({ store with maps := maps, loaded := true }, .ok ())
        else ({ store with loaded := false }, .error .io)

/-- The load every call begins with. -/
def ensureLoaded (store : PendingStore) (io : PendingLoadIo) :
    PendingStore × Except PendingJournalError Unit :=
  if store.loaded then (store, .ok ()) else store.load io

/-- `_append_pending_order_event`, and the dictionaries that are published after it. -/
def append (store : PendingStore) (io : PendingAppendIo) (members : Members)
    (maps : PendingMaps) : PendingStore × Except PendingJournalError Unit :=
  match io with
  | .completes => ({ store with file := store.file ++ pendingLine members, maps := maps }, .ok ())
  | .raises true =>
      ({ store with file := store.file ++ pendingLine members, loaded := false }, .error .io)
  | .raises false => ({ store with loaded := false }, .error .io)

end PendingStore

/-- The checks of `save_pending_order` on an order that is not active. -/
def PendingMaps.checkNew (maps : PendingMaps) (order : StoredOrder) :
    Except PendingJournalError Unit := do
  Except.require (maps.clientIdsByIntentAttempt.lookup (attemptKey order) = none)
    (.conflict order.clientOrderId)
  Except.require (∀ entry ∈ maps.orders, entry.2.intentId ≠ order.intentId)
    (.conflict order.clientOrderId)
  Except.require (∀ count ∈ maps.submissionCounts.lookup order.intentId,
    order.submissionAttempt = count) (.conflict order.clientOrderId)
  Except.require (∀ version ∈ maps.riskPolicyVersions.lookup order.intentId,
    version = order.riskPolicyVersion) (.conflict order.clientOrderId)
  Except.require (∀ pctB ∈ maps.exitPctBByIntent.lookup order.intentId,
    pctB.map PlainDecimal.value = order.exitPctBAtIntent.map PlainDecimal.value)
    (.conflict order.clientOrderId)

/-- What `save_pending_order` publishes. -/
def PendingMaps.publish (maps : PendingMaps) (order : StoredOrder) : PendingMaps where
  orders := Dict.insert order.clientOrderId order maps.orders
  lifecycles := Dict.insert order.clientOrderId .prepared maps.lifecycles
  submissionProvenance := Dict.insert order.clientOrderId .submittedFsyncPrecedesRestPost
    maps.submissionProvenance
  submissionCounts :=
    Dict.insert order.intentId (order.submissionAttempt + 1) maps.submissionCounts
  riskPolicyVersions :=
    Dict.setDefault order.intentId order.riskPolicyVersion maps.riskPolicyVersions
  exitPctBByIntent := Dict.setDefault order.intentId order.exitPctBAtIntent maps.exitPctBByIntent
  clientIdsByIntentAttempt :=
    Dict.insert (attemptKey order) order.clientOrderId maps.clientIdsByIntentAttempt

namespace PendingStore

/-- `save_pending_order` over loaded dictionaries. -/
def saveLoaded (store : PendingStore) (io : PendingAppendIo) (order : StoredOrder) :
    PendingStore × Except PendingJournalError Unit :=
  match store.maps.orders.lookup order.clientOrderId with
  | some existing =>
      if existing.Equal order then (store, .ok ())
      else (store, .error (.conflict order.clientOrderId))
  | none =>
      match store.maps.checkNew order with
      | .error error => (store, .error error)
      | .ok () =>
          store.append io (buildPendingUpsertEvent order.toPendingOrderValues)
            (store.maps.publish order)

/-- `save_pending_order`: what is kept is the order as it will be read. -/
def savePendingOrder (store : PendingStore) (io : PendingIo) (order : StoredOrder) :
    PendingStore × Except PendingJournalError Unit :=
  match pendingOrderFromJsonObject false false
      (.object (pendingOrderToJsonObject order.toPendingOrderValues)) with
  | .error _ => (store, .error (.valueError "pending order metadata is not canonical"))
  | .ok snapshot =>
      match store.ensureLoaded io.load with
      | (store, .error error) => (store, .error error)
      | (store, .ok ()) => store.saveLoaded io.append snapshot

/-- `transition_pending_order_lifecycle` over loaded dictionaries. -/
def transitionLoaded (store : PendingStore) (io : PendingAppendIo) (clientOrderId : String)
    (lifecycle : PendingOrderRecoveryLifecycle) :
    PendingStore × Except PendingJournalError Unit :=
  if clientOrderId ∉ Dict.keys store.maps.orders then
    (store, .error (.valueError "pending-order transition requires an active pending order"))
  else match store.maps.lifecycles.lookup clientOrderId with
    | none => (store, .error (.valueError "KeyError"))
    | some current =>
        if current = lifecycle then (store, .ok ())
        else if pendingLifecycleCanTransition current lifecycle then
          store.append io (buildPendingTransitionEvent clientOrderId lifecycle)
            (store.maps.setLifecycle clientOrderId lifecycle)
        else (store, .error (.valueError "pending-order lifecycle transition is invalid"))

/-- `transition_pending_order_lifecycle`. -/
def transitionPendingOrder (store : PendingStore) (io : PendingIo) (clientOrderId : String)
    (lifecycle : PendingOrderRecoveryLifecycle) :
    PendingStore × Except PendingJournalError Unit :=
  if isCanonicalText clientOrderId = false then
    (store, .error (.valueError "client_order_id must be non-empty without outer whitespace"))
  else if lifecycle = .prepared then
    (store, .error (.valueError "pending-order transition must advance from PREPARED"))
  else match store.ensureLoaded io.load with
    | (store, .error error) => (store, .error error)
    | (store, .ok ()) => store.transitionLoaded io.append clientOrderId lifecycle

/-- `delete_pending_order` over loaded dictionaries. -/
def deleteLoaded (store : PendingStore) (io : PendingAppendIo) (clientOrderId : String) :
    PendingStore × Except PendingJournalError Unit :=
  if clientOrderId ∉ Dict.keys store.maps.orders then (store, .ok ())
  else store.append io (buildPendingRemoveEvent clientOrderId) (store.maps.remove clientOrderId)

/-- `delete_pending_order`. -/
def deletePendingOrder (store : PendingStore) (io : PendingIo) (clientOrderId : String) :
    PendingStore × Except PendingJournalError Unit :=
  if isCanonicalText clientOrderId = false then
    (store, .error (.valueError "client_order_id must be non-empty without outer whitespace"))
  else match store.ensureLoaded io.load with
    | (store, .error error) => (store, .error error)
    | (store, .ok ()) => store.deleteLoaded io.append clientOrderId

end PendingStore

/-- A call of the journal, or a new process. -/
inductive PendingCall where
  | save (io : PendingIo) (order : StoredOrder)
  | transition (io : PendingIo) (clientOrderId : String) (lifecycle : PendingOrderRecoveryLifecycle)
  | delete (io : PendingIo) (clientOrderId : String)
  | load (io : PendingLoadIo)
  | restart

/-- The store after a call. -/
def PendingStore.call (store : PendingStore) : PendingCall → PendingStore
  | .save io order => (store.savePendingOrder io order).1
  | .transition io clientOrderId lifecycle =>
      (store.transitionPendingOrder io clientOrderId lifecycle).1
  | .delete io clientOrderId => (store.deletePendingOrder io clientOrderId).1
  | .load io => (store.load io).1
  | .restart => { file := store.file }

end Reading

/-! ## The keys of the active orders -/

/-- The dictionaries of the active orders have the same keys. -/
structure PendingMaps.Synced (maps : PendingMaps) : Prop where
  lifecycles : Dict.keys maps.lifecycles = Dict.keys maps.orders
  provenance : Dict.keys maps.submissionProvenance = Dict.keys maps.orders

namespace PendingMaps

theorem Synced.replayUpsert {maps : PendingMaps} (h : maps.Synced) (order : StoredOrder)
    (lifecycle : PendingOrderRecoveryLifecycle) (provenance : PendingOrderSubmissionProvenance) :
    (maps.replayUpsert order lifecycle provenance).Synced where
  lifecycles := by
    rw [PendingMaps.replayUpsert, Dict.keys_insert, Dict.keys_insert, h.lifecycles]
  provenance := by
    rw [PendingMaps.replayUpsert, Dict.keys_insert, Dict.keys_insert, h.provenance]

theorem Synced.remove {maps : PendingMaps} (h : maps.Synced) (clientOrderId : String) :
    (maps.remove clientOrderId).Synced where
  lifecycles := by rw [PendingMaps.remove, Dict.keys_erase, Dict.keys_erase, h.lifecycles]
  provenance := by rw [PendingMaps.remove, Dict.keys_erase, Dict.keys_erase, h.provenance]

theorem Synced.setLifecycle {maps : PendingMaps} (h : maps.Synced) {clientOrderId : String}
    (hactive : clientOrderId ∈ Dict.keys maps.orders)
    (lifecycle : PendingOrderRecoveryLifecycle) :
    (maps.setLifecycle clientOrderId lifecycle).Synced where
  lifecycles := by
    rw [PendingMaps.setLifecycle, Dict.keys_insert, h.lifecycles, if_pos hactive]
  provenance := h.provenance

/-- The reader keeps the keys together. -/
theorem Synced.replay {maps maps' : PendingMaps} (h : maps.Synced) {event : PendingEvent}
    (hreplay : maps.replay event = .ok maps') : maps'.Synced := by
  cases event with
  | upsert order lifecycle provenance =>
      obtain ⟨_, -, hmaps⟩ := Except.bind_eq_ok_iff.mp hreplay
      rw [← Except.ok.inj hmaps]
      exact h.replayUpsert order lifecycle provenance
  | transition clientOrderId lifecycle =>
      simp only [PendingMaps.replay, replayTransition] at hreplay
      split at hreplay
      · cases hreplay
      · rename_i hactive
        split at hreplay
        · cases hreplay
        · split_ifs at hreplay
          · rw [← Except.ok.inj hreplay]
            exact h
          · rw [← Except.ok.inj hreplay]
            exact h.setLifecycle (not_not.mp hactive) lifecycle
  | remove clientOrderId =>
      rw [← Except.ok.inj hreplay]
      exact h.remove clientOrderId

end PendingMaps

section Laws

variable [Json.Reader]

/-- A turn of the loop of the reader. -/
def readPendingStep (line : Line) (number : ℕ) (maps : PendingMaps) :
    Except PendingJournalError PendingMaps :=
  match readPendingLine line number with
  | .error error => .error error
  | .ok event => (maps.replay event).mapError (PendingJournalError.corrupted number)

/-- The loop of the reader is one over the lines of the file. -/
theorem readPendingLines_eq (lines : List Line) (number : ℕ) (maps : PendingMaps) :
    readPendingLines lines number maps = foldLines readPendingStep lines number maps := by
  induction lines generalizing number maps with
  | nil => rfl
  | cons line lines ih =>
      rw [readPendingLines, foldLines, readPendingStep]
      cases readPendingLine line number with
      | error error => rfl
      | ok event =>
          dsimp only
          cases maps.replay event with
          | error reason => rfl
          | ok next => exact ih (number + 1) next

theorem PendingMaps.Synced.readPendingStep {line : Line} {number : ℕ} {maps maps' : PendingMaps}
    (h : maps.Synced) (hstep : Trading.readPendingStep line number maps = .ok maps') :
    maps'.Synced := by
  unfold Trading.readPendingStep at hstep
  split at hstep
  · cases hstep
  · rename_i event _
    cases hreplay : maps.replay event with
    | error reason =>
        rw [hreplay] at hstep
        cases hstep
    | ok next =>
        rw [hreplay] at hstep
        rw [← Except.ok.inj hstep]
        exact h.replay hreplay

theorem synced_readPendingLines {lines : List Line} {number : ℕ} {maps maps' : PendingMaps}
    (h : maps.Synced) (hread : readPendingLines lines number maps = .ok maps') : maps'.Synced := by
  rw [readPendingLines_eq] at hread
  exact foldLines_preserves (fun _ _ _ _ => PendingMaps.Synced.readPendingStep) h hread

theorem synced_readPendingOrderFile {file : List UInt8} {maps : PendingMaps}
    (h : readPendingOrderFile file = .ok maps) : maps.Synced :=
  synced_readPendingLines (show ({} : PendingMaps).Synced from ⟨rfl, rfl⟩) h

/-! ## One more line -/

/-- A line that is read has its line feed. -/
theorem hasLineFeed_of_readPendingStep {line : Line} {number : ℕ} {maps maps' : PendingMaps}
    (hstep : readPendingStep line number maps = .ok maps') : line.hasLineFeed = true := by
  by_contra hended
  rw [readPendingStep, readPendingLine, if_pos (Or.inl (by simpa using hended))] at hstep
  cases hstep

theorem hasLineFeed_of_readPendingLines {lines : List Line} {number : ℕ} {maps maps' : PendingMaps}
    (hread : readPendingLines lines number maps = .ok maps') :
    ∀ line ∈ lines, line.hasLineFeed = true := by
  rw [readPendingLines_eq] at hread
  exact forall_mem_of_foldLines (fun _ _ _ _ => hasLineFeed_of_readPendingStep) hread

/-- The reader goes on where it was. -/
theorem readPendingLines_append {lines rest : List Line} {number : ℕ} {maps maps' : PendingMaps}
    (hread : readPendingLines lines number maps = .ok maps') :
    readPendingLines (lines ++ rest) number maps =
      readPendingLines rest (number + lines.length) maps' := by
  rw [readPendingLines_eq] at hread ⊢
  rw [readPendingLines_eq, foldLines_append hread]

/-- A line of the writer is read as its event. -/
theorem readPendingOrderFile_append {file : List UInt8} {maps maps' : PendingMaps}
    (hread : readPendingOrderFile file = .ok maps) {members : Members} {event : PendingEvent}
    (hunique : (JsonValue.object members).uniqueKeys = true)
    (hevent : pendingEventFromJson (.object members) = .ok event)
    (hreplay : maps.replay event = .ok maps') :
    readPendingOrderFile (file ++ pendingLine members) = .ok maps' := by
  have hbytes : ∀ b ∈ utf8Encode (Json.dumps (.object members)), 32 ≤ b.toNat :=
    le_of_mem_utf8Encode (Json.printable_dumps _)
  have hdecode : decodeJsonLine (utf8Encode (Json.dumps (.object members))) =
      .ok (.object members) := by
    rw [decodeJsonLine, utf8Decode_utf8Encode, Option.bind_some, Json.Reader.loads_dumps]
    exact if_pos hunique
  have hline : ∀ number, readPendingLine
      ⟨utf8Encode (Json.dumps (.object members)), true⟩ number = .ok event := by
    intro number
    have hframing : ¬(true = false ∨
        (utf8Encode (Json.dumps (.object members))).getLast? = some 13) :=
      not_or.mpr ⟨by decide, getLast?_ne_carriageReturn hbytes⟩
    rw [readPendingLine, if_neg hframing, hdecode]
    simp only [hevent]
  have hsplit : splitLines (pendingLine members) =
      [⟨utf8Encode (Json.dumps (.object members)), true⟩] :=
    splitLines_line (lineFeed_notMem hbytes) []
  rw [readPendingOrderFile, splitLines_append (hasLineFeed_of_readPendingLines hread), hsplit,
    readPendingLines_append hread, readPendingLines, hline]
  simp only [hreplay, readPendingLines]

end Laws

theorem uniqueKeys_pendingOrder (order : PendingOrderValues) :
    (JsonValue.object (pendingOrderToJsonObject order)).uniqueKeys = true := by
  have hdecimal : ∀ d, (decimalJson d).uniqueKeys = true := fun d => uniqueKeys_string _
  have hreason : ∀ reason : ExitReason, (textJson reason.wire).uniqueKeys = true :=
    fun reason => uniqueKeys_string _
  refine uniqueKeys_object (show pendingOrderKeyOrder.Nodup by decide) ?_
  simp only [pendingOrderToJsonObject, List.forall_mem_cons, hdecimal, textJson, uniqueKeys_string,
    uniqueKeys_int, uniqueKeys_optionalJson hdecimal, uniqueKeys_optionalJson uniqueKeys_int,
    List.not_mem_nil, false_imp_iff, implies_true, and_true, true_and]
  exact uniqueKeys_optionalJson hreason

theorem uniqueKeys_buildPendingUpsertEvent (order : PendingOrderValues) :
    (JsonValue.object (buildPendingUpsertEvent order)).uniqueKeys = true := by
  refine uniqueKeys_object (show ["schema_version", "record_type", "operation", "lifecycle",
    "order"].Nodup by decide) ?_
  simp [buildPendingUpsertEvent, textJson, uniqueKeys_pendingOrder]

theorem uniqueKeys_buildPendingTransitionEvent (clientOrderId : String)
    (lifecycle : PendingOrderRecoveryLifecycle) :
    (JsonValue.object (buildPendingTransitionEvent clientOrderId lifecycle)).uniqueKeys = true := by
  refine uniqueKeys_object (show ["schema_version", "record_type", "operation", "client_order_id",
    "lifecycle"].Nodup by decide) ?_
  simp [buildPendingTransitionEvent, textJson]

theorem uniqueKeys_buildPendingRemoveEvent (clientOrderId : String) :
    (JsonValue.object (buildPendingRemoveEvent clientOrderId)).uniqueKeys = true := by
  refine uniqueKeys_object (show ["schema_version", "record_type", "operation",
    "client_order_id"].Nodup by decide) ?_
  simp [buildPendingRemoveEvent, textJson]

/-! ## The checks of the reader follow from those of the writer -/

/-- An order that passes the checks of the writer passes those of the reader, and both publish the
same. -/
theorem PendingMaps.replay_upsert {maps : PendingMaps} (hsynced : maps.Synced) {order : StoredOrder}
    (hnew : maps.orders.lookup order.clientOrderId = none)
    (hcheck : maps.checkNew order = .ok ()) :
    maps.replay (.upsert order .prepared .submittedFsyncPrecedesRestPost) =
      .ok (maps.publish order) := by
  simp only [checkNew, Except.require_bind_eq_ok_iff, Except.require_eq_ok_iff] at hcheck
  obtain ⟨hattempt, hintent, hcount, hversion, hpctB⟩ := hcheck
  have hkey := Dict.lookup_eq_none_iff.mp hnew
  have hlifecycle : maps.lifecycles.lookup order.clientOrderId = none :=
    Dict.lookup_eq_none_iff.mpr (by rw [hsynced.lifecycles]; exact hkey)
  have hprovenance : maps.submissionProvenance.lookup order.clientOrderId = none :=
    Dict.lookup_eq_none_iff.mpr (by rw [hsynced.provenance]; exact hkey)
  have hupsert : maps.checkUpsert order .prepared .submittedFsyncPrecedesRestPost = .ok () := by
    simp only [checkUpsert, Except.require_bind_eq_ok_iff, Except.require_eq_ok_iff]
    refine ⟨by simp [hnew], by simp [hlifecycle], by simp [hprovenance], by simp [hattempt],
      by simp [hattempt], ?_, ?_, hversion, hpctB⟩
    · intro entry hentry hsame
      exact absurd hsame (hintent entry hentry)
    · intro count hlookup
      exact (hcount count hlookup).le
  have hcounts : max (order.submissionAttempt + 1)
      ((maps.submissionCounts.lookup order.intentId).getD 0) = order.submissionAttempt + 1 := by
    cases hlookup : maps.submissionCounts.lookup order.intentId with
    | none => simp
    | some count =>
        have hequal := hcount count hlookup
        simp only [Option.getD_some]
        omega
  rw [replay, hupsert, Except.ok_bind, replayUpsert, hcounts]
  rfl

/-! ## What the calls preserve -/

section Calls

variable [Json.Reader]

/-- The file is read, and while the store is loaded its dictionaries are what is read. -/
def PendingStore.Consistent (store : PendingStore) : Prop :=
  ∃ maps, readPendingOrderFile store.file = .ok maps ∧
    (store.loaded = true → store.maps = maps)

namespace PendingStore

variable {store : PendingStore}

theorem Consistent.load (h : store.Consistent) (io : PendingLoadIo) :
    (store.load io).1.Consistent ∧
      ((store.load io).2 = .ok () → (store.load io).1.loaded = true) := by
  obtain ⟨maps, hread, hmaps⟩ := h
  unfold PendingStore.load
  split
  · exact ⟨⟨maps, hread, hmaps⟩, nofun⟩
  · rw [hread]
    dsimp only
    split
    · exact ⟨⟨maps, hread, fun _ => rfl⟩, fun _ => rfl⟩
    · exact ⟨⟨maps, hread, nofun⟩, nofun⟩

theorem Consistent.ensureLoaded (h : store.Consistent) (io : PendingLoadIo) :
    (store.ensureLoaded io).1.Consistent ∧
      ((store.ensureLoaded io).2 = .ok () → (store.ensureLoaded io).1.loaded = true) := by
  unfold PendingStore.ensureLoaded
  split
  · rename_i hloaded
    exact ⟨h, fun _ => hloaded⟩
  · exact h.load io

/-- An append of an event that the reader takes to the published dictionaries. -/
theorem Consistent.append (h : store.Consistent) (hloaded : store.loaded = true)
    (io : PendingAppendIo) {members : Members} {event : PendingEvent} {maps : PendingMaps}
    (hunique : (JsonValue.object members).uniqueKeys = true)
    (hevent : pendingEventFromJson (.object members) = .ok event)
    (hreplay : store.maps.replay event = .ok maps) :
    (store.append io members maps).1.Consistent := by
  obtain ⟨read, hread, hmaps⟩ := h
  rw [hmaps hloaded] at hreplay
  have happend := readPendingOrderFile_append hread hunique hevent hreplay
  cases io with
  | completes => exact ⟨maps, happend, fun _ => rfl⟩
  | raises written =>
      cases written with
      | true => exact ⟨maps, happend, nofun⟩
      | false => exact ⟨read, hread, nofun⟩

theorem Consistent.saveLoaded (h : store.Consistent) (hloaded : store.loaded = true)
    (io : PendingAppendIo) (order : StoredOrder) (hplain : order.plain = order) :
    (store.saveLoaded io order).1.Consistent := by
  have hsynced : store.maps.Synced := by
    obtain ⟨maps, hread, hmaps⟩ := h
    rw [hmaps hloaded]
    exact synced_readPendingOrderFile hread
  have hevent := pendingEventFromJson_upsert order
  rw [hplain] at hevent
  unfold PendingStore.saveLoaded
  split
  · split <;> exact h
  · rename_i hnew
    split
    · exact h
    · rename_i hcheck
      exact h.append hloaded io (uniqueKeys_buildPendingUpsertEvent _) hevent
        (PendingMaps.replay_upsert hsynced hnew hcheck)

theorem Consistent.savePendingOrder (h : store.Consistent) (io : PendingIo) (order : StoredOrder) :
    (store.savePendingOrder io order).1.Consistent := by
  obtain ⟨hensure, hloaded⟩ := h.ensureLoaded io.load
  rw [PendingStore.savePendingOrder, pendingOrderFromJsonObject_toJsonObject]
  generalize store.ensureLoaded io.load = result at hensure hloaded
  obtain ⟨loaded, error | ⟨⟩⟩ := result
  · exact hensure
  · exact hensure.saveLoaded (hloaded rfl) io.append order.plain order.plain_plain

theorem Consistent.transitionLoaded (h : store.Consistent) (hloaded : store.loaded = true)
    (io : PendingAppendIo) {clientOrderId : String} (hid : isCanonicalText clientOrderId = true)
    {lifecycle : PendingOrderRecoveryLifecycle} (hlifecycle : lifecycle ≠ .prepared) :
    (store.transitionLoaded io clientOrderId lifecycle).1.Consistent := by
  unfold PendingStore.transitionLoaded
  split
  · exact h
  · rename_i hactive
    split
    · exact h
    · rename_i current hcurrent
      split_ifs with hsame hallowed
      · exact h
      · have hreplay : store.maps.replay (.transition clientOrderId lifecycle) =
            .ok (store.maps.setLifecycle clientOrderId lifecycle) := by
          rw [PendingMaps.replay, PendingMaps.replayTransition, if_neg hactive, hcurrent]
          simp only [if_neg hsame, if_pos hallowed]
        exact h.append hloaded io (uniqueKeys_buildPendingTransitionEvent _ _)
          (pendingEventFromJson_transition hid hlifecycle) hreplay
      · exact h

theorem Consistent.transitionPendingOrder (h : store.Consistent) (io : PendingIo)
    (clientOrderId : String) (lifecycle : PendingOrderRecoveryLifecycle) :
    (store.transitionPendingOrder io clientOrderId lifecycle).1.Consistent := by
  obtain ⟨hensure, hloaded⟩ := h.ensureLoaded io.load
  unfold PendingStore.transitionPendingOrder
  split_ifs with hid hprepared
  · exact h
  · exact h
  · generalize store.ensureLoaded io.load = result at hensure hloaded
    obtain ⟨loaded, error | ⟨⟩⟩ := result
    · exact hensure
    · exact hensure.transitionLoaded (hloaded rfl) io.append (by simpa using hid) hprepared

theorem Consistent.deleteLoaded (h : store.Consistent) (hloaded : store.loaded = true)
    (io : PendingAppendIo) {clientOrderId : String} (hid : isCanonicalText clientOrderId = true) :
    (store.deleteLoaded io clientOrderId).1.Consistent := by
  unfold PendingStore.deleteLoaded
  split
  · exact h
  · exact h.append hloaded io (uniqueKeys_buildPendingRemoveEvent _)
      (pendingEventFromJson_remove hid) rfl

theorem Consistent.deletePendingOrder (h : store.Consistent) (io : PendingIo)
    (clientOrderId : String) : (store.deletePendingOrder io clientOrderId).1.Consistent := by
  obtain ⟨hensure, hloaded⟩ := h.ensureLoaded io.load
  unfold PendingStore.deletePendingOrder
  split_ifs with hid
  · exact h
  · generalize store.ensureLoaded io.load = result at hensure hloaded
    obtain ⟨loaded, error | ⟨⟩⟩ := result
    · exact hensure
    · exact hensure.deleteLoaded (hloaded rfl) io.append (by simpa using hid)

theorem Consistent.call (h : store.Consistent) (call : PendingCall) :
    (store.call call).Consistent := by
  cases call with
  | save io order => exact h.savePendingOrder io order
  | transition io clientOrderId lifecycle => exact h.transitionPendingOrder io clientOrderId lifecycle
  | delete io clientOrderId => exact h.deletePendingOrder io clientOrderId
  | load io => exact (h.load io).1
  | restart =>
      obtain ⟨maps, hread, -⟩ := h
      exact ⟨maps, hread, nofun⟩

theorem Consistent.foldl (h : store.Consistent) (calls : List PendingCall) :
    (calls.foldl PendingStore.call store).Consistent := by
  induction calls generalizing store with
  | nil => exact h
  | cons call calls ih => exact ih (h.call call)

/-- What the reader makes of the file of a store: it reads it, it reads what the store holds while it
is loaded, and a load brings it there. -/
structure Replays (store : PendingStore) (maps : PendingMaps) : Prop where
  read : readPendingOrderFile store.file = .ok maps
  held : store.loaded = true → store.maps = maps
  reloaded : store.load .completes = ({ store with maps := maps, loaded := true }, .ok ())

/-- However a process found the journal, as long as it could be read: after any calls, each of which
returns or raises before or after its whole line was written, and any restarts, the reader
accepts the file and reads the dictionaries the writer holds. -/
theorem replays_calls (file : List UInt8) (hfile : ∃ maps, readPendingOrderFile file = .ok maps)
    (calls : List PendingCall) :
    ∃ maps, (calls.foldl PendingStore.call { file := file }).Replays maps := by
  obtain ⟨maps, hmaps⟩ := hfile
  have hstart : ({ file := file } : PendingStore).Consistent := ⟨maps, hmaps, nofun⟩
  obtain ⟨read, hread, hheld⟩ := hstart.foldl calls
  refine ⟨read, hread, hheld, ?_⟩
  rw [PendingStore.load, if_neg (by decide), hread]
  exact if_pos rfl

end PendingStore

end Calls

namespace PendingStore

/-- An order is journalled, its transition raises after its line was written, and it is repeated. -/
theorem replays_repeated_transition :
    ∃ maps, ([.save {} ⟨{
        intentId := "intent-1"
        clientOrderId := "bat-1"
        submissionAttempt := 0
        side := .buy
        strategy := .caseB
        regimeType := .type1
        requestedQuantity := ⟨false, 1, 0⟩
        submittedQuantity := ⟨false, 1, 0⟩
        marketPriceAtDecision := ⟨false, 2000, 0⟩ }, by decide +kernel⟩,
      .transition { append := .raises true } "bat-1" .submitted,
      .transition {} "bat-1" .submitted].foldl PendingStore.call { file := [] }).Replays maps :=
  replays_calls [] ⟨{}, rfl⟩ _

end PendingStore

end Trading
