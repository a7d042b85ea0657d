import AutoTrader.Trading.History.Wire
import AutoTrader.Trading.Session.PendingJournal

/-!
# Events of the pending-order journal as JSON records

The encoders and the decoder of the sidecar in
`adapters/persistence/trade_history_repository.py`.

* `StoredOrder` — the metadata of an order with the decimals it holds.
* `pendingOrderToJsonObject`, `pendingOrderFromJsonObject` — an order without what is
  observed of it; a sale's %B and the policy version are missing in older versions.
* `PendingEvent`, `pendingEventFromJson` — `_pending_event_from_decoded_json`: the operations
  over all versions.
* `pendingEventFromJson_upsert`, `pendingEventFromJson_transition`,
  `pendingEventFromJson_remove` — what is written is read.
-/

namespace Trading

open Arithmetic

/-! ## Orders -/

/-- The metadata of an order. -/
structure PendingOrderValues where
  intentId : String
  clientOrderId : String
  submissionAttempt : ℕ
  symbol : String := supportedSymbol
  side : OrderSide
  strategy : StrategyType
  regimeType : RegimeType
  requestedQuantity : PlainDecimal
  submittedQuantity : PlainDecimal
  marketPriceAtDecision : PlainDecimal
  riskPolicyVersion : Option Int := none
  exitReason : Option ExitReason := none
  exitPctBAtIntent : Option PlainDecimal := none
  deriving DecidableEq

namespace PendingOrderValues

/-- The metadata by value. -/
def fields (order : PendingOrderValues) : OrderIntentFields where
  intentId := order.intentId
  clientOrderId := order.clientOrderId
  submissionAttempt := order.submissionAttempt
  symbol := order.symbol
  side := order.side
  strategy := order.strategy
  regimeType := order.regimeType
  requestedQuantity := order.requestedQuantity.value
  submittedQuantity := order.submittedQuantity.value
  marketPriceAtDecision := order.marketPriceAtDecision.value
  riskPolicyVersion := order.riskPolicyVersion
  exitReason := order.exitReason
  exitPctBAtIntent := order.exitPctBAtIntent.map PlainDecimal.value

/-- `__post_init__` of an order. -/
def check (order : PendingOrderValues) : Except TradingError Unit := do
  Except.require (isCanonicalText order.intentId = true)
    (.valueError "intent_id must be non-empty without outer whitespace")
  Except.require (isCanonicalText order.clientOrderId = true)
    (.valueError "client_order_id must be non-empty without outer whitespace")
  order.fields.validate

end PendingOrderValues

/-- The metadata of an order its constructor accepts. -/
structure StoredOrder extends PendingOrderValues where
  valid : toPendingOrderValues.check = .ok ()
  deriving DecidableEq

/-- The constructor of an order. -/
def PendingOrderValues.create (order : PendingOrderValues) : Except TradingError StoredOrder :=
  match h : order.check with
  | .ok () => .ok ⟨order, h⟩
  | .error error => .error error

theorem PendingOrderValues.create_of_check {order : PendingOrderValues} (h : order.check = .ok ()) :
    order.create = .ok ⟨order, h⟩ := by
  unfold create
  split
  · rfl
  · rename_i error herror
    rw [h] at herror
    cases herror

/-- `order == other`: decimals are equal by value. -/
def StoredOrder.Equal (order other : StoredOrder) : Prop := order.fields = other.fields

instance StoredOrder.Equal.decidable (order other : StoredOrder) : Decidable (order.Equal other) :=
  inferInstanceAs (Decidable (_ = _))

/-! ## Lifecycles -/

def PendingOrderRecoveryLifecycle.wire : PendingOrderRecoveryLifecycle → String
  | .prepared => "PREPARED"
  | .submitted => "SUBMITTED"
  | .unknown => "UNKNOWN"
  | .partiallyFilled => "PARTIAL"
  | .terminal => "TERMINAL"
  | .historyCommitted => "HISTORY_COMMITTED"
  | .submissionRejectedConfirmed => "SUBMISSION_REJECTED_CONFIRMED"
  | .notSubmittedConfirmed => "NOT_SUBMITTED_CONFIRMED"

def PendingOrderRecoveryLifecycle.ofWire :
    String → Except TradingError PendingOrderRecoveryLifecycle :=
  memberOf [.prepared, .submitted, .unknown, .partiallyFilled, .terminal, .historyCommitted,
    .submissionRejectedConfirmed, .notSubmittedConfirmed] PendingOrderRecoveryLifecycle.wire

@[simp] theorem PendingOrderRecoveryLifecycle.ofWire_wire
    (lifecycle : PendingOrderRecoveryLifecycle) : ofWire lifecycle.wire = .ok lifecycle := by
  cases lifecycle <;> rfl

/-- Whether an order was journalled under the contract that the submission is synced before it is
sent. -/
inductive PendingOrderSubmissionProvenance where
  | legacyPreparedAmbiguous
  | submittedFsyncPrecedesRestPost
  deriving DecidableEq, Repr

/-! ## Writing -/

/-- `_pending_order_to_json_object`. -/
def pendingOrderToJsonObject (order : PendingOrderValues) : Members := [
  ("intent_id", textJson order.intentId),
  ("client_order_id", textJson order.clientOrderId),
  ("submission_attempt", .int order.submissionAttempt),
  ("symbol", textJson order.symbol),
  ("side", textJson order.side.wire),
  ("strategy", textJson order.strategy.wire),
  ("regime_type", textJson order.regimeType.wire),
  ("requested_quantity", decimalJson order.requestedQuantity),
  ("submitted_quantity", decimalJson order.submittedQuantity),
  ("market_price_at_decision", decimalJson order.marketPriceAtDecision),
  ("risk_policy_version", optionalJson JsonValue.int order.riskPolicyVersion),
  ("exit_reason", optionalJson (fun reason : ExitReason => textJson reason.wire) order.exitReason),
  ("exit_pct_b_at_intent", optionalJson decimalJson order.exitPctBAtIntent)]

/-- `_build_pending_upsert_event`. -/
def buildPendingUpsertEvent (order : PendingOrderValues) : Members := [
  ("schema_version", .int 4),
  ("record_type", .string "pending_order_event"),
  ("operation", .string "UPSERT"),
  ("lifecycle", textJson PendingOrderRecoveryLifecycle.prepared.wire),
  ("order", .object (pendingOrderToJsonObject order))]

/-- `_build_pending_transition_event`: only a confirmed non-submission needs the newest version. -/
def buildPendingTransitionEvent (clientOrderId : String)
    (lifecycle : PendingOrderRecoveryLifecycle) : Members := [
  ("schema_version", .int (if lifecycle = .notSubmittedConfirmed then 5 else 4)),
  ("record_type", .string "pending_order_event"),
  ("operation", .string "TRANSITION"),
  ("client_order_id", textJson clientOrderId),
  ("lifecycle", textJson lifecycle.wire)]

/-- `_build_pending_remove_event`. -/
def buildPendingRemoveEvent (clientOrderId : String) : Members := [
  ("schema_version", .int 4),
  ("record_type", .string "pending_order_event"),
  ("operation", .string "REMOVE"),
  ("client_order_id", textJson clientOrderId)]

/-! ## Reading -/

/-- The keys of an order's metadata in version 1 and 2. -/
def pendingOrderLegacyMetadataKeys : List String := ["intent_id", "client_order_id",
  "submission_attempt", "symbol", "side", "strategy", "regime_type", "requested_quantity",
  "submitted_quantity", "market_price_at_decision", "exit_reason"]

/-- The keys of an order's metadata in version 3. -/
def pendingOrderPolicyMetadataKeys : List String :=
  "risk_policy_version" :: pendingOrderLegacyMetadataKeys

/-- The keys of an order's metadata. -/
def pendingOrderMetadataKeys : List String :=
  "exit_pct_b_at_intent" :: pendingOrderPolicyMetadataKeys

/-- The keys an order's metadata must have. -/
def pendingOrderKeys (legacyPolicyVersion legacyExitPctB : Bool) : List String :=
  if legacyPolicyVersion then pendingOrderLegacyMetadataKeys
  else if legacyExitPctB then pendingOrderPolicyMetadataKeys
  else pendingOrderMetadataKeys

/-- The %B of the sale, which older versions lack. -/
def readExitPctB (members : Members) (legacyExitPctB : Bool) :
    Except TradingError (Option PlainDecimal) :=
  if legacyExitPctB then .ok none
  else do readOptional parsePlainDecimal (← getField members "exit_pct_b_at_intent")

/-- The risk policy version, which older versions lack. -/
def readRiskPolicyVersion (members : Members) (legacyPolicyVersion : Bool) :
    Except TradingError (Option Int) :=
  if legacyPolicyVersion then .ok none
  else do
    readOptional (fun value => expectInt value "risk_policy_version must be an integer or None")
      (← getField members "risk_policy_version")

/-- `submission_attempt`. -/
def readSubmissionAttempt (value : JsonValue) : Except TradingError ℕ := do
  let attempt ← expectInt value "submission_attempt must be an integer"
  Except.require (0 ≤ attempt) (.valueError "submission_attempt must not be negative")
  .ok attempt.toNat

/-- `_pending_order_from_json_object`. A decimal is canonical when it is the plain text of one. -/
def pendingOrderFromJsonObject (legacyPolicyVersion legacyExitPctB : Bool) (value : JsonValue) :
    Except TradingError StoredOrder :=
  match value with
  | .object members => do
      requireKeys members (pendingOrderKeys legacyPolicyVersion legacyExitPctB)
        "pending order metadata must use the exact schema"
      let exitReason ← readOptional (fun value => do
        ExitReason.ofWire (← expectString value "exit_reason must be a string or null"))
        (← getField members "exit_reason")
      let exitPctBAtIntent ← readExitPctB members legacyExitPctB
      let intentId ← expectString (← getField members "intent_id") "intent_id must be a string"
      let clientOrderId ← expectString (← getField members "client_order_id")
        "client_order_id must be a string"
      let submissionAttempt ← readSubmissionAttempt (← getField members "submission_attempt")
      let symbol ← expectString (← getField members "symbol") "symbol must be a string"
      let side ← OrderSide.ofWire
        (← expectString (← getField members "side") "side must be a string")
      let strategy ← StrategyType.ofWire
        (← expectString (← getField members "strategy") "strategy must be a string")
      let regimeType ← RegimeType.ofWire
        (← expectString (← getField members "regime_type") "regime_type must be a string")
      let requestedQuantity ← parsePlainDecimal (← getField members "requested_quantity")
      let submittedQuantity ← parsePlainDecimal (← getField members "submitted_quantity")
      let marketPriceAtDecision ←
        parsePlainDecimal (← getField members "market_price_at_decision")
      let riskPolicyVersion ← readRiskPolicyVersion members legacyPolicyVersion
      PendingOrderValues.create {
        intentId := intentId
        clientOrderId := clientOrderId
        submissionAttempt := submissionAttempt
        symbol := symbol
        side := side
        strategy := strategy
        regimeType := regimeType
        requestedQuantity := requestedQuantity
        submittedQuantity := submittedQuantity
        marketPriceAtDecision := marketPriceAtDecision
        riskPolicyVersion := riskPolicyVersion
        exitReason := exitReason
        exitPctBAtIntent := exitPctBAtIntent }
  | _ => .error (.typeError "pending order metadata must be a JSON object")

/-- An event of the journal. -/
inductive PendingEvent where
  | upsert (order : StoredOrder) (lifecycle : PendingOrderRecoveryLifecycle)
      (provenance : PendingOrderSubmissionProvenance)
  | transition (clientOrderId : String) (lifecycle : PendingOrderRecoveryLifecycle)
  | remove (clientOrderId : String)
  deriving DecidableEq

/-- `_normalize_client_order_id`. -/
def normalizeClientOrderId (value : JsonValue) : Except TradingError String := do
  let text ← expectString value "client_order_id must be a string"
  Except.require (isCanonicalText text = true)
    (.valueError "client_order_id must be non-empty without outer whitespace")
  .ok text

/-- A lifecycle field. -/
def readLifecycle (members : Members) : Except TradingError PendingOrderRecoveryLifecycle := do
  PendingOrderRecoveryLifecycle.ofWire
    (← expectString (← getField members "lifecycle") "lifecycle must be a string")

/-- An UPSERT event. -/
def pendingUpsertFromJson (members : Members) (version : Int) :
    Except TradingError PendingEvent := do
  requireKeys members
    (if version = 1 then ["schema_version", "record_type", "operation", "order"]
      else ["schema_version", "record_type", "operation", "lifecycle", "order"])
    "pending-order UPSERT event must use the exact schema"
  let lifecycle ← if version = 1 then .ok .prepared else readLifecycle members
  Except.require (lifecycle = .prepared)
    (.valueError "pending-order UPSERT lifecycle must be PREPARED")
  let order ← pendingOrderFromJsonObject (decide (version < 3)) (decide (version < 4))
    (← getField members "order")
  .ok (.upsert order lifecycle
    (if 3 ≤ version then .submittedFsyncPrecedesRestPost else .legacyPreparedAmbiguous))

/-- A TRANSITION event. -/
def pendingTransitionFromJson (members : Members) (version : Int) :
    Except TradingError PendingEvent := do
  Except.require (version ≠ 1)
    (.valueError "pending-order TRANSITION requires lifecycle schema")
  requireKeys members ["schema_version", "record_type", "operation", "client_order_id", "lifecycle"]
    "pending-order TRANSITION event must use the exact schema"
  let lifecycle ← readLifecycle members
  Except.require (lifecycle = .notSubmittedConfirmed → 5 ≤ version)
    (.valueError "confirmed non-submission requires pending-order schema v5")
  Except.require (lifecycle ≠ .prepared)
    (.valueError "pending-order TRANSITION must advance from PREPARED")
  Except.require (version = 2 → lifecycle = .submissionRejectedConfirmed)
    (.valueError "pending-order schema v2 supports only confirmed rejection")
  let clientOrderId ← normalizeClientOrderId (← getField members "client_order_id")
  .ok (.transition clientOrderId lifecycle)

/-- A REMOVE event. -/
def pendingRemoveFromJson (members : Members) : Except TradingError PendingEvent := do
  requireKeys members ["schema_version", "record_type", "operation", "client_order_id"]
    "pending-order REMOVE event must use the exact schema"
  let clientOrderId ← normalizeClientOrderId (← getField members "client_order_id")
  .ok (.remove clientOrderId)

/-- The operation of an event of a supported version. -/
def pendingOperationFromJson (members : Members) (version : Int) :
    Except TradingError PendingEvent :=
  match members.lookup "operation" with
  | some (.string "UPSERT") => pendingUpsertFromJson members version
  | some (.string "TRANSITION") => pendingTransitionFromJson members version
  | some (.string "REMOVE") => pendingRemoveFromJson members
  | _ => .error (.valueError "pending-order operation is unsupported")

/-- `record_type` is that of the journal. -/
def isPendingRecordType : Option JsonValue → Bool
  | some (.string text) => text == "pending_order_event"
  | _ => false

/-- `_pending_event_from_decoded_json`. -/
def pendingEventFromJson (value : JsonValue) : Except TradingError PendingEvent :=
  match value with
  | .object members =>
      match members.lookup "schema_version" with
      | some (.int version) => do
          Except.require (1 ≤ version ∧ version ≤ 5)
            (.valueError "pending-order schema_version is unsupported")
          Except.require (isPendingRecordType (members.lookup "record_type") = true)
            (.valueError "pending-order record_type is unsupported")
          pendingOperationFromJson members version
      | _ => .error (.valueError "pending-order schema_version is unsupported")
  | _ => .error (.typeError "pending-order event must be a JSON object")

/-! ## What is written is read -/

/-- An order with its decimals by their plain text. -/
def PendingOrderValues.plain (order : PendingOrderValues) : PendingOrderValues :=
  { order with
    requestedQuantity := order.requestedQuantity.plain
    submittedQuantity := order.submittedQuantity.plain
    marketPriceAtDecision := order.marketPriceAtDecision.plain
    exitPctBAtIntent := order.exitPctBAtIntent.map PlainDecimal.plain }

@[simp] theorem PendingOrderValues.fields_plain (order : PendingOrderValues) :
    order.plain.fields = order.fields := by
  have hpctB : (order.exitPctBAtIntent.map PlainDecimal.plain).map PlainDecimal.value =
      order.exitPctBAtIntent.map PlainDecimal.value := by
    cases order.exitPctBAtIntent with
    | none => rfl
    | some d => exact congrArg some d.value_plain
  simp only [fields, plain, PlainDecimal.value_plain, hpctB]

@[simp] theorem PendingOrderValues.check_plain (order : PendingOrderValues) :
    order.plain.check = order.check := by
  rw [check, check, fields_plain]
  rfl

/-- An order with its decimals by their plain text. -/
def StoredOrder.plain (order : StoredOrder) : StoredOrder :=
  ⟨order.toPendingOrderValues.plain, order.toPendingOrderValues.check_plain.trans order.valid⟩

@[simp] theorem StoredOrder.plain_plain (order : StoredOrder) :
    order.plain.plain = order.plain := by
  have hpctB : (order.exitPctBAtIntent.map PlainDecimal.plain).map PlainDecimal.plain =
      order.exitPctBAtIntent.map PlainDecimal.plain := by
    cases order.exitPctBAtIntent with
    | none => rfl
    | some d => exact congrArg some d.plain_plain
  simp only [plain, PendingOrderValues.plain, PlainDecimal.plain_plain, hpctB]

theorem expectString_textJson (text message : String) :
    expectString (textJson text) message = .ok text := rfl

theorem readSubmissionAttempt_int (n : ℕ) : readSubmissionAttempt (.int n) = .ok n := by
  simp [readSubmissionAttempt, Except.require]

/-- The keys of an order in the order they are written. -/
def pendingOrderKeyOrder : List String := ["intent_id", "client_order_id", "submission_attempt",
  "symbol", "side", "strategy", "regime_type", "requested_quantity", "submitted_quantity",
  "market_price_at_decision", "risk_policy_version", "exit_reason", "exit_pct_b_at_intent"]

/-- The keys of an order are those of the newest version. -/
theorem requireKeys_pendingOrder (order : PendingOrderValues) (message : String) :
    requireKeys (pendingOrderToJsonObject order) (pendingOrderKeys false false) message =
      .ok () := by
  rw [requireKeys, Except.require_eq_ok_iff]
  exact (by decide : (∀ key ∈ pendingOrderKeyOrder, key ∈ pendingOrderMetadataKeys) ∧
    ∀ key ∈ pendingOrderMetadataKeys, key ∈ pendingOrderKeyOrder)

/-- An order is read back, its decimals by their plain text. -/
theorem pendingOrderFromJsonObject_toJsonObject (order : StoredOrder) :
    pendingOrderFromJsonObject false false
      (.object (pendingOrderToJsonObject order.toPendingOrderValues)) = .ok order.plain := by
  have hcreate := PendingOrderValues.create_of_check order.plain.valid
  simp only [pendingOrderFromJsonObject]
  rw [requireKeys_pendingOrder, Except.ok_bind, readExitPctB, readRiskPolicyVersion,
    if_neg Bool.false_ne_true, if_neg Bool.false_ne_true]
  simp (disch := decide) only [pendingOrderToJsonObject, getField_cons_self, getField_cons_ne]
  simp only [Except.ok_bind, readOptional_exitReason, readOptional_decimalJson,
    expectString_textJson, readSubmissionAttempt_int, OrderSide.ofWire_wire,
    StrategyType.ofWire_wire, RegimeType.ofWire_wire, parsePlainDecimal_decimalJson,
    readOptional_int]
  exact hcreate

/-- The envelope of an event of the writer. -/
theorem pendingEventFromJson_envelope (version : Int) (hversion : 1 ≤ version ∧ version ≤ 5)
    (operation : String) (rest : Members) :
    pendingEventFromJson (.object (("schema_version", .int version) ::
        ("record_type", .string "pending_order_event") :: ("operation", .string operation) ::
        rest)) =
      pendingOperationFromJson (("schema_version", .int version) ::
        ("record_type", .string "pending_order_event") :: ("operation", .string operation) ::
        rest) version := by
  have hschema : ("record_type" == "schema_version") = false := by decide
  simp only [pendingEventFromJson, List.lookup_cons, beq_self_eq_true, hschema,
    isPendingRecordType, Except.require, hversion, and_self, if_true, Except.ok_bind]

/-- The operation of an event of the writer. -/
theorem lookup_operation (version : Int) (operation : String) (rest : Members) :
    List.lookup "operation" (("schema_version", JsonValue.int version) ::
      ("record_type", .string "pending_order_event") :: ("operation", .string operation) ::
      rest) = some (.string operation) := by
  have hschema : ("operation" == "schema_version") = false := by decide
  have htype : ("operation" == "record_type") = false := by decide
  simp only [List.lookup_cons, hschema, htype, beq_self_eq_true]

theorem pendingEventFromJson_upsert (order : StoredOrder) :
    pendingEventFromJson (.object (buildPendingUpsertEvent order.toPendingOrderValues)) =
      .ok (.upsert order.plain .prepared .submittedFsyncPrecedesRestPost) := by
  rw [buildPendingUpsertEvent, pendingEventFromJson_envelope 4 (by decide),
    pendingOperationFromJson, lookup_operation]
  dsimp only [pendingUpsertFromJson]
  rw [if_neg (by decide), if_neg (by decide), requireKeys_of_keys (by exact rfl)]
  simp (disch := decide) only [readLifecycle, getField_cons_self, getField_cons_ne, textJson,
    expectString_string, Except.ok_bind, PendingOrderRecoveryLifecycle.ofWire_wire,
    Except.require, if_true, show decide ((4 : Int) < 3) = false from rfl,
    show decide ((4 : Int) < 4) = false from rfl, pendingOrderFromJsonObject_toJsonObject]
  rfl

theorem normalizeClientOrderId_textJson {clientOrderId : String}
    (h : isCanonicalText clientOrderId = true) :
    normalizeClientOrderId (textJson clientOrderId) = .ok clientOrderId := by
  simp [normalizeClientOrderId, textJson, Except.require, h]

theorem pendingEventFromJson_transition {clientOrderId : String}
    (hid : isCanonicalText clientOrderId = true) {lifecycle : PendingOrderRecoveryLifecycle}
    (hlifecycle : lifecycle ≠ .prepared) :
    pendingEventFromJson (.object (buildPendingTransitionEvent clientOrderId lifecycle)) =
      .ok (.transition clientOrderId lifecycle) := by
  have hversion : (1 : Int) ≤ (if lifecycle = .notSubmittedConfirmed then 5 else 4) ∧
      (if lifecycle = .notSubmittedConfirmed then 5 else 4) ≤ (5 : Int) := by
    split <;> decide
  have hone : (if lifecycle = .notSubmittedConfirmed then 5 else 4) ≠ (1 : Int) := by
    split <;> decide
  have htwo : (if lifecycle = .notSubmittedConfirmed then 5 else 4) ≠ (2 : Int) := by
    split <;> decide
  have hnewest : lifecycle = .notSubmittedConfirmed →
      (5 : Int) ≤ if lifecycle = .notSubmittedConfirmed then 5 else 4 := by
    intro h
    rw [if_pos h]
  rw [buildPendingTransitionEvent, pendingEventFromJson_envelope _ hversion,
    pendingOperationFromJson, lookup_operation]
  dsimp only [pendingTransitionFromJson]
  rw [requireKeys_of_keys (by exact rfl)]
  simp (disch := decide) only [readLifecycle, getField_cons_self, getField_cons_ne]
  simp only [textJson, expectString_string, Except.ok_bind,
    PendingOrderRecoveryLifecycle.ofWire_wire, Except.require, hone, htwo, hlifecycle, ne_eq,
    not_false_eq_true, if_true, false_imp_iff]
  have hnormalized := normalizeClientOrderId_textJson hid
  rw [textJson] at hnormalized
  rw [if_pos hnewest, Except.ok_bind, hnormalized, Except.ok_bind]

theorem pendingEventFromJson_remove {clientOrderId : String}
    (hid : isCanonicalText clientOrderId = true) :
    pendingEventFromJson (.object (buildPendingRemoveEvent clientOrderId)) =
      .ok (.remove clientOrderId) := by
  rw [buildPendingRemoveEvent, pendingEventFromJson_envelope 4 (by decide),
    pendingOperationFromJson, lookup_operation]
  dsimp only [pendingRemoveFromJson]
  rw [requireKeys_of_keys (by exact rfl)]
  simp (disch := decide) only [getField_cons_self, getField_cons_ne, Except.ok_bind,
    normalizeClientOrderId_textJson hid]

end Trading
