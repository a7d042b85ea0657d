import AutoTrader.Trading.History.HistoryFile

/-!
# The receipts of the manual kill switch

`ManualKillControlState` of `domain/trading/risk.py`, and its record in the sidecar of
`adapters/persistence/trade_history_repository.py`.

* `ManualKillControlState` — the state of the switch with the command that led to it.
* `manualKillControlToJsonObject`, `manualKillControlFromJsonObject` — its record.
* `manualKillControlFromJsonObject_toJsonObject` — a receipt is read as it was written.
-/

namespace Trading

inductive ManualKillBehavior where
  | blockNewOrders
  | cancelAndLiquidate
  deriving DecidableEq, Repr

def ManualKillBehavior.wire : ManualKillBehavior → String
  | .blockNewOrders => "BLOCK_NEW_ORDERS"
  | .cancelAndLiquidate => "CANCEL_AND_LIQUIDATE"

def ManualKillBehavior.ofWire : String → Except TradingError ManualKillBehavior :=
  memberOf [.blockNewOrders, .cancelAndLiquidate] ManualKillBehavior.wire

@[simp] theorem ManualKillBehavior.ofWire_wire (behavior : ManualKillBehavior) :
    ofWire behavior.wire = .ok behavior := by
  cases behavior <;> rfl

/-- The fields of a state, before they are checked. -/
structure ManualKillControlValues where
  active : Bool := false
  version : Int := 0
  commandId : Option String := none
  expectedVersion : Option Int := none
  behavior : Option ManualKillBehavior := none
  policyVersion : Option Int := none
  deriving DecidableEq

namespace ManualKillControlValues

/-- The checks on a state without a command. -/
def checkInitial (values : ManualKillControlValues) : Except TradingError Unit := do
  Except.require (values.version = 0 ∧ values.active = false)
    (.valueError "state without command provenance must be inactive version zero")
  Except.require (values.expectedVersion = none ∧ values.behavior = none ∧
      values.policyVersion = none)
    (.valueError "initial manual-kill state cannot contain partial provenance")

/-- The checks on a state a command led to. -/
def checkReceipt (values : ManualKillControlValues) (commandId : String) :
    Except TradingError Unit := do
  Except.require (isCanonicalText commandId = true)
    (.valueError "command_id must be a non-empty trimmed string")
  Except.require (values.expectedVersion ≠ none)
    (.typeError "expected_version must be an integer")
  Except.require (∀ expected ∈ values.expectedVersion, 0 ≤ expected)
    (.valueError "expected_version must be at least 0")
  Except.require (∀ expected ∈ values.expectedVersion,
      expected = values.version ∨ expected = values.version - 1)
    (.valueError "expected_version must identify a no-op or one-version toggle")
  Except.require (values.behavior = none ↔ values.policyVersion = none)
    (.valueError "behavior and policy_version must both be set or both be absent")
  Except.require (∀ version ∈ values.policyVersion, 1 ≤ version)
    (.valueError "policy_version must be at least 1")

/-- `__post_init__`. -/
def check (values : ManualKillControlValues) : Except TradingError Unit := do
  Except.require (0 ≤ values.version) (.valueError "version must be at least 0")
  match values.commandId with
  | none => values.checkInitial
  | some commandId => values.checkReceipt commandId

end ManualKillControlValues

/-- `ManualKillControlState`: the fields its constructor accepts. -/
structure ManualKillControlState extends ManualKillControlValues where
  valid : toManualKillControlValues.check = .ok ()
  deriving DecidableEq

namespace ManualKillControlState

/-- `ManualKillControlState()`. -/
def initial : ManualKillControlState := ⟨{}, rfl⟩

end ManualKillControlState

/-- The constructor of a state. -/
def ManualKillControlValues.create (values : ManualKillControlValues) :
    Except TradingError ManualKillControlState :=
  match h : values.check with
  | .ok () => .ok ⟨values, h⟩
  | .error error => .error error

theorem ManualKillControlValues.create_toValues (state : ManualKillControlState) :
    state.toManualKillControlValues.create = .ok state := by
  have hvalid := state.valid
  unfold create
  split
  · rfl
  · rename_i error herror
    rw [hvalid] at herror
    cases herror

/-! ## The record -/

/-- The schema of a record: the older one knows only commands that changed the switch. -/
inductive ManualKillSchema where
  | legacy
  | current
  deriving DecidableEq, Repr

/-- `_manual_kill_control_to_json_object`. -/
def manualKillControlToJsonObject (state : ManualKillControlValues) : Members := [
  ("record_type", textJson "manual_kill_control"),
  ("schema_version", .int 2),
  ("active", .bool state.active),
  ("version", .int state.version),
  ("command_id", optionalJson textJson state.commandId),
  ("expected_version", optionalJson JsonValue.int state.expectedVersion),
  ("behavior", optionalJson (fun behavior => textJson behavior.wire) state.behavior),
  ("policy_version", optionalJson JsonValue.int state.policyVersion)]

/-- `_MANUAL_KILL_CONTROL_KEYS`. -/
def manualKillControlKeys : List String := ["active", "behavior", "command_id",
  "expected_version", "policy_version", "record_type", "schema_version", "version"]

/-- `type(active) is bool`. -/
def expectBool (value : JsonValue) (message : String) : Except TradingError Bool :=
  match value with
  | .bool active => .ok active
  | _ => .error (.typeError message)

/-- The supported values of `schema_version`. -/
def readManualKillSchema : JsonValue → Except TradingError ManualKillSchema
  | .int 1 => .ok .legacy
  | .int 2 => .ok .current
  | _ => .error (.valueError "manual-kill control schema_version is unsupported")

/-- `record["record_type"] == "manual_kill_control"`. -/
def isManualKillRecordType : JsonValue → Bool
  | .string text => text == "manual_kill_control"
  | _ => false

/-- `_manual_kill_control_from_json_object`. -/
def manualKillControlFromJsonObject (value : JsonValue) :
    Except TradingError (ManualKillSchema × ManualKillControlState) :=
  match value with
  | .object members => do
      requireKeys members manualKillControlKeys "manual-kill control record keys are invalid"
      let recordType ← getField members "record_type"
      Except.require (isManualKillRecordType recordType = true)
        (.valueError "manual-kill control record_type is invalid")
      let schema ← readManualKillSchema (← getField members "schema_version")
      let behavior ← readOptional (fun value => do
        ManualKillBehavior.ofWire
          (← expectString value "manual-kill behavior must be a string or null"))
        (← getField members "behavior")
      let active ← expectBool (← getField members "active") "active must be a bool"
      let version ← expectInt (← getField members "version") "version must be an exact int"
      let commandId ← readOptional (expectString · "command_id must be a string")
        (← getField members "command_id")
      let expectedVersion ← readOptional (expectInt · "expected_version must be an exact int")
        (← getField members "expected_version")
      let policyVersion ← readOptional (expectInt · "policy_version must be an exact int")
        (← getField members "policy_version")
      let state ← ManualKillControlValues.create {
        active := active
        version := version
        commandId := commandId
        expectedVersion := expectedVersion
        behavior := behavior
        policyVersion := policyVersion }
      .ok (schema, state)
  | _ => .error (.typeError "manual-kill control record must be an object")

/-! ## What is written is read -/

theorem readOptional_text (text : Option String) (message : String) :
    readOptional (expectString · message) (optionalJson textJson text) = .ok text := by
  cases text <;> rfl

theorem readOptional_manualKillBehavior (behavior : Option ManualKillBehavior) (message : String) :
    readOptional (fun value => do ManualKillBehavior.ofWire (← expectString value message))
      (optionalJson (fun behavior => textJson behavior.wire) behavior) = .ok behavior := by
  cases behavior with
  | none => rfl
  | some behavior => cases behavior <;> rfl

/-- The keys of a record in the order they are written. -/
def manualKillControlKeyOrder : List String := ["record_type", "schema_version", "active",
  "version", "command_id", "expected_version", "behavior", "policy_version"]

theorem requireKeys_manualKillControl (state : ManualKillControlValues) (message : String) :
    requireKeys (manualKillControlToJsonObject state) manualKillControlKeys message = .ok () := by
  rw [requireKeys, Except.require_eq_ok_iff]
  exact (by decide : (∀ key ∈ manualKillControlKeyOrder, key ∈ manualKillControlKeys) ∧
    ∀ key ∈ manualKillControlKeys, key ∈ manualKillControlKeyOrder)

/-- A receipt is read back with the current schema. -/
theorem manualKillControlFromJsonObject_toJsonObject (state : ManualKillControlState) :
    manualKillControlFromJsonObject
      (.object (manualKillControlToJsonObject state.toManualKillControlValues)) =
      .ok (.current, state) := by
  have hcreate := ManualKillControlValues.create_toValues state
  have htype : isManualKillRecordType (textJson "manual_kill_control") = true := beq_self_eq_true _
  have hschema : readManualKillSchema (.int 2) = .ok .current := rfl
  have hactive : expectBool (.bool state.active) "active must be a bool" = .ok state.active := rfl
  simp only [manualKillControlFromJsonObject]
  rw [requireKeys_manualKillControl, Except.ok_bind]
  simp (disch := decide) only [manualKillControlToJsonObject, getField_cons_self, getField_cons_ne]
  simp only [Except.ok_bind, readOptional_text, readOptional_int,
    readOptional_manualKillBehavior, expectInt_int, htype, hschema, hactive, Except.require,
    if_true]
  rw [hcreate]
  rfl

theorem uniqueKeys_manualKillControl (state : ManualKillControlValues) :
    (JsonValue.object (manualKillControlToJsonObject state)).uniqueKeys = true := by
  have htext : ∀ text, (textJson text).uniqueKeys = true := fun text => uniqueKeys_string _
  have hbehavior : ∀ behavior : ManualKillBehavior, (textJson behavior.wire).uniqueKeys = true :=
    fun behavior => uniqueKeys_string _
  refine uniqueKeys_object (show manualKillControlKeyOrder.Nodup by decide) ?_
  simp only [manualKillControlToJsonObject, List.forall_mem_cons, htext, uniqueKeys_int,
    uniqueKeys_optionalJson htext, uniqueKeys_optionalJson uniqueKeys_int,
    uniqueKeys_optionalJson hbehavior, List.not_mem_nil, false_imp_iff, implies_true, and_true,
    true_and]
  rw [JsonValue.uniqueKeys]
  all_goals simp

end Trading
