import AutoTrader.Arithmetic.Decimal
import AutoTrader.Support.Except

/-!
# States of the trading state machine

The enumerations of `domain/trading/states.py` and the state configuration of
the machine.

* `TradingStateConfiguration` — the configurations the source admits: the four
  root states outside trade management, and trade management with its three
  parallel regions.  An invalid combination cannot be written down.
* `StateFields` — the six fields of the source's dataclass, with
  `StateFields.validate` the checks of its `__post_init__`.
* `StateFields.validate_eq_ok_iff` — a record of fields passes those checks
  exactly when it is the record of a configuration.
-/

namespace Trading

/-- The exceptions of the modelled code, with their messages. -/
inductive TradingError where
  | valueError (message : String)
  | typeError (message : String)
  | runtimeError (message : String)
  | osError (message : String)
  | keyError
  | stopIteration
  /-- `decimal.InvalidOperation`. -/
  | invalidOperation
  /-- `decimal.DivisionByZero` and `decimal.DivisionUndefined`. -/
  | divisionByZero
  deriving DecidableEq, Repr

/-- A decimal operation of the source: a signalled operation raises. -/
def raiseInvalid {α : Type} : Option α → Except TradingError α
  | some a => .ok a
  | none => .error .invalidOperation

inductive RootState where
  | notStarted | lowerTouchWatch | tradeManagement | stopping | logicTerminated
  deriving DecidableEq, Repr

inductive OwnershipState where
  | noPosition | caseBPositionManagement | caseCPositionManagement
  deriving DecidableEq, Repr

inductive CaseBSignalState where
  | bWaitTouch | bWaitSignal | bWaitPullback | bPositionOpenSignalled | caseBFinalState
  deriving DecidableEq, Repr

inductive CaseCSignalState where
  | cWaitSetup | cSetup | cPositionOpenSignalled | caseCFinalState
  deriving DecidableEq, Repr

inductive CaseBPositionState where
  | caseBHolding | caseBTrendHold | caseBClosed
  deriving DecidableEq, Repr

inductive CaseCPositionState where
  | caseCHolding | caseCTpTrailing | caseCClosed | caseCRecoverySucceeded
  deriving DecidableEq, Repr

inductive StrategyType where
  | caseB | caseC
  deriving DecidableEq, Repr

/-- `str(strategy)`, which is how an f-string renders the member. -/
def StrategyType.str : StrategyType → String
  | .caseB => "StrategyType.CASE_B"
  | .caseC => "StrategyType.CASE_C"

inductive OrderSide where
  | buy | sell
  deriving DecidableEq, Repr

inductive OrderAttemptKind where
  | initial | retry
  deriving DecidableEq, Repr

inductive TradingPhase where
  | idle | entryOrderPending | exitOrderPending | stopping | reconciliationRequired | terminated
  deriving DecidableEq, Repr

inductive ExitReason where
  | emergencyStop | stop | forceSell | time | takeProfit | trendHold | tpTrail | tpFallback
  | externalManual
  deriving DecidableEq, Repr

/-- `str(reason)`, which is how an f-string renders the member. -/
def ExitReason.str : ExitReason → String
  | .emergencyStop => "ExitReason.EMERGENCY_STOP"
  | .stop => "ExitReason.STOP"
  | .forceSell => "ExitReason.FORCE_SELL"
  | .time => "ExitReason.TIME"
  | .takeProfit => "ExitReason.TAKE_PROFIT"
  | .trendHold => "ExitReason.TREND_HOLD"
  | .tpTrail => "ExitReason.TP_TRAIL"
  | .tpFallback => "ExitReason.TP_FALLBACK"
  | .externalManual => "ExitReason.EXTERNAL_MANUAL"

inductive PositionReturnState where
  | caseBHolding | caseBTrendHold | caseCHolding | caseCTpTrailing
  deriving DecidableEq, Repr

/-- The Case B position state a return state names by its value. -/
def PositionReturnState.caseB : PositionReturnState → Option CaseBPositionState
  | .caseBHolding => some .caseBHolding
  | .caseBTrendHold => some .caseBTrendHold
  | _ => none

/-- The Case C position state a return state names by its value. -/
def PositionReturnState.caseC : PositionReturnState → Option CaseCPositionState
  | .caseCHolding => some .caseCHolding
  | .caseCTpTrailing => some .caseCTpTrailing
  | _ => none

/-! ## State configurations -/

/-- Region one: who owns the position, with the substate of the owner. -/
inductive OwnershipRegion where
  | noPosition
  | caseB (substate : CaseBPositionState)
  | caseC (substate : CaseCPositionState)
  deriving DecidableEq, Repr

/-- A state configuration of the machine. -/
inductive TradingStateConfiguration where
  | notStarted
  | lowerTouchWatch
  | stopping
  | logicTerminated
  /-- The three parallel regions: ownership, Case B signal and Case C signal. -/
  | tradeManagement (ownership : OwnershipRegion) (caseBSignal : CaseBSignalState)
      (caseCSignal : CaseCSignalState)
  deriving DecidableEq, Repr

namespace TradingStateConfiguration

def rootState : TradingStateConfiguration → RootState
  | notStarted => .notStarted
  | lowerTouchWatch => .lowerTouchWatch
  | stopping => .stopping
  | logicTerminated => .logicTerminated
  | tradeManagement .. => .tradeManagement

def ownershipState : TradingStateConfiguration → Option OwnershipState
  | tradeManagement .noPosition _ _ => some .noPosition
  | tradeManagement (.caseB _) _ _ => some .caseBPositionManagement
  | tradeManagement (.caseC _) _ _ => some .caseCPositionManagement
  | _ => none

def caseBSignalState : TradingStateConfiguration → Option CaseBSignalState
  | tradeManagement _ b _ => some b
  | _ => none

def caseCSignalState : TradingStateConfiguration → Option CaseCSignalState
  | tradeManagement _ _ c => some c
  | _ => none

def caseBPositionState : TradingStateConfiguration → Option CaseBPositionState
  | tradeManagement (.caseB s) _ _ => some s
  | _ => none

def caseCPositionState : TradingStateConfiguration → Option CaseCPositionState
  | tradeManagement (.caseC s) _ _ => some s
  | _ => none

/-- `replace` of the ownership fields. -/
def withOwnership (region : OwnershipRegion) : TradingStateConfiguration → TradingStateConfiguration
  | tradeManagement _ b c => tradeManagement region b c
  | state => state

/-- `replace` of `case_b_signal_state`. -/
def withCaseBSignal (signal : CaseBSignalState) :
    TradingStateConfiguration → TradingStateConfiguration
  | tradeManagement o _ c => tradeManagement o signal c
  | state => state

/-- `replace` of `case_c_signal_state`. -/
def withCaseCSignal (signal : CaseCSignalState) :
    TradingStateConfiguration → TradingStateConfiguration
  | tradeManagement o b _ => tradeManagement o b signal
  | state => state

def createTradeManagementInitialState : TradingStateConfiguration :=
  tradeManagement .noPosition .bWaitTouch .cWaitSetup

def tradeManagementIsComplete : TradingStateConfiguration → Bool
  | tradeManagement .noPosition .caseBFinalState .caseCFinalState => true
  | _ => false

@[simp] theorem rootState_withOwnership (region : OwnershipRegion)
    (state : TradingStateConfiguration) :
    (state.withOwnership region).rootState = state.rootState := by
  cases state <;> rfl

@[simp] theorem rootState_withCaseBSignal (signal : CaseBSignalState)
    (state : TradingStateConfiguration) :
    (state.withCaseBSignal signal).rootState = state.rootState := by
  cases state <;> rfl

@[simp] theorem rootState_withCaseCSignal (signal : CaseCSignalState)
    (state : TradingStateConfiguration) :
    (state.withCaseCSignal signal).rootState = state.rootState := by
  cases state <;> rfl

end TradingStateConfiguration

/-! ## The record of the source -/

/-- The six fields of the source's configuration dataclass. -/
structure StateFields where
  rootState : RootState
  ownershipState : Option OwnershipState
  caseBSignalState : Option CaseBSignalState
  caseCSignalState : Option CaseCSignalState
  caseBPositionState : Option CaseBPositionState
  caseCPositionState : Option CaseCPositionState
  deriving DecidableEq, Repr

/-- The record of a configuration. -/
def TradingStateConfiguration.toFields (state : TradingStateConfiguration) : StateFields where
  rootState := state.rootState
  ownershipState := state.ownershipState
  caseBSignalState := state.caseBSignalState
  caseCSignalState := state.caseCSignalState
  caseBPositionState := state.caseBPositionState
  caseCPositionState := state.caseCPositionState

/-- The checks of `__post_init__` on the combination of regions. -/
def StateFields.validate (f : StateFields) : Except TradingError Unit :=
  if f.rootState ≠ .tradeManagement then
    if f.ownershipState.isSome ∨ f.caseBSignalState.isSome ∨ f.caseCSignalState.isSome ∨
        f.caseBPositionState.isSome ∨ f.caseCPositionState.isSome then
      .error (.valueError "Regions must be inactive outside TRADE_MANAGEMENT")
    else .ok ()
  else match f.ownershipState with
    | none => .error (.valueError "TRADE_MANAGEMENT requires an ownership state")
    | some ownership =>
      if f.caseBSignalState.isNone ∨ f.caseCSignalState.isNone then
        .error (.valueError "TRADE_MANAGEMENT requires both signal Regions")
      else match ownership with
        | .noPosition =>
          if f.caseBPositionState.isSome ∨ f.caseCPositionState.isSome then
            .error (.valueError "NO_POSITION cannot have a position substate")
          else .ok ()
        | .caseBPositionManagement =>
          if f.caseBPositionState.isNone ∨ f.caseCPositionState.isSome then
            .error (.valueError "Case B ownership requires only a Case B substate")
          else .ok ()
        | .caseCPositionManagement =>
          if f.caseCPositionState.isNone ∨ f.caseBPositionState.isSome then
            .error (.valueError "Case C ownership requires only a Case C substate")
          else .ok ()

/-- The record of a configuration passes the checks. -/
theorem TradingStateConfiguration.validate_toFields (state : TradingStateConfiguration) :
    state.toFields.validate = .ok () := by
  rcases state with _ | _ | _ | _ | ⟨_ | _ | _, _, _⟩ <;> rfl

/-- Nothing is lost by recording a configuration. -/
theorem TradingStateConfiguration.toFields_injective :
    Function.Injective TradingStateConfiguration.toFields := by
  rintro (_ | _ | _ | _ | ⟨_ | _ | _, _, _⟩) (_ | _ | _ | _ | ⟨_ | _ | _, _, _⟩) h <;>
    simp_all [toFields, rootState, ownershipState, caseBSignalState, caseCSignalState,
      caseBPositionState, caseCPositionState]

/-- The records the source accepts are exactly the records of configurations. -/
theorem StateFields.validate_eq_ok_iff (f : StateFields) :
    f.validate = .ok () ↔ ∃ state : TradingStateConfiguration, state.toFields = f := by
  constructor
  · intro h
    rcases f with ⟨root, ownership, b, c, pb, pc⟩
    by_cases hroot : root = .tradeManagement
    · subst hroot
      rcases ownership with _ | ownership
      · simp [validate] at h
      rcases b with _ | b
      · simp [validate] at h
      rcases c with _ | c
      · simp [validate] at h
      cases ownership with
      | noPosition =>
          have hsub : pb = none ∧ pc = none := by
            rcases pb with _ | _ <;> rcases pc with _ | _ <;> simp_all [validate]
          exact ⟨.tradeManagement .noPosition b c, by rw [hsub.1, hsub.2]; rfl⟩
      | caseBPositionManagement =>
          rcases pb with _ | s
          · simp [validate] at h
          rcases pc with _ | _
          · exact ⟨.tradeManagement (.caseB s) b c, rfl⟩
          · simp [validate] at h
      | caseCPositionManagement =>
          rcases pc with _ | s
          · simp [validate] at h
          rcases pb with _ | _
          · exact ⟨.tradeManagement (.caseC s) b c, rfl⟩
          · simp [validate] at h
    · have hnone : ownership = none ∧ b = none ∧ c = none ∧ pb = none ∧ pc = none := by
        simp only [validate, ne_eq, hroot, not_false_eq_true, if_true] at h
        split at h
        · cases h
        · rename_i hinactive
          simpa [not_or] using hinactive
      obtain ⟨rfl, rfl, rfl, rfl, rfl⟩ := hnone
      cases root with
      | notStarted => exact ⟨.notStarted, rfl⟩
      | lowerTouchWatch => exact ⟨.lowerTouchWatch, rfl⟩
      | stopping => exact ⟨.stopping, rfl⟩
      | logicTerminated => exact ⟨.logicTerminated, rfl⟩
      | tradeManagement => exact absurd rfl hroot
  · rintro ⟨state, rfl⟩
    exact state.validate_toFields

end Trading
