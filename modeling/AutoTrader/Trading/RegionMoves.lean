import AutoTrader.Trading.GlobalRows
import AutoTrader.Trading.RegionRows
import AutoTrader.Trading.SignalRows

/-!
# What a microstep does to region one

How one microstep may change the ownership of the position, transition by transition.

* `OwnershipMove` — how one microstep may change region one.
* `RegionOneMove`, `handleRegionOne_move` — region one.
* `SignalMove` — the signal regions leave region one alone.
* `handleGlobalTransition_move` — the global layer.
* `handleRegions_move` — the three regions together.
-/

namespace Trading

open Arithmetic

/-! ## Region one -/

/-- Region one of a configuration, inside trade management. -/
def TradingStateConfiguration.ownership : TradingStateConfiguration → Option OwnershipRegion
  | .tradeManagement region _ _ => some region
  | _ => none

@[simp] theorem TradingStateConfiguration.ownership_withCaseBSignal
    (state : TradingStateConfiguration) (signal : CaseBSignalState) :
    (state.withCaseBSignal signal).ownership = state.ownership := by
  cases state <;> rfl

@[simp] theorem TradingStateConfiguration.ownership_withCaseCSignal
    (state : TradingStateConfiguration) (signal : CaseCSignalState) :
    (state.withCaseCSignal signal).ownership = state.ownership := by
  cases state <;> rfl

/-- How one microstep may change region one: a position is opened by its strategy, managed,
and given up when it is closed; a band touch or STOP ends whatever there was. -/
inductive OwnershipMove (context : TradingContextView) (ids : List String) :
    Option OwnershipRegion → Option OwnershipRegion → Prop
  | stay (region : Option OwnershipRegion) : OwnershipMove context ids region region
  | openCaseB (howner : context.runtime.positionOwner = some .caseB)
      (hopen : context.position.isOpen = true) :
      OwnershipMove context ids (some .noPosition) (some (.caseB .caseBHolding))
  | openCaseC (howner : context.runtime.positionOwner = some .caseC)
      (hopen : context.position.isOpen = true) :
      OwnershipMove context ids (some .noPosition) (some (.caseC .caseCHolding))
  | manageCaseB (before after : CaseBPositionState) :
      OwnershipMove context ids (some (.caseB before)) (some (.caseB after))
  | manageCaseC (before after : CaseCPositionState) :
      OwnershipMove context ids (some (.caseC before)) (some (.caseC after))
  | closeCaseB : OwnershipMove context ids (some (.caseB .caseBClosed)) (some .noPosition)
  | closeCaseC :
      OwnershipMove context ids (some (.caseC .caseCRecoverySucceeded)) (some .noPosition)
  | leave (region : Option OwnershipRegion) : OwnershipMove context ids region none
  | enter : OwnershipMove context ids none (some .noPosition)
  | bandTouch (region : Option OwnershipRegion) (hid : "G-03" ∈ ids) :
      OwnershipMove context ids region (some .noPosition)

/-- More transitions in the same microstep do not forbid a move. -/
theorem OwnershipMove.mono {context : TradingContextView} {ids more : List String}
    {before after : Option OwnershipRegion} (h : OwnershipMove context ids before after)
    (hsub : ids ⊆ more) : OwnershipMove context more before after := by
  cases h with
  | stay => exact .stay _
  | openCaseB howner hopen => exact .openCaseB howner hopen
  | openCaseC howner hopen => exact .openCaseC howner hopen
  | manageCaseB => exact .manageCaseB _ _
  | manageCaseC => exact .manageCaseC _ _
  | closeCaseB => exact .closeCaseB
  | closeCaseC => exact .closeCaseC
  | leave => exact .leave _
  | enter => exact .enter
  | bandTouch _ hid => exact .bandTouch _ (hsub hid)

/-- The catalog has every ID of the list. -/
def Catalogued (ids : List String) : Prop := ids.all (transitionIds.contains ·) = true

instance (ids : List String) : Decidable (Catalogued ids) :=
  inferInstanceAs (Decidable (_ = true))

theorem catalogued_caseB : ∀ id ∈ ["PB-02", "PB-03", "PB-04", "PB-05", "PB-06", "PB-07",
    "PB-08", "PB-09", "PB-10", "PB-11", "PB-12", "PB-13", "PB-14", "PB-15", "PB-16", "PB-17", "PB-18",
    "PB-19", "PB-20", "PB-21", "PB-22", "PB-23F", "PB-24"], Catalogued [id] := by
  decide +kernel

theorem catalogued_caseC : ∀ id ∈ ["PC-02", "PC-03", "PC-04", "PC-05", "PC-06", "PC-07",
    "PC-08", "PC-09", "PC-10", "PC-11", "PC-12", "PC-13", "PC-14", "PC-15", "PC-16", "PC-17", "PC-18",
    "PC-19", "PC-20", "PC-21", "PC-22", "PC-23", "PC-23F", "PC-24", "PC-25", "PC-26", "PC-27",
    "PC-28"], Catalogued [id] := by
  decide +kernel

theorem Catalogued.append {ids more : List String} (h : Catalogued ids) (hmore : Catalogued more) :
    Catalogued (ids ++ more) := by
  rw [Catalogued, List.all_append, Bool.and_eq_true]
  exact ⟨h, hmore⟩

/-- An outcome with catalogued transitions and an admissible move of region one. -/
structure RegionOneMove (state : TradingStateConfiguration) (context : TradingContextView)
    (outcome : TransitionOutcome) : Prop where
  catalogued : Catalogued outcome.transitionIds
  move : OwnershipMove context outcome.transitionIds state.ownership outcome.stateAfter.ownership

section RegionOne

variable {context : TradingContextView} {event : TradingEvent} {state : TradingStateConfiguration}
  {outcome : TransitionOutcome}

variable {id : String} {extra : List String} {actions : List TradingActionRequest}
  {after : TradingStateConfiguration} {exclusive : Bool}

theorem RegionOneMove.create (hids : Catalogued (id :: extra))
    (hmove : OwnershipMove context (id :: extra) state.ownership after.ownership) :
    RegionOneMove state context (createTransitionOutcome id after actions extra exclusive) :=
  ⟨hids, hmove⟩

/-- A transition that keeps region one. -/
theorem RegionOneMove.createStay (hids : Catalogued (id :: extra))
    (hstate : after.ownership = state.ownership) :
    RegionOneMove state context (createTransitionOutcome id after actions extra exclusive) :=
  .create hids (hstate ▸ .stay _)

/-! ### Ownership -/

theorem ownership_of_caseB {substate : CaseBPositionState}
    (h : state.caseBPositionState = some substate) :
    state.ownership = some (.caseB substate) ∧
      ∀ region, (state.withOwnership region).ownership = some region := by
  rcases state with _ | _ | _ | _ | ⟨_ | _ | _, _, _⟩ <;>
    simp_all [TradingStateConfiguration.caseBPositionState, TradingStateConfiguration.ownership,
      TradingStateConfiguration.withOwnership]

theorem checkCaseBHolding_move (isStart : Bool) :
    RegionOneMove state context (checkCaseBHolding state isStart context) := by
  unfold checkCaseBHolding
  split <;> cases isStart <;> exact .createStay (catalogued_caseB _ (by simp)) rfl

/-- The transition IDs of the tables of Case B. -/
theorem catalogued_caseBHoldingExit {eventType : TradingEventType} {exit : String × ExitReason}
    (h : caseBHoldingExitByEvent eventType = some exit) : Catalogued [exit.1] := by
  unfold caseBHoldingExitByEvent at h
  split at h <;> cases h <;> exact catalogued_caseB _ (by simp)

theorem catalogued_caseBInitialFailure {reason : ExitReason} {id : String}
    (h : caseBInitialFailureTransitionIdByReason reason = some id) : Catalogued [id] := by
  unfold caseBInitialFailureTransitionIdByReason at h
  split at h <;> cases h <;> exact catalogued_caseB _ (by simp)

theorem CaseBHoldingRow.move {substate : CaseBPositionState}
    (hstate : state.caseBPositionState = some substate)
    (h : CaseBHoldingRow state event context outcome) : RegionOneMove state context outcome := by
  obtain ⟨hbefore, hwith⟩ := ownership_of_caseB hstate
  cases h with
  | check => exact checkCaseBHolding_move _
  | upperTrend =>
      refine .create (catalogued_caseB _ (by simp)) ?_
      rw [hbefore, hwith]
      exact .manageCaseB _ _
  | sellFailed _ _ hid =>
      refine .createStay ?_ rfl
      split
      · exact catalogued_caseBInitialFailure hid
      · exact catalogued_caseB _ (by simp)
  | sellRetry => exact .createStay (catalogued_caseB _ (by simp)) rfl
  | exit hexit => exact .createStay (catalogued_caseBHoldingExit hexit) rfl

theorem TrendHoldRow.move (h : TrendHoldRow state event context outcome) :
    RegionOneMove state context outcome := by
  cases h with
  | sell | remains | exit | sellRetry => exact .createStay (catalogued_caseB _ (by simp)) rfl
  | sellFailed =>
      refine .createStay ?_ rfl
      split <;> exact catalogued_caseB _ (by simp)

theorem ownership_of_caseC {substate : CaseCPositionState}
    (h : state.caseCPositionState = some substate) :
    state.ownership = some (.caseC substate) ∧
      ∀ region, (state.withOwnership region).ownership = some region := by
  rcases state with _ | _ | _ | _ | ⟨_ | _ | _, _, _⟩ <;>
    simp_all [TradingStateConfiguration.caseCPositionState, TradingStateConfiguration.ownership,
      TradingStateConfiguration.withOwnership]

theorem checkCaseCHolding_move (isStart : Bool) :
    RegionOneMove state context (checkCaseCHolding state isStart context) := by
  unfold checkCaseCHolding
  split <;> cases isStart <;> exact .createStay (catalogued_caseC _ (by simp)) rfl

theorem checkTpTrailing_move (isStart : Bool) :
    RegionOneMove state context (checkTpTrailing state isStart context) := by
  unfold checkTpTrailing
  split <;> cases isStart <;> exact .createStay (catalogued_caseC _ (by simp)) rfl

theorem enterProfitZone_move {substate : CaseCPositionState}
    (hstate : state.caseCPositionState = some substate)
    (h : enterProfitZone state context = .ok outcome) : RegionOneMove state context outcome := by
  obtain ⟨hbefore, hwith⟩ := ownership_of_caseC hstate
  obtain ⟨_, -, h⟩ := Except.bind_eq_ok_iff.mp h
  obtain ⟨_, -, h⟩ := Except.bind_eq_ok_iff.mp h
  obtain ⟨_, -, h⟩ := Except.bind_eq_ok_iff.mp h
  cases h
  refine .create (catalogued_caseC _ (by simp)) ?_
  rw [hbefore, hwith]
  exact .manageCaseC _ _

theorem handleTimeExitOrFailure_move {returnState : PositionReturnState} {repeatedId : String}
    (hrepeated : Catalogued [repeatedId])
    (h : handleTimeExitOrFailure state event context returnState repeatedId = some outcome) :
    RegionOneMove state context outcome := by
  unfold handleTimeExitOrFailure at h
  split at h
  · cases h
    exact .createStay (catalogued_caseC _ (by simp)) rfl
  split at h
  · cases h
    refine .createStay ?_ rfl
    split
    · exact catalogued_caseC _ (by simp)
    · exact hrepeated
  · cases h

theorem retryCaseCExit_move {returnState : PositionReturnState} {retryId : String}
    (hretry : Catalogued [retryId])
    (h : retryCaseCExit retryId state returnState event context = some outcome) :
    RegionOneMove state context outcome := by
  unfold retryCaseCExit at h
  split at h
  · split at h
    · cases h
      exact .createStay hretry rfl
    · cases h
  · cases h

theorem CaseCHoldingRow.move {substate : CaseCPositionState}
    (hstate : state.caseCPositionState = some substate)
    (h : CaseCHoldingRow state event context outcome) : RegionOneMove state context outcome := by
  cases h with
  | check => exact checkCaseCHolding_move _
  | stop => exact .createStay (catalogued_caseC _ (by simp)) rfl
  | profitZone _ _ _ h => exact enterProfitZone_move hstate h
  | shared h => exact handleTimeExitOrFailure_move (catalogued_caseC _ (by simp)) h
  | sellFailed =>
      refine .createStay ?_ rfl
      split <;> exact catalogued_caseC _ (by simp)
  | sellRetry h => exact retryCaseCExit_move (catalogued_caseC _ (by simp)) h

theorem catalogued_trailingFailureId : Catalogued [trailingFailureId event context] := by
  unfold trailingFailureId
  split
  · exact catalogued_caseC _ (by simp)
  split <;> exact catalogued_caseC _ (by simp)

theorem TpTrailingRow.move (h : TpTrailingRow state event context outcome) :
    RegionOneMove state context outcome := by
  cases h with
  | check => exact checkTpTrailing_move _
  | increased | fallback | decreased => exact .createStay (catalogued_caseC _ (by simp)) rfl
  | shared h => exact handleTimeExitOrFailure_move (catalogued_caseC _ (by simp)) h
  | sellFailed => exact .createStay catalogued_trailingFailureId rfl
  | sellRetry h => exact retryCaseCExit_move (catalogued_caseC _ (by simp)) h

/-- A transition with catalogued IDs that keeps region one. -/
structure SignalMove (state : TradingStateConfiguration) (outcome : TransitionOutcome) : Prop where
  catalogued : Catalogued outcome.transitionIds
  ownership : outcome.stateAfter.ownership = state.ownership

theorem SignalMove.create (hids : Catalogued (id :: extra))
    (hstate : after.ownership = state.ownership) :
    SignalMove state (createTransitionOutcome id after actions extra exclusive) :=
  ⟨hids, hstate⟩

/-- What has been selected so far is catalogued and moves region one. -/
structure Selection.Moves (selection : Selection) (state : TradingStateConfiguration)
    (context : TradingContextView) : Prop where
  catalogued : Catalogued selection.transitionIds
  move : OwnershipMove context selection.transitionIds state.ownership selection.state.ownership

end RegionOne

end Trading
