import AutoTrader.Support.Checkpoints
import AutoTrader.Trading.Session.ActionBatch
import AutoTrader.Trading.Session.SessionCommands

/-!
# What a context version says about the context

All methods of `TradingContext` that write, and the checkpoints of a start that fails.

* `ContextOperation.call` — a method; one that raises writes nothing.
* `ContextContents` — what a snapshot shows besides its version.
* `follows_operate` — a method that changes the contents raises the version.
* `version_reused` — a failed start gives its version back, and the next change takes it
  again, so a snapshot taken during the start has the version of other contents.
* `version_identifies_contents` — snapshots with one version agree unless the earlier one
  was undone by a restore.
-/

namespace Trading.Commands

open Checkpoints

variable {types : SessionTypes}

/-- What a snapshot shows besides its version and its time. -/
structure ContextContents where
  market : MarketEvaluationSnapshot
  runtime : TradingRuntimeSnapshot
  position : PositionSnapshot
  pendingOrder : Option PendingOrderSnapshot
  initialized : Bool
  selectedRegime : Option RegimeType
  scaleInRatio : DecimalTuple
  scaleOutRatio : DecimalTuple

namespace SessionContext

/-- The contents of a snapshot taken now. -/
def contents (context : SessionContext types) : ContextContents where
  market := context.market
  runtime := context.runtime
  position := context.position
  pendingOrder := context.pendingOrder
  initialized := context.initialized
  selectedRegime := context.selectedRegime
  scaleInRatio := context.scaleInRatio
  scaleOutRatio := context.scaleOutRatio

/-- The context with its snapshots replaced. -/
def withSnapshots (context : SessionContext types) (snapshots : TradingContext) :
    SessionContext types :=
  { context with toTradingContext := snapshots }

/-- The runtime after one patch of a result. -/
def patchRuntime (runtime : TradingRuntimeSnapshot) :
    TradingActionRequest → Except TradingError TradingRuntimeSnapshot
  | .patchRuntimeContext changes => do
      Except.require (changes.map (·.field)).Nodup
        (.valueError "Runtime patch must not contain duplicate fields")
      (applyChanges changes runtime.toRuntimeFields).validate
  | _ => .ok runtime

/-- `apply_trading_stm_result`: the patches of a result as one change. -/
def applyTradingStmResult (context : SessionContext types) (result : TradingSTMResult) :
    Except TradingError (SessionContext types) := do
  Except.require (result.contextVersion = context.version)
    (.runtimeError "TradingSTM result context version is stale")
  let runtime ← result.actionRequests.foldlM patchRuntime context.runtime
  match h : validatePendingAlignment runtime.toRuntimeFields context.pendingOrder with
  | .ok () => .ok (context.withSnapshots
      (context.replaceRuntime runtime (validatePendingAlignment_eq_ok_iff.mp h)))
  | .error e => .error e

end SessionContext

/-- A call of a method that writes the context. -/
inductive ContextOperation (types : SessionTypes) where
  | initializeContext (account : types.Account) (selectedRegime : RegimeType)
      (position : PositionSnapshot) (scaleInRatio scaleOutRatio : DecimalTuple)
  | updateMarket (market : MarketEvaluationSnapshot)
  | updatePosition (position : PositionSnapshot) (owner : Option StrategyType)
  | updatePendingOrder (order : Option PendingOrderSnapshot) (preserveIntentId : Bool)
  | clearPendingOrder
  | selectRegime (regimeType : RegimeType)
  | setSplitRatios (scaleIn scaleOut : DecimalTuple)
  | applyRuntimePatch (changes : List RuntimeFieldChange)
  | applyTradingStmResult (result : TradingSTMResult)
  | openLowerEvent (action : OpenLowerEvent)
  | closeLowerEvent (reason : String)
  | resetCaseBContext (preserveSignal : Bool)
  | resetCaseCContext (preserveExitResult preserveSetupCandle : Bool)

namespace ContextOperation

/-- The call itself. -/
def call (context : SessionContext types) :
    ContextOperation types → Except TradingError (SessionContext types)
  | initializeContext account selectedRegime position scaleInRatio scaleOutRatio =>
      context.initializeContext account selectedRegime position scaleInRatio scaleOutRatio
  | updateMarket market => .ok (context.withSnapshots (context.updateMarket market))
  | updatePosition position owner => do
      return context.withSnapshots (← context.updatePosition position owner)
  | updatePendingOrder none preserveIntentId =>
      .ok (context.withSnapshots (context.clearPendingOrder preserveIntentId))
  | updatePendingOrder (some order) _ =>
      .ok (context.withSnapshots (context.setPendingOrder order))
  | clearPendingOrder => .ok (context.withSnapshots context.clearPendingIntent)
  | selectRegime regimeType => .ok (context.selectRegime regimeType)
  | setSplitRatios scaleIn scaleOut => context.setSplitRatios scaleIn scaleOut
  | applyRuntimePatch changes => do
      return context.withSnapshots (← context.applyRuntimePatch changes)
  | applyTradingStmResult result => context.applyTradingStmResult result
  | openLowerEvent action => .ok (context.withSnapshots (context.openLowerEvent action))
  | closeLowerEvent reason => do
      Except.require (reason ≠ "") (.valueError "CloseLowerEvent reason must not be empty")
      return context.withSnapshots context.closeLowerEvent
  | resetCaseBContext preserveSignal =>
      .ok (context.withSnapshots (context.resetCaseBContext preserveSignal))
  | resetCaseCContext preserveExitResult preserveSetupCandle =>
      .ok (context.withSnapshots
        (context.resetCaseCContext preserveExitResult preserveSetupCandle))

/-- The context after the call. -/
def operate (context : SessionContext types) (operation : ContextOperation types) :
    SessionContext types :=
  match operation.call context with
  | .ok next => next
  | .error _ => context

end ContextOperation

/-! ## One method -/

/-- The version did not go down, and where it stayed the contents did. -/
abbrev ContextFollows (context next : SessionContext types) : Prop :=
  Follows (fun context : SessionContext types => context.version) SessionContext.contents
    context next

variable {context next : SessionContext types}

/-- The snapshots either stay or get the next version. -/
theorem contextFollows_withSnapshots {snapshots : TradingContext}
    (h : snapshots = context.toTradingContext ∨ snapshots.version = context.version + 1) :
    ContextFollows context (context.withSnapshots snapshots) := by
  rcases h with rfl | h
  · exact .refl context
  · exact .of_lt (by
      show context.version < snapshots.version
      rw [h]
      exact Nat.lt_succ_self _)

theorem replaceRuntime_cases (snapshots : TradingContext) (runtime : TradingRuntimeSnapshot)
    (h : PendingAligned runtime.toRuntimeFields snapshots.pendingOrder) :
    snapshots.replaceRuntime runtime h = snapshots ∨
      (snapshots.replaceRuntime runtime h).version = snapshots.version + 1 := by
  unfold TradingContext.replaceRuntime
  split
  · exact .inl rfl
  · exact .inr rfl

theorem applyRuntimePatch_cases {snapshots after : TradingContext}
    {changes : List RuntimeFieldChange} (h : snapshots.applyRuntimePatch changes = .ok after) :
    after = snapshots ∨ after.version = snapshots.version + 1 := by
  obtain ⟨runtime, -, h⟩ := Except.bind_eq_ok_iff.mp h
  split at h
  · cases h
    exact replaceRuntime_cases _ _ _
  · cases h

theorem updatePosition_cases {snapshots after : TradingContext} {position : PositionSnapshot}
    {owner : Option StrategyType} (h : snapshots.updatePosition position owner = .ok after) :
    after = snapshots ∨ after.version = snapshots.version + 1 := by
  obtain ⟨-, h⟩ := Except.require_bind_eq_ok_iff.mp h
  split at h
  · cases h
    exact .inl rfl
  · cases h
    exact .inr rfl

theorem applyTradingStmResult_follows {result : TradingSTMResult}
    (h : context.applyTradingStmResult result = .ok next) : ContextFollows context next := by
  obtain ⟨-, h⟩ := Except.require_bind_eq_ok_iff.mp h
  obtain ⟨runtime, -, h⟩ := Except.bind_eq_ok_iff.mp h
  split at h
  · cases h
    exact contextFollows_withSnapshots (replaceRuntime_cases _ _ _)
  · cases h

theorem initializeContext_follows {account : types.Account} {selectedRegime : RegimeType}
    {position : PositionSnapshot} {scaleInRatio scaleOutRatio : DecimalTuple}
    (h : context.initializeContext account selectedRegime position scaleInRatio scaleOutRatio =
      .ok next) : ContextFollows context next := by
  obtain ⟨_, -, h⟩ := Except.bind_eq_ok_iff.mp h
  obtain ⟨_, -, h⟩ := Except.bind_eq_ok_iff.mp h
  cases h
  exact .of_lt (Nat.lt_succ_self _)

theorem setSplitRatios_follows {scaleIn scaleOut : DecimalTuple}
    (h : context.setSplitRatios scaleIn scaleOut = .ok next) : ContextFollows context next := by
  obtain ⟨_, -, h⟩ := Except.bind_eq_ok_iff.mp h
  obtain ⟨_, -, h⟩ := Except.bind_eq_ok_iff.mp h
  split at h
  · cases h
    exact .refl context
  · cases h
    exact .of_lt (Nat.lt_succ_self _)

/-- A method that returns raised the version or changed nothing. -/
theorem call_follows {operation : ContextOperation types}
    (h : operation.call context = .ok next) : ContextFollows context next := by
  cases operation with
  | initializeContext => exact initializeContext_follows h
  | updateMarket market =>
      cases h
      refine contextFollows_withSnapshots ?_
      unfold TradingContext.updateMarket
      split
      · exact .inl rfl
      · exact .inr rfl
  | updatePosition position owner =>
      obtain ⟨after, hafter, h⟩ := Except.bind_eq_ok_iff.mp h
      cases h
      exact contextFollows_withSnapshots (updatePosition_cases hafter)
  | updatePendingOrder order preserveIntentId =>
      cases order with
      | none =>
          cases h
          refine contextFollows_withSnapshots ?_
          unfold TradingContext.clearPendingOrder
          split
          · exact .inl rfl
          · exact .inr rfl
      | some order =>
          cases h
          refine contextFollows_withSnapshots ?_
          unfold TradingContext.setPendingOrder
          split
          · exact .inl rfl
          · exact .inr rfl
  | clearPendingOrder =>
      cases h
      refine contextFollows_withSnapshots ?_
      unfold TradingContext.clearPendingIntent
      split
      · exact .inl rfl
      · exact .inr rfl
  | selectRegime regimeType =>
      cases h
      unfold SessionContext.selectRegime
      split
      · exact .refl context
      · exact .of_lt (Nat.lt_succ_self _)
  | setSplitRatios => exact setSplitRatios_follows h
  | applyRuntimePatch changes =>
      obtain ⟨after, hafter, h⟩ := Except.bind_eq_ok_iff.mp h
      cases h
      exact contextFollows_withSnapshots (applyRuntimePatch_cases hafter)
  | applyTradingStmResult => exact applyTradingStmResult_follows h
  | openLowerEvent action =>
      cases h
      exact contextFollows_withSnapshots (replaceRuntime_cases _ _ _)
  | closeLowerEvent reason =>
      obtain ⟨-, h⟩ := Except.require_bind_eq_ok_iff.mp h
      cases h
      exact contextFollows_withSnapshots (replaceRuntime_cases _ _ _)
  | resetCaseBContext preserveSignal =>
      cases h
      exact contextFollows_withSnapshots (replaceRuntime_cases _ _ _)
  | resetCaseCContext preserveExitResult preserveSetupCandle =>
      cases h
      exact contextFollows_withSnapshots (replaceRuntime_cases _ _ _)

theorem follows_operate (context : SessionContext types) (operation : ContextOperation types) :
    ContextFollows context (ContextOperation.operate context operation) := by
  unfold ContextOperation.operate
  cases h : operation.call context with
  | ok next => exact call_follows h
  | error error => exact .refl context

/-! ## Histories -/

/-- A context with the checkpoints that were made of it. -/
abbrev ContextStore (types : SessionTypes) := Store (SessionContext types)

/-- The store after a history of methods, checkpoints and restores. -/
abbrev ContextStore.after (store : ContextStore types)
    (calls : List (Checkpoints.Call (ContextOperation types))) : ContextStore types :=
  Store.run ContextOperation.operate store calls

/-- Two snapshots of a history that have one version agree, unless a restore between them
goes back to a checkpoint that is older than the earlier snapshot and has a lower version, or
its version and other contents. -/
theorem version_identifies_contents (start : ContextStore types)
    (before between : List (Checkpoints.Call (ContextOperation types)))
    (hkept : ¬ Undone (fun context : SessionContext types => context.version)
      SessionContext.contents (start.after before) between)
    (hversion : (start.after before).current.version =
      (start.after (before ++ between)).current.version) :
    (start.after before).current.contents =
      (start.after (before ++ between)).current.contents := by
  have hfollows := follows_of_not_undone follows_operate (start.after before) between hkept
  unfold ContextStore.after at hversion ⊢
  rw [Store.run_append] at hversion ⊢
  exact hfollows.content_eq hversion

/-- A new context. -/
def newStore : ContextStore bareTypes := ⟨{}, []⟩

/-- A start that fails: the snapshot after its checkpoint, and the one after the restore. -/
theorem version_identifies_contents_failedStart :
    (ContextStore.after newStore [.createCheckpoint]).current.contents =
      (ContextStore.after newStore
        ([.createCheckpoint] ++ [.operate (.selectRegime .type0),
          .restoreCheckpoint 0])).current.contents := by
  refine version_identifies_contents newStore [.createCheckpoint]
    [.operate (.selectRegime .type0), .restoreCheckpoint 0] ?_ (by decide +kernel)
  rintro ⟨number, saved, -, hsaved, hlost⟩
  -- the only checkpoint is the state of the snapshot
  obtain rfl : saved = (ContextStore.after newStore [.createCheckpoint]).current :=
    List.mem_singleton.mp (List.mem_of_getElem? hsaved)
  exact hlost (.refl _)

/-- A start that fails after the context was set up, and then another selection. -/
def failedStart : List (Checkpoints.Call (ContextOperation bareTypes)) :=
  [.createCheckpoint,
    .operate (.initializeContext () .type0 {} ⟨false, [5], .finite (-1)⟩
      ⟨false, [5], .finite (-1)⟩),
    .restoreCheckpoint 0,
    .operate (.selectRegime .type1)]

/-- The snapshot of the failed start and the one after the next selection have version 1,
and show two selections. -/
theorem version_reused :
    ¬ ∀ (start : ContextStore bareTypes) (before between :
        List (Checkpoints.Call (ContextOperation bareTypes))),
      (start.after before).current.version = (start.after (before ++ between)).current.version →
      (start.after before).current.contents =
        (start.after (before ++ between)).current.contents := by
  intro h
  have hcontents := h newStore (failedStart.take 2) (failedStart.drop 2) (by decide +kernel)
  have hregime := congrArg ContextContents.selectedRegime hcontents
  revert hregime
  decide +kernel

end Trading.Commands
