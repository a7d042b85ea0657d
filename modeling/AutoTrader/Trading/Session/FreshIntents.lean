import AutoTrader.Support.Text
import AutoTrader.Trading.OrderDiscipline
import AutoTrader.Trading.Session.EventProcessor
import AutoTrader.Trading.Session.PendingJournal

/-!
# Intent IDs over several sessions

A new intent ID names its strategy, side, exit reason, lower-touch event and the queue
number of its event.  Queue numbers start again with every session; the pending-order
journal and the submission counts do not.

* `IntentOrigin` — what a new intent ID is built from, and that it is determined by it.
* `SessionRun`, `SessionRun.Step` — sessions that share one journal, and what can happen.
* `SessionRun.Known` — the journal and the counts know only keys that were submitted.
* `SessionRun.isFresh_iff` — a new intent is fresh unless an earlier session built one from the
  same origin; `SessionRun.secondSession_not_fresh` is two sessions in one candle.
-/

namespace Trading

open Arithmetic

/-! ## Intent IDs -/

/-- What a new intent ID is built from. -/
structure IntentOrigin where
  strategy : StrategyType
  exitReason : Option ExitReason
  lowerEventId : String
  sequenceNumber : ℕ
  deriving DecidableEq

namespace IntentOrigin

/-- The side and the reason, as an intent ID shows them. -/
def purpose : Option ExitReason → String
  | none => "BUY"
  | some reason => "SELL:" ++ reason.str

/-- The intent ID of an origin. -/
def intentId (origin : IntentOrigin) : String :=
  origin.strategy.str ++ ":" ++ purpose origin.exitReason ++ ":" ++ origin.lowerEventId ++ ":" ++
    toString origin.sequenceNumber

/-- The origin of an order that is built on an event. -/
def ofOrder (event : TradingEvent) (context : TradingContextView) (order : SubmitOrder) :
    IntentOrigin where
  strategy := order.strategy
  exitReason := order.exitReason
  lowerEventId := optionText context.runtime.lowerEventId
  sequenceNumber := event.sequenceNumber

theorem colon_notMem_strategy (strategy : StrategyType) : ':' ∉ strategy.str.toList := by
  cases strategy <;> decide

theorem colon_notMem_reason (reason : ExitReason) : ':' ∉ reason.str.toList := by
  cases reason <;> decide

theorem strategy_injective {a b : StrategyType} (h : a.str.toList = b.str.toList) : a = b := by
  revert h
  cases a <;> cases b <;> decide

theorem reason_injective {a b : ExitReason} (h : a.str.toList = b.str.toList) : a = b := by
  revert h
  cases a <;> cases b <;> decide

/-- The characters of an intent ID, field by field. -/
theorem toList_intentId (origin : IntentOrigin) :
    origin.intentId.toList = origin.strategy.str.toList ++ ':' :: ((purpose origin.exitReason).toList
      ++ ':' :: (origin.lowerEventId.toList ++ ':' :: (toString origin.sequenceNumber).toList)) := by
  simp [intentId, String.toList_append]

/-- The purpose and what follows it are determined by the text. -/
theorem purpose_cons_inj {a b : Option ExitReason} {xs ys : List Char}
    (h : (purpose a).toList ++ ':' :: xs = (purpose b).toList ++ ':' :: ys) : a = b ∧ xs = ys := by
  cases a with
  | none =>
      cases b with
      | none => exact ⟨rfl, (Text.append_cons_inj_left (by decide) (by decide) h).2⟩
      | some reason => simp [purpose, String.toList_append] at h
  | some first =>
      cases b with
      | none => simp [purpose, String.toList_append] at h
      | some second =>
          simp only [purpose, String.toList_append, List.append_assoc, List.append_cancel_left_eq]
            at h
          obtain ⟨hreason, hrest⟩ := Text.append_cons_inj_left (colon_notMem_reason _)
            (colon_notMem_reason _) h
          exact ⟨by rw [reason_injective hreason], hrest⟩

/-- Different origins have different intent IDs. -/
theorem intentId_injective {a b : IntentOrigin} (h : a.intentId = b.intentId) : a = b := by
  have hlist := congrArg String.toList h
  rw [toList_intentId, toList_intentId] at hlist
  obtain ⟨hstrategy, hlist⟩ := Text.append_cons_inj_left (colon_notMem_strategy _)
    (colon_notMem_strategy _) hlist
  obtain ⟨hpurpose, hlist⟩ := purpose_cons_inj hlist
  obtain ⟨hlower, hnumber⟩ := Text.append_cons_inj_right
    (Text.notMem_toString (by decide) _) (Text.notMem_toString (by decide) _) hlist
  cases a
  cases b
  simp only [mk.injEq]
  exact ⟨strategy_injective hstrategy, hpurpose, String.toList_injective hlower,
    Text.toString_injective hnumber⟩

end IntentOrigin

/-- `_force_sell_intent_id` of a session. -/
def forceSellIntentId (sessionId : String) : String := "force-sell:" ++ sessionId

/-- A forced sale never goes by the ID of a strategy's intent. -/
theorem IntentOrigin.intentId_ne_forceSellIntentId (origin : IntentOrigin) (sessionId : String) :
    origin.intentId ≠ forceSellIntentId sessionId := by
  intro h
  have hlist := congrArg String.toList h
  rw [toList_intentId, forceSellIntentId, String.toList_append] at hlist
  cases hstrategy : origin.strategy <;> rw [hstrategy] at hlist <;>
    exact absurd (congrArg List.head? hlist) (by simp [StrategyType.str])

/-! ## The submissions of a microstep -/

variable {event : TradingEvent} {context : TradingContextView} {state : TradingStateConfiguration}
variable {result : TradingSTMResult} {order : SubmitOrder}

/-- A submission takes over the pending intent ID, or builds a new one. -/
theorem OrderShape.idempotencyKey {actions : List TradingActionRequest}
    (h : OrderShape event context actions) (hmem : .submitOrder order ∈ actions) :
    order.idempotencyKey = orText context.runtime.pendingIntentId
      (IntentOrigin.ofOrder event context order).intentId := by
  cases h with
  | plain h => exact absurd hmem (h.submitOrder_not_mem order)
  | entry hbefore hafter =>
      rcases List.mem_append.mp hmem with hmem | hmem
      · exact absurd hmem (hbefore.submitOrder_not_mem order)
      rcases List.mem_append.mp hmem with hmem | hmem
      · simp only [createEntryOrderActions, patch, List.mem_cons, reduceCtorEq, false_or,
          TradingActionRequest.submitOrder.injEq, List.not_mem_nil, or_false] at hmem
        subst hmem
        simp only [freshEntryIntentId, IntentOrigin.intentId, IntentOrigin.ofOrder,
          IntentOrigin.purpose, String.append_assoc]
        rfl
      · exact absurd hmem (hafter.submitOrder_not_mem order)
  | exit hbefore hafter =>
      rcases List.mem_append.mp hmem with hmem | hmem
      · exact absurd hmem (hbefore.submitOrder_not_mem order)
      rcases List.mem_append.mp hmem with hmem | hmem
      · simp only [createExitOrderActions, patch, List.mem_cons, reduceCtorEq, false_or,
          TradingActionRequest.submitOrder.injEq, List.not_mem_nil, or_false] at hmem
        subst hmem
        simp only [freshExitIntentId, IntentOrigin.intentId, IntentOrigin.ofOrder,
          IntentOrigin.purpose, String.append_assoc]
        rfl
      · exact absurd hmem (hafter.submitOrder_not_mem order)
  | forceSell hbefore hafter =>
      rcases List.mem_append.mp hmem with hmem | hmem
      · exact absurd hmem (hbefore.submitOrder_not_mem order)
      · exact absurd ((List.mem_cons.mp hmem).resolve_left (by simp))
          (hafter.submitOrder_not_mem order)

/-- The signal regions order nothing on an expired preparation. -/
theorem handleSignalRegions_plain_of_expired {selection final : Selection}
    (hevent : event.eventType = .orderPreparationExpired)
    (hstart : AllPlain event context selection.actions)
    (h : handleSignalRegions selection event context = .ok final) :
    AllPlain event context final.actions := by
  have hmarket : event.eventType ≠ .marketDataUpdated := by simp [hevent]
  have hsignal : ∀ {strategy actions}, SignalShape strategy event context actions →
      AllPlain event context actions := by
    intro strategy actions hshape
    cases hshape with
    | plain h => exact h
    | order horder => rw [hevent] at horder; cases horder
  obtain ⟨caseC, hcaseC, h⟩ := Except.bind_eq_ok_iff.mp h
  rw [← Except.pure_eq_ok_iff.mp h]
  have hmiddle : AllPlain event context (selection.accept caseC).actions := by
    cases caseC with
    | none => exact hstart
    | some outcome =>
        rw [resolveCaseCRegionEvent, if_pos hmarket] at hcaseC
        exact allPlain_append.mpr ⟨hstart, hsignal (handleCaseCSignalTransition_shape hcaseC)⟩
  generalize hfilter : Option.filter _ _ = caseB
  cases caseB with
  | none => exact hmiddle
  | some outcome =>
      have hcaseB := (Option.filter_eq_some_iff.mp hfilter).1
      rw [resolveCaseBRegionEvent, if_pos hmarket] at hcaseB
      exact allPlain_append.mpr ⟨hmiddle, hsignal (handleCaseBSignalTransition_shape hcaseB)⟩

/-- An expired preparation only sets the signal back. -/
theorem submitOrder_notMem_of_expired (hevent : event.eventType = .orderPreparationExpired)
    (h : handle state event context = .ok result) : .submitOrder order ∉ result.actionRequests := by
  obtain ⟨global, hglobal, h⟩ := Except.bind_eq_ok_iff.mp h
  cases global with
  | some outcome =>
      rw [commit_actionRequests h]
      rcases (handleGlobalTransition_row hglobal).shape with hplain | ⟨hsale, -⟩
      · exact hplain.submitOrder_not_mem order
      · simp [hevent] at hsale
  | none =>
      dsimp only at h
      split at h
      · cases h
        simp [noOp]
      · rw [if_neg (by simp [hevent])] at h
        obtain ⟨regionOne, hone, h⟩ := Except.bind_eq_ok_iff.mp h
        have hsame : resolveRegionOneEvent state event = event := if_pos (by simp [hevent])
        have hstart : AllPlain event context
            ((⟨state, [], []⟩ : Selection).accept regionOne).actions := by
          cases regionOne with
          | none => exact allPlain_nil
          | some outcome =>
              rw [hsame] at hone
              cases handleRegionOne_shape hone with
              | plain h => exact h
              | order horder => rw [hevent] at horder; cases horder
        dsimp only at h
        split at h
        · rw [commit_actionRequests h]
          exact hstart.submitOrder_not_mem order
        · obtain ⟨final, hfinal, h⟩ := Except.bind_eq_ok_iff.mp h
          have hplain := handleSignalRegions_plain_of_expired hevent hstart hfinal
          split at h
          · cases h
            simp [noOp]
          · rw [commit_actionRequests h]
            exact AllPlain.submitOrder_not_mem
              (allPlain_append.mpr ⟨hplain, completionActions_plain _ _⟩) order

/-- The submissions among the requests of a microstep. -/
def submissions (actions : List TradingActionRequest) : List SubmitOrder :=
  actions.filterMap fun action =>
    match action with
    | .submitOrder order => some order
    | _ => none

theorem mem_submissions {actions : List TradingActionRequest} :
    order ∈ submissions actions ↔ .submitOrder order ∈ actions := by
  simp only [submissions, List.mem_filterMap]
  constructor
  · rintro ⟨action, haction, heq⟩
    cases action <;> simp_all
  · intro h
    exact ⟨_, h, rfl⟩

/-- An intent ID is pending, so an order takes it over. -/
def takesOver (context : TradingContextView) : Bool :=
  context.runtime.pendingIntentId.any fun intentId => !intentId.isEmpty

theorem orText_of_takesOver {pending : Option String} {text : String}
    (h : (pending.any fun intentId => !intentId.isEmpty) = true) :
    pending = some (orText pending text) := by
  cases pending with
  | none => cases h
  | some intentId =>
      simp only [Option.any_some, Bool.not_eq_true'] at h
      simp [orText, h]

theorem orText_of_not_takesOver {pending : Option String} {text : String}
    (h : (pending.any fun intentId => !intentId.isEmpty) = false) : orText pending text = text := by
  cases pending with
  | none => rfl
  | some intentId =>
      simp only [Option.any_some, Bool.not_eq_false'] at h
      simp [orText, h]

/-! ## The pending intent ID -/

/-- The pending intent ID after a patch. -/
def intentIdAfterPatch (changes : List RuntimeFieldChange) (pending : Option String) :
    Option String :=
  changes.foldl (fun pending change =>
    match change with
    | ⟨.pendingIntentId, value⟩ => value
    | _ => pending) pending

/-- The pending intent ID after the requests of a microstep were carried out. -/
def intentIdAfter (actions : List TradingActionRequest) (pending : Option String) :
    Option String :=
  actions.foldl (fun pending action =>
    match action with
    | .patchRuntimeContext changes => intentIdAfterPatch changes pending
    | _ => pending) pending

/-- What holds of the pending ID and of every ID a patch writes holds afterwards. -/
theorem intentIdAfterPatch_of {P : Option String → Prop} {changes : List RuntimeFieldChange}
    {pending : Option String} (hpending : P pending)
    (h : ∀ value, ⟨.pendingIntentId, value⟩ ∈ changes → P value) :
    P (intentIdAfterPatch changes pending) := by
  induction changes generalizing pending with
  | nil => exact hpending
  | cons change changes ih =>
      obtain ⟨field, value⟩ := change
      refine ih ?_ fun later hlater => h later (List.mem_cons_of_mem _ hlater)
      by_cases hfield : field = .pendingIntentId
      · subst hfield
        exact h value List.mem_cons_self
      · cases field <;> first | exact hpending | exact absurd rfl hfield

theorem intentIdAfter_of {P : Option String → Prop} {actions : List TradingActionRequest}
    {pending : Option String} (hpending : P pending)
    (h : ∀ changes value, .patchRuntimeContext changes ∈ actions →
      ⟨.pendingIntentId, value⟩ ∈ changes → P value) :
    P (intentIdAfter actions pending) := by
  induction actions generalizing pending with
  | nil => exact hpending
  | cons action actions ih =>
      refine ih ?_ fun changes value hpatch => h changes value (List.mem_cons_of_mem _ hpatch)
      cases action with
      | patchRuntimeContext changes =>
          exact intentIdAfterPatch_of hpending fun value hvalue =>
            h changes value List.mem_cons_self hvalue
      | _ => exact hpending

theorem AllPlain.pendingIntentId {actions : List TradingActionRequest}
    (h : AllPlain event context actions) {changes : List RuntimeFieldChange}
    {value : Option String} (hpatch : .patchRuntimeContext changes ∈ actions)
    (hchange : ⟨.pendingIntentId, value⟩ ∈ changes) : value = none :=
  h _ hpatch _ hchange

/-- The pending intent ID is released, or reserved for the submission of the batch. -/
theorem OrderShape.pendingIntentId {actions : List TradingActionRequest}
    (h : OrderShape event context actions) {changes : List RuntimeFieldChange}
    {value : Option String} (hpatch : .patchRuntimeContext changes ∈ actions)
    (hchange : ⟨.pendingIntentId, value⟩ ∈ changes) :
    value = none ∨ ∃ order, .submitOrder order ∈ actions ∧ value = some order.idempotencyKey := by
  cases h with
  | plain h => exact .inl (h.pendingIntentId hpatch hchange)
  | entry hbefore hafter =>
      rcases List.mem_append.mp hpatch with hpatch | hpatch
      · exact .inl (hbefore.pendingIntentId hpatch hchange)
      rcases List.mem_append.mp hpatch with hpatch | hpatch
      · refine .inr ⟨_, List.mem_append_right _ (List.mem_append_left _
          (List.mem_cons_of_mem _ List.mem_cons_self)), ?_⟩
        simp only [createEntryOrderActions, patch, List.mem_cons, reduceCtorEq, or_false,
          TradingActionRequest.patchRuntimeContext.injEq, List.not_mem_nil] at hpatch
        subst hpatch
        simpa using hchange
      · exact .inl (hafter.pendingIntentId hpatch hchange)
  | exit hbefore hafter =>
      rename_i attemptKind _ _
      rcases List.mem_append.mp hpatch with hpatch | hpatch
      · exact .inl (hbefore.pendingIntentId hpatch hchange)
      rcases List.mem_append.mp hpatch with hpatch | hpatch
      · refine .inr ⟨_, List.mem_append_right _ (List.mem_append_left _
          (List.mem_cons_of_mem _ List.mem_cons_self)), ?_⟩
        simp only [createExitOrderActions, patch, List.mem_cons, reduceCtorEq, or_false,
          TradingActionRequest.patchRuntimeContext.injEq, List.not_mem_nil] at hpatch
        subst hpatch
        cases attemptKind <;> simpa using hchange
      · exact .inl (hafter.pendingIntentId hpatch hchange)
  | forceSell hbefore hafter =>
      rcases List.mem_append.mp hpatch with hpatch | hpatch
      · exact .inl (hbefore.pendingIntentId hpatch hchange)
      · exact .inl (hafter.pendingIntentId ((List.mem_cons.mp hpatch).resolve_left (by simp))
          hchange)

/-! ## The journal's keys -/

namespace PendingJournal

/-- Every intent ID the journal remembers anything of. -/
def intentIds (journal : PendingJournal) : List String :=
  journal.active.map (·.order.intentId) ++ (journal.attempts.map Prod.fst ++
    (journal.submissionCounts.map Prod.fst ++
      (journal.riskPolicyVersions.map Prod.fst ++ journal.exitPctBs.map Prod.fst)))

variable {journal next : PendingJournal} {saved : OrderIntentFields} {clientOrderId : String}
variable {appended : Bool} {lifecycle : PendingOrderRecoveryLifecycle}

theorem intentIds_insert :
    (journal.insert saved).intentIds ⊆ saved.intentId :: journal.intentIds := by
  intro intentId hmem
  simp only [intentIds, insert, List.map_append, List.map_cons, List.map_nil, List.mem_append,
    List.mem_cons, List.not_mem_nil, or_false] at hmem ⊢
  tauto

theorem save_intentIds (h : journal.save saved appended = .ok next) :
    next.intentIds ⊆ saved.intentId :: journal.intentIds := by
  unfold save at h
  split at h
  · split at h
    · cases h
      exact List.subset_cons_self _ _
    · cases h
  · obtain ⟨-, -, h⟩ := Except.bind_eq_ok_iff.mp h
    obtain ⟨-, h⟩ := Except.require_bind_eq_ok_iff.mp h
    cases h
    exact intentIds_insert

theorem setLifecycle_intentIds :
    (journal.setLifecycle clientOrderId lifecycle).intentIds = journal.intentIds := by
  have hactive : (journal.setLifecycle clientOrderId lifecycle).active.map (·.order.intentId) =
      journal.active.map (·.order.intentId) := by
    simp only [setLifecycle, List.map_map]
    apply List.map_congr_left
    intro record _
    simp only [Function.comp_apply]
    split <;> rfl
  rw [intentIds, hactive]
  rfl

theorem transition_intentIds
    (h : journal.transition clientOrderId lifecycle appended = .ok next) :
    next.intentIds ⊆ journal.intentIds := by
  unfold transition at h
  split at h
  · cases h
  split at h
  · cases h
  split at h
  · cases h
    exact List.Subset.refl _
  split at h
  · split at h
    · cases h
      rw [setLifecycle_intentIds]
      exact List.Subset.refl _
    · cases h
  · cases h

theorem delete_intentIds (h : journal.delete clientOrderId appended = .ok next) :
    next.intentIds ⊆ journal.intentIds := by
  unfold delete at h
  split at h
  · cases h
    exact List.Subset.refl _
  split at h
  · cases h
    intro intentId hmem
    rcases List.mem_append.mp hmem with hmem | hmem
    · exact List.mem_append_left _ (List.map_subset _ List.filter_sublist.subset hmem)
    · exact List.mem_append_right _ hmem
  · cases h

/-- An order of an unknown intent under a new client order ID meets no conflict. -/
theorem save_of_unknown (hintent : saved.intentId ∉ journal.intentIds)
    (hclient : ∀ record ∈ journal.active, record.order.clientOrderId ≠ saved.clientOrderId) :
    journal.save saved appended =
      if appended then .ok (journal.insert saved)
      else .error (.osError "pending-order append failed") := by
  have hrecord : journal.record saved.clientOrderId = none := by
    rw [record, List.find?_eq_none]
    intro record hmem
    simpa using hclient record hmem
  simp only [intentIds, List.mem_append, not_or] at hintent
  obtain ⟨hactive, hattempts, hcounts, hversions, hpctBs⟩ := hintent
  have hlookup : ∀ {β : Type} {entries : List (String × β)},
      saved.intentId ∉ entries.map Prod.fst → entries.lookup saved.intentId = none := by
    intro β entries hkeys
    rw [List.lookup_eq_none_iff]
    intro entry hentry
    simp only [bne_iff_ne, ne_eq]
    rintro heq
    exact hkeys (List.mem_map.mpr ⟨entry, hentry, heq.symm⟩)
  have hcheck : journal.checkNew saved = .ok () := by
    simp only [checkNew, Except.require_bind_eq_ok_iff, Except.require_eq_ok_iff, hlookup hcounts,
      hlookup hversions, hlookup hpctBs, Option.mem_def, reduceCtorEq, false_implies,
      implies_true, and_true]
    refine ⟨?_, ?_⟩
    · intro hmem
      exact hattempts (List.mem_map.mpr ⟨_, hmem, rfl⟩)
    · intro record hmem heq
      exact hactive (List.mem_map.mpr ⟨record, hmem, heq⟩)
  simp only [save, hrecord, hcheck, Except.ok_bind]
  cases appended <;> rfl

end PendingJournal

/-! ## Queue numbers that are used up -/

/-- The number of no event that waits, is processed or will come. -/
def SerialEventQueue.Spent (queue : SerialEventQueue) (claimed : Option TradingEvent) (n : ℕ) :
    Prop :=
  n < queue.nextSequence ∧ n ∉ (queue.pending ++ claimed.toList).map (·.sequenceNumber)

namespace SerialEventQueue.Spent

variable {queue next : SerialEventQueue} {claimed other : Option TradingEvent}
variable {claimedEvent : TradingEvent} {n : ℕ}

/-- No event comes back under a used number. -/
theorem mono (h : queue.Spent claimed n) (hsequence : queue.nextSequence ≤ next.nextSequence)
    (hpending : ∀ queued ∈ next.pending ++ other.toList,
      queued ∈ queue.pending ++ claimed.toList ∨ queue.nextSequence ≤ queued.sequenceNumber) :
    next.Spent other n := by
  refine ⟨lt_of_lt_of_le h.1 hsequence, ?_⟩
  intro hmem
  obtain ⟨queued, hqueued, rfl⟩ := List.mem_map.mp hmem
  rcases hpending queued hqueued with hold | hnew
  · exact h.2 (List.mem_map.mpr ⟨queued, hold, rfl⟩)
  · exact absurd h.1 (not_lt.mpr hnew)

theorem enqueue (h : queue.Spent claimed n) (event : TradingEvent) (internal : Bool) :
    (Stateful.finalState (SerialEventQueue.enqueue event internal queue)).Spent claimed n := by
  have hspec := SerialEventQueue.enqueue_spec queue event internal
  generalize SerialEventQueue.enqueue event internal queue = result at hspec ⊢
  cases hspec with
  | duplicate => exact h
  | full => exact h
  | refused => exact h.mono (Nat.le_succ _) fun queued hqueued => .inl hqueued
  | accepted queued _ hqueued =>
      refine h.mono (Nat.le_succ _) fun other hother => ?_
      change other ∈ (queue.pending ++ [queued]) ++ claimed.toList at hother
      simp only [List.mem_append, List.mem_singleton] at hother ⊢
      rcases hother with (hother | rfl) | hother
      · exact .inl (.inl hother)
      · exact .inr hqueued.sequenceNumber.ge
      · exact .inl (.inr hother)

theorem pop {answer : Option TradingEvent} (h : queue.Spent none n)
    (hpop : SerialEventQueue.pop queue = .ok answer next) : next.Spent answer n := by
  rcases SerialEventQueue.pop_run queue with ⟨-, -, hrun⟩ | ⟨event, hevent, -, -, hrun⟩
  · rw [hrun] at hpop
    cases hpop
    exact h
  · rw [hrun] at hpop
    cases hpop
    refine h.mono (le_refl _) fun queued hqueued => .inl ?_
    simp only [claim, Option.toList_some, Option.toList_none, List.mem_append, List.mem_singleton,
      List.append_nil] at hqueued ⊢
    rcases hqueued with hqueued | rfl
    · exact List.mem_of_mem_erase hqueued
    · exact hevent

theorem finish (h : queue.Spent claimed n) : queue.Spent none n :=
  h.mono (le_refl _) fun queued hqueued => .inl (by simp_all)

theorem restore (h : queue.Spent (some claimedEvent) n) :
    (Stateful.finalState (SerialEventQueue.restoreClaimed claimedEvent queue)).Spent none n := by
  rcases SerialEventQueue.restoreClaimed_run queue claimedEvent with ⟨error, hrun⟩ | hrun
  · rw [hrun]
    exact h.finish
  · rw [hrun]
    exact h.mono (le_refl _) fun queued hqueued => .inl (by simpa [push] using hqueued)

theorem discardMarketWork (h : queue.Spent claimed n) :
    queue.discardMarketWork.Spent claimed n := by
  refine h.mono (le_refl _) fun queued hqueued => .inl ?_
  simp only [SerialEventQueue.discardMarketWork, List.mem_append, List.mem_filter] at hqueued ⊢
  exact hqueued.imp_left And.left

theorem clear (h : queue.Spent claimed n) : queue.clear.Spent claimed n := by
  refine h.mono (le_refl _) fun queued hqueued => .inl ?_
  exact List.mem_append_right _ (by simpa [SerialEventQueue.clear] using hqueued)

end SerialEventQueue.Spent

/-- The number of a claimed event is used up once it was processed. -/
theorem SerialEventQueue.Sound.spent {queue : SerialEventQueue} {claimed : TradingEvent}
    (h : queue.Sound (some claimed)) : queue.Spent none claimed.sequenceNumber := by
  refine ⟨h.bound claimed (by simp), ?_⟩
  have hnodup := h.numbers
  simp only [Option.toList_some, List.map_append, List.map_cons, List.map_nil] at hnodup
  simpa using (List.nodup_append.mp hnodup).2.2 |> fun hdisjoint hmem =>
    hdisjoint _ hmem _ (List.mem_singleton_self _) rfl

/-! ## Sessions that share a journal -/

/-- `_create_client_order_id`: `digest` is the shortened hash of the session's and the
intent's ID. -/
def createClientOrderId (digest : String → String → String) (sessionId intentId : String)
    (submissionAttempt : ℕ) : String :=
  "bat-" ++ digest sessionId intentId ++ "-" ++ toString submissionAttempt

/-- Sessions one after the other, on one journal.  `origins` are the new intent IDs built
so far with the number of their session, `submitted` the keys of every submission. -/
structure SessionRun where
  session : ℕ := 0
  queue : SerialEventQueue := {}
  claimed : Option TradingEvent := none
  pendingIntentId : Option String := none
  origins : List (ℕ × IntentOrigin) := []
  submitted : List String := []
  journal : PendingJournal := {}
  submissionAttempts : List (String × ℕ) := []

namespace SessionRun

/-- `self._submission_attempts_by_intent.get(intent_id, 0)`. -/
def submissionCount (run : SessionRun) (intentId : String) : ℕ :=
  (run.submissionAttempts.lookup intentId).getD 0

/-- The submission counts after a reconciliation with the journal. -/
def reconciledAttempts (run : SessionRun) : List (String × ℕ) :=
  run.journal.submissionCounts.map fun (intentId, count) =>
    (intentId, max count (run.submissionCount intentId))

/-- A result was published, and its runtime patches carried out. -/
def publish (run : SessionRun) (event : TradingEvent) (context : TradingContextView)
    (result : TradingSTMResult) : SessionRun :=
  { run with
    claimed := none
    pendingIntentId := intentIdAfter result.actionRequests run.pendingIntentId
    origins :=
      (if takesOver context then []
        else (submissions result.actionRequests).map fun order =>
          (run.session, IntentOrigin.ofOrder event context order)) ++ run.origins
    submitted := (submissions result.actionRequests).map (·.idempotencyKey) ++ run.submitted }

/-- A decision of the run's session on its claimed event: the preparation keeps the
number of the event, or puts an expiry in its place. -/
structure Decides (run : SessionRun) (state : TradingStateConfiguration) (event : TradingEvent)
    (context : TradingContextView) (result : TradingSTMResult) : Prop where
  claimed : ∃ claimed, run.claimed = some claimed ∧
    (event.sequenceNumber = claimed.sequenceNumber ∨ event.eventType = .orderPreparationExpired)
  pending : context.runtime.pendingIntentId = run.pendingIntentId
  handled : handle state event context = .ok result

/-- What can happen while sessions share a journal.  A journal write that raises may have
reached the file or not. -/
inductive Step (digest : String → String → String) (sessionId : ℕ → String)
    (maximumSubmissions : ℕ) : SessionRun → SessionRun → Prop
  | startSession (run : SessionRun) (maxPendingEvents maxSeenEventIds : ℕ) :
      Step digest sessionId maximumSubmissions run
        { run with
          session := run.session + 1
          queue := { maxPendingEvents, maxSeenEventIds }
          claimed := none
          pendingIntentId := none }
  | restartProcess (run : SessionRun) :
      Step digest sessionId maximumSubmissions run
        { run with
          session := run.session + 1
          queue := {}
          claimed := none
          pendingIntentId := none
          submissionAttempts := run.journal.submissionCounts }
  | reconcile (run : SessionRun) :
      Step digest sessionId maximumSubmissions run
        { run with submissionAttempts := run.reconciledAttempts }
  | enqueue (run : SessionRun) (event : TradingEvent) (internal : Bool) :
      Step digest sessionId maximumSubmissions run
        { run with
          queue := Stateful.finalState (SerialEventQueue.enqueue event internal run.queue) }
  | pop (run : SessionRun) (answer : Option TradingEvent) (next : SerialEventQueue)
      (hidle : run.claimed = none) (hpop : SerialEventQueue.pop run.queue = .ok answer next) :
      Step digest sessionId maximumSubmissions run { run with queue := next, claimed := answer }
  | drop (run : SessionRun) :
      Step digest sessionId maximumSubmissions run { run with claimed := none }
  | restore (run : SessionRun) (event : TradingEvent) (hclaimed : run.claimed = some event) :
      Step digest sessionId maximumSubmissions run
        { run with
          queue := Stateful.finalState (SerialEventQueue.restoreClaimed event run.queue)
          claimed := none }
  | discardMarketWork (run : SessionRun) :
      Step digest sessionId maximumSubmissions run
        { run with queue := run.queue.discardMarketWork }
  | clearQueue (run : SessionRun) :
      Step digest sessionId maximumSubmissions run { run with queue := run.queue.clear }
  | publish (run : SessionRun) (state : TradingStateConfiguration) (event : TradingEvent)
      (context : TradingContextView) (result : TradingSTMResult)
      (h : run.Decides state event context result) :
      Step digest sessionId maximumSubmissions run (run.publish event context result)
  | clearPendingIntent (run : SessionRun) :
      Step digest sessionId maximumSubmissions run { run with pendingIntentId := none }
  | forceSell (run : SessionRun) :
      Step digest sessionId maximumSubmissions run
        { run with
          pendingIntentId := some (forceSellIntentId (sessionId run.session))
          submitted := forceSellIntentId (sessionId run.session) :: run.submitted }
  | submit (run : SessionRun) (saved : OrderIntentFields) (journal : PendingJournal)
      (hkey : saved.intentId ∈ run.submitted)
      (hattempt : saved.submissionAttempt = run.submissionCount saved.intentId)
      (hbudget : saved.submissionAttempt < maximumSubmissions)
      (hclient : saved.clientOrderId =
        createClientOrderId digest (sessionId run.session) saved.intentId saved.submissionAttempt)
      (hjournal : run.journal.save saved true = .ok journal ∨ journal = run.journal) :
      Step digest sessionId maximumSubmissions run
        { run with
          journal := journal
          submissionAttempts :=
            (saved.intentId, saved.submissionAttempt + 1) :: run.submissionAttempts }
  | transition (run : SessionRun) (clientOrderId : String)
      (lifecycle : PendingOrderRecoveryLifecycle) (journal : PendingJournal)
      (hjournal : run.journal.transition clientOrderId lifecycle true = .ok journal) :
      Step digest sessionId maximumSubmissions run { run with journal := journal }
  | delete (run : SessionRun) (clientOrderId : String) (journal : PendingJournal)
      (hjournal : run.journal.delete clientOrderId true = .ok journal) :
      Step digest sessionId maximumSubmissions run { run with journal := journal }

/-- No earlier session built an intent from the origin. -/
def OriginUnused (run : SessionRun) (origin : IntentOrigin) : Prop :=
  ∀ built ∈ run.origins, built.1 ≠ run.session → built.2 ≠ origin

/-- The runs of sessions on a journal that starts empty. -/
inductive Reachable (digest : String → String → String) (sessionId : ℕ → String)
    (maximumSubmissions : ℕ) : SessionRun → Prop
  | start : Reachable digest sessionId maximumSubmissions {}
  | step {run next : SessionRun} (h : Reachable digest sessionId maximumSubmissions run)
      (hstep : Step digest sessionId maximumSubmissions run next) :
      Reachable digest sessionId maximumSubmissions next

/-- What the journal and the counts know: only keys that were submitted, and these are new
intent IDs or forced sales. -/
structure Known (sessionId : ℕ → String) (run : SessionRun) : Prop where
  sound : run.queue.Sound run.claimed
  spent : ∀ built ∈ run.origins, built.1 = run.session →
    run.queue.Spent run.claimed built.2.sequenceNumber
  session : ∀ built ∈ run.origins, built.1 ≤ run.session
  pending : ∀ intentId ∈ run.pendingIntentId, intentId ∈ run.submitted
  submitted : ∀ key ∈ run.submitted, (∃ built ∈ run.origins, built.2.intentId = key) ∨
    ∃ session, forceSellIntentId session = key
  built : ∀ built ∈ run.origins, built.2.intentId ∈ run.submitted
  journal : run.journal.intentIds ⊆ run.submitted
  attempts : run.submissionAttempts.map Prod.fst ⊆ run.submitted

variable {run next : SessionRun} {digest : String → String → String} {sessionId : ℕ → String}
variable {maximumSubmissions : ℕ}

/-! ### What a publication does -/

theorem Decides.submissions_eq_nil {event : TradingEvent} {context : TradingContextView}
    (h : run.Decides state event context result)
    (hevent : event.eventType = .orderPreparationExpired) :
    submissions result.actionRequests = [] := by
  rw [List.eq_nil_iff_forall_not_mem]
  intro order hmem
  exact submitOrder_notMem_of_expired hevent h.handled (mem_submissions.mp hmem)

/-- A submission goes by a key that is known, or by the ID of its own origin. -/
theorem Decides.idempotencyKey (h : run.Decides state event context result)
    (hmem : order ∈ submissions result.actionRequests) :
    (takesOver context = true → run.pendingIntentId = some order.idempotencyKey) ∧
      (takesOver context = false →
        order.idempotencyKey = (IntentOrigin.ofOrder event context order).intentId) := by
  have hkey := (handle_shape h.handled).idempotencyKey (mem_submissions.mp hmem)
  constructor
  · intro htakes
    rw [hkey, ← h.pending]
    exact orText_of_takesOver htakes
  · intro htakes
    rw [hkey]
    exact orText_of_not_takesOver htakes

/-- Publishing keeps what is known. -/
theorem Known.publish (hknown : Known sessionId run)
    (h : run.Decides state event context result) :
    Known sessionId (run.publish event context result) := by
  obtain ⟨claimed, hclaimed, hnumber⟩ := h.claimed
  have hsound := hknown.sound
  rw [hclaimed] at hsound
  have hspent : ∀ order ∈ submissions result.actionRequests,
      run.queue.Spent none (IntentOrigin.ofOrder event context order).sequenceNumber := by
    intro order hmem
    rcases hnumber with hnumber | hexpired
    · show run.queue.Spent none event.sequenceNumber
      rw [hnumber]
      exact hsound.spent
    · rw [h.submissions_eq_nil hexpired] at hmem
      cases hmem
  have hmono : ∀ key ∈ run.submitted, key ∈ (run.publish event context result).submitted :=
    fun key hkey => List.mem_append_right _ hkey
  refine ⟨hsound.finish, ?_, ?_, ?_, ?_, ?_, ?_, ?_⟩
  · intro built hbuilt hsession
    rcases List.mem_append.mp hbuilt with hbuilt | hbuilt
    · split at hbuilt
      · cases hbuilt
      · obtain ⟨order, hmem, rfl⟩ := List.mem_map.mp hbuilt
        exact hspent order hmem
    · exact (hknown.spent built hbuilt hsession).finish
  · intro built hbuilt
    rcases List.mem_append.mp hbuilt with hbuilt | hbuilt
    · split at hbuilt
      · cases hbuilt
      · obtain ⟨order, -, rfl⟩ := List.mem_map.mp hbuilt
        exact le_refl _
    · exact hknown.session built hbuilt
  · have hafter : ∀ intentId ∈ intentIdAfter result.actionRequests run.pendingIntentId,
        intentId ∈ (run.publish event context result).submitted := by
      refine @intentIdAfter_of (fun value => ∀ intentId ∈ value,
        intentId ∈ (run.publish event context result).submitted) _ _ ?_ ?_
      · intro intentId hpending
        exact hmono _ (hknown.pending intentId hpending)
      · intro changes value hpatch hchange intentId hvalue
        rcases (handle_shape h.handled).pendingIntentId hpatch hchange with rfl | ⟨order, hmem, rfl⟩
        · cases hvalue
        · cases hvalue
          exact List.mem_append_left _
            (List.mem_map.mpr ⟨order, mem_submissions.mpr hmem, rfl⟩)
    exact hafter
  · intro key hkey
    have hold : ∀ key ∈ run.submitted,
        (∃ built ∈ (run.publish event context result).origins, built.2.intentId = key) ∨
          ∃ session, forceSellIntentId session = key := by
      intro key hkey
      refine (hknown.submitted key hkey).imp_left ?_
      rintro ⟨built, hbuilt, rfl⟩
      exact ⟨built, List.mem_append_right _ hbuilt, rfl⟩
    rcases List.mem_append.mp hkey with hkey | hkey
    · obtain ⟨order, hmem, rfl⟩ := List.mem_map.mp hkey
      cases htakes : takesOver context with
      | true =>
          exact hold _ (hknown.pending _ ((h.idempotencyKey hmem).1 htakes))
      | false =>
          refine .inl ⟨(run.session, IntentOrigin.ofOrder event context order), ?_,
            ((h.idempotencyKey hmem).2 htakes).symm⟩
          refine List.mem_append_left _ ?_
          rw [htakes]
          exact List.mem_map.mpr ⟨order, hmem, rfl⟩
    · exact hold key hkey
  · intro built hbuilt
    rcases List.mem_append.mp hbuilt with hbuilt | hbuilt
    · split at hbuilt
      · cases hbuilt
      · rename_i htakes
        obtain ⟨order, hmem, rfl⟩ := List.mem_map.mp hbuilt
        refine List.mem_append_left _ (List.mem_map.mpr ⟨order, hmem, ?_⟩)
        exact (h.idempotencyKey hmem).2 (by simpa using htakes)
    · exact hmono _ (hknown.built built hbuilt)
  · exact fun key hkey => hmono key (hknown.journal hkey)
  · exact fun key hkey => hmono key (hknown.attempts hkey)

/-- Every step keeps what is known. -/
theorem Known.step (hknown : Known sessionId run)
    (hstep : Step digest sessionId maximumSubmissions run next) : Known sessionId next := by
  have hcounts : run.journal.submissionCounts.map Prod.fst ⊆ run.submitted := by
    intro key hkey
    refine hknown.journal ?_
    simp only [PendingJournal.intentIds, List.mem_append]
    exact .inr (.inr (.inl hkey))
  cases hstep with
  | startSession =>
      refine ⟨⟨List.nodup_nil, by simp, by simp⟩, ?_, ?_, by simp, hknown.submitted,
        hknown.built, hknown.journal, hknown.attempts⟩
      · intro built hbuilt hsession
        have hle := hknown.session built hbuilt
        simp only at hsession
        omega
      · exact fun built hbuilt => Nat.le_succ_of_le (hknown.session built hbuilt)
  | restartProcess =>
      refine ⟨⟨List.nodup_nil, by simp, by simp⟩, ?_, ?_, by simp, hknown.submitted,
        hknown.built, hknown.journal, hcounts⟩
      · intro built hbuilt hsession
        have hle := hknown.session built hbuilt
        simp only at hsession
        omega
      · exact fun built hbuilt => Nat.le_succ_of_le (hknown.session built hbuilt)
  | reconcile =>
      refine { hknown with attempts := ?_ }
      intro key hkey
      simp only [reconciledAttempts, List.map_map] at hkey
      exact hcounts hkey
  | enqueue event internal =>
      exact { hknown with
        sound := hknown.sound.enqueue event internal
        spent := fun built hbuilt hsession =>
          (hknown.spent built hbuilt hsession).enqueue event internal }
  | pop answer queue hidle hpop =>
      have hsound := hknown.sound
      have hspent := hknown.spent
      rw [hidle] at hsound hspent
      exact { hknown with
        sound := hsound.pop hpop
        spent := fun built hbuilt hsession => (hspent built hbuilt hsession).pop hpop }
  | drop =>
      exact { hknown with
        sound := hknown.sound.finish
        spent := fun built hbuilt hsession => (hknown.spent built hbuilt hsession).finish }
  | restore event hclaimed =>
      have hsound := hknown.sound
      have hspent := hknown.spent
      rw [hclaimed] at hsound hspent
      exact { hknown with
        sound := hsound.restore
        spent := fun built hbuilt hsession => (hspent built hbuilt hsession).restore }
  | discardMarketWork =>
      exact { hknown with
        sound := hknown.sound.mono (List.Sublist.append_right List.filter_sublist _) rfl rfl rfl
        spent := fun built hbuilt hsession =>
          (hknown.spent built hbuilt hsession).discardMarketWork }
  | clearQueue =>
      exact { hknown with
        sound := hknown.sound.mono (List.Sublist.append_right (List.nil_sublist _) _) rfl rfl rfl
        spent := fun built hbuilt hsession => (hknown.spent built hbuilt hsession).clear }
  | publish state event context result h => exact hknown.publish h
  | clearPendingIntent => exact { hknown with pending := by simp }
  | forceSell =>
      refine { hknown with
        pending := by simp
        submitted := ?_
        built := fun built hbuilt => List.mem_cons_of_mem _ (hknown.built built hbuilt)
        journal := fun key hkey => List.mem_cons_of_mem _ (hknown.journal hkey)
        attempts := fun key hkey => List.mem_cons_of_mem _ (hknown.attempts hkey) }
      intro key hkey
      rcases List.mem_cons.mp hkey with rfl | hkey
      · exact .inr ⟨_, rfl⟩
      · exact hknown.submitted key hkey
  | submit saved journal hkey _ _ _ hjournal =>
      refine { hknown with journal := ?_, attempts := ?_ }
      · rcases hjournal with hsaved | rfl
        · intro key hmem
          rcases List.mem_cons.mp (PendingJournal.save_intentIds hsaved hmem) with rfl | hold
          · exact hkey
          · exact hknown.journal hold
        · exact hknown.journal
      · intro key hmem
        rcases List.mem_cons.mp hmem with rfl | hold
        · exact hkey
        · exact hknown.attempts hold
  | transition clientOrderId lifecycle journal hjournal =>
      exact { hknown with
        journal := fun key hkey =>
          hknown.journal (PendingJournal.transition_intentIds hjournal hkey) }
  | delete clientOrderId journal hjournal =>
      exact { hknown with
        journal := fun key hkey =>
          hknown.journal (PendingJournal.delete_intentIds hjournal hkey) }

/-- Every run knows only submitted keys. -/
theorem Reachable.known (h : Reachable digest sessionId maximumSubmissions run) :
    Known sessionId run := by
  induction h with
  | start =>
      exact ⟨⟨List.nodup_nil, by simp, by simp⟩, by simp, by simp, by simp, by simp, by simp,
        by simp [PendingJournal.intentIds], by simp⟩
  | step _ hstep ih => exact ih.step hstep

/-- A key that was submitted names an origin of an earlier session, when it is the ID of an
origin of the claimed event. -/
theorem Known.originUnused_iff (hknown : Known sessionId run)
    (h : run.Decides state event context result)
    (hmem : order ∈ submissions result.actionRequests) :
    (IntentOrigin.ofOrder event context order).intentId ∉ run.submitted ↔
      run.OriginUnused (IntentOrigin.ofOrder event context order) := by
  constructor
  · intro hfresh built hbuilt _ horigin
    exact hfresh (horigin ▸ hknown.built built hbuilt)
  · intro hunused hsubmitted
    rcases hknown.submitted _ hsubmitted with ⟨built, hbuilt, heq⟩ | ⟨session, heq⟩
    · have horigin := IntentOrigin.intentId_injective heq
      by_cases hsession : built.1 = run.session
      · -- within a session the number of the claimed event is not used up
        have hspent := hknown.spent built hbuilt hsession
        obtain ⟨claimed, hclaimed, hnumber | hexpired⟩ := h.claimed
        · refine hspent.2 (List.mem_map.mpr ⟨claimed, ?_, ?_⟩)
          · rw [hclaimed]
            simp
          · rw [horigin]
            exact hnumber.symm
        · rw [h.submissions_eq_nil hexpired] at hmem
          cases hmem
      · exact hunused built hbuilt hsession horigin
    · exact IntentOrigin.intentId_ne_forceSellIntentId _ _ heq.symm

/-- The intent of a submission is fresh: no earlier submission went by its key, its first
attempt has number 0 and the whole budget before it, and the journal takes it without a
conflict, unless an active order has the same client order ID. -/
def IsFresh (digest : String → String → String) (sessionId : ℕ → String) (run : SessionRun)
    (order : SubmitOrder) : Prop :=
  order.idempotencyKey ∉ run.submitted ∧
  run.submissionCount order.idempotencyKey = 0 ∧
  ∀ saved : OrderIntentFields, saved.intentId = order.idempotencyKey →
    saved.clientOrderId =
      createClientOrderId digest (sessionId run.session) order.idempotencyKey 0 →
    (∀ record ∈ run.journal.active, record.order.clientOrderId ≠ saved.clientOrderId) →
    ∀ appended, run.journal.save saved appended =
      if appended then .ok (run.journal.insert saved)
      else .error (.osError "pending-order append failed")

/-- In every run, a submission that builds a new intent ID is fresh exactly when no earlier
session built an intent from the same strategy, side, exit reason and lower event on an
event of the same queue number. -/
theorem isFresh_iff (hrun : Reachable digest sessionId maximumSubmissions run)
    (h : run.Decides state event context result) (hnew : takesOver context = false)
    (hmem : order ∈ submissions result.actionRequests) :
    IsFresh digest sessionId run order ↔
      run.OriginUnused (IntentOrigin.ofOrder event context order) := by
  have hknown := hrun.known
  have hkey := (h.idempotencyKey hmem).2 hnew
  rw [← hknown.originUnused_iff h hmem, ← hkey]
  constructor
  · exact fun hfresh => hfresh.1
  · intro hfresh
    refine ⟨hfresh, ?_, ?_⟩
    · have hnone : run.submissionAttempts.lookup order.idempotencyKey = none := by
        rw [List.lookup_eq_none_iff]
        intro entry hentry
        simp only [bne_iff_ne, ne_eq]
        rintro heq
        exact hfresh (hknown.attempts (List.mem_map.mpr ⟨entry, hentry, heq.symm⟩))
      rw [submissionCount, hnone]
      rfl
    · intro saved hintent _ hclient appended
      refine PendingJournal.save_of_unknown ?_ hclient
      rw [hintent]
      exact fun hknownKey => hfresh (hknown.journal hknownKey)

/-! ### Two sessions in one candle -/

/-- The pullback check of a session, as its queue numbers it first. -/
def firstPullbackCheck : TradingEvent := pullbackEvent.withQueueIdentity 1

/-- The configuration in which the pullback is awaited. -/
def pullbackState : TradingStateConfiguration :=
  .tradeManagement .noPosition .bWaitPullback .caseCFinalState

/-- The entry that the pullback check asks for. -/
def pullbackOrder : SubmitOrder where
  strategy := .caseB
  side := .buy
  attemptKind := .initial
  idempotencyKey := "StrategyType.CASE_B:BUY:lower:candle:1:1"

theorem handle_pullback : ∃ result,
    handle pullbackState firstPullbackCheck pullbackContext = .ok result ∧
      submissions result.actionRequests = [pullbackOrder] := by
  have h : ((handle pullbackState firstPullbackCheck pullbackContext).map
      (submissions ·.actionRequests)).toOption = some [pullbackOrder] := by
    decide +kernel
  cases hresult : handle pullbackState firstPullbackCheck pullbackContext with
  | error error => rw [hresult] at h; cases h
  | ok result =>
      rw [hresult] at h
      exact ⟨result, rfl, Option.some.inj h⟩

/-- The next session has just claimed its first event. -/
def claimedFirst (run : SessionRun) : SessionRun :=
  { run with
    session := run.session + 1
    queue := SerialEventQueue.claim firstPullbackCheck
      (SerialEventQueue.push firstPullbackCheck (SerialEventQueue.remember firstPullbackCheck {}))
    claimed := some firstPullbackCheck
    pendingIntentId := none }

/-- Every session can start with a pullback check. -/
theorem Reachable.claimedFirst (h : Reachable digest sessionId maximumSubmissions run) :
    Reachable digest sessionId maximumSubmissions run.claimedFirst := by
  have hstart := h.step (Step.startSession run 10000 100000)
  have hqueued := hstart.step (Step.enqueue _ pullbackEvent true)
  exact hqueued.step (Step.pop _ (some firstPullbackCheck) _ rfl rfl)

theorem claimedFirst_decides (run : SessionRun) {result : TradingSTMResult}
    (h : handle pullbackState firstPullbackCheck pullbackContext = .ok result) :
    run.claimedFirst.Decides pullbackState firstPullbackCheck pullbackContext result :=
  ⟨⟨firstPullbackCheck, rfl, .inl rfl⟩, rfl, h⟩

/-- Session IDs and digests, for the two sessions below. -/
def pairDigest (sessionId intentId : String) : String := sessionId ++ "/" ++ intentId

/-- In the first session the entry is fresh. -/
theorem isFresh_firstSession :
    ∃ result, handle pullbackState firstPullbackCheck pullbackContext = .ok result ∧
      pullbackOrder ∈ submissions result.actionRequests ∧
      IsFresh pairDigest toString ({} : SessionRun).claimedFirst pullbackOrder := by
  obtain ⟨result, hresult, hsubmissions⟩ := handle_pullback
  have hmem : pullbackOrder ∈ submissions result.actionRequests := by
    rw [hsubmissions]
    exact List.mem_singleton_self _
  have hrun : Reachable pairDigest toString 5 ({} : SessionRun).claimedFirst :=
    Reachable.start.claimedFirst
  refine ⟨result, hresult, hmem, ?_⟩
  refine (isFresh_iff hrun (claimedFirst_decides _ hresult) rfl hmem).mpr ?_
  intro built hbuilt
  cases hbuilt

/-- The order of a session's entry under a risk policy. -/
def pullbackIntent (session submissionAttempt : ℕ) (riskPolicyVersion : Int) :
    OrderIntentFields where
  intentId := pullbackOrder.idempotencyKey
  clientOrderId := createClientOrderId pairDigest (toString session) pullbackOrder.idempotencyKey
    submissionAttempt
  submissionAttempt := submissionAttempt
  side := .buy
  strategy := .caseB
  regimeType := .type1
  requestedQuantity := 1
  submittedQuantity := 1
  marketPriceAtDecision := 95
  riskPolicyVersion := some riskPolicyVersion

/-- The first session submitted its entry, and the order was closed. -/
def firstSession (result : TradingSTMResult) : SessionRun :=
  { ({} : SessionRun).claimedFirst.publish firstPullbackCheck pullbackContext result with
    journal := { ({} : PendingJournal).insert (pullbackIntent 1 0 1) with active := [] }
    submissionAttempts := [(pullbackOrder.idempotencyKey, 1)] }

theorem reachable_firstSession {result : TradingSTMResult}
    (h : handle pullbackState firstPullbackCheck pullbackContext = .ok result)
    (hsubmissions : submissions result.actionRequests = [pullbackOrder]) :
    Reachable pairDigest toString 5 (firstSession result) := by
  have hclaimed : Reachable pairDigest toString 5 ({} : SessionRun).claimedFirst :=
    Reachable.start.claimedFirst
  have hpublished := hclaimed.step
    (Step.publish _ _ _ _ _ (claimedFirst_decides _ h))
  have hsubmitted := hpublished.step
    (Step.submit _ (pullbackIntent 1 0 1) (({} : PendingJournal).insert (pullbackIntent 1 0 1))
      (by simp [publish, hsubmissions, pullbackIntent]) rfl (by decide) rfl
      (.inl (PendingJournal.save_of_unknown (by simp [claimedFirst, publish, PendingJournal.intentIds])
        (by simp [claimedFirst, publish]))))
  exact hsubmitted.step (Step.delete _ (pullbackIntent 1 0 1).clientOrderId _ rfl)

/-- A second session in the same candle, whose pullback check has the same queue number,
builds the same intent ID: the entry was submitted before, its first attempt has number 1,
and the journal refuses it when the risk policy has changed. -/
theorem secondSession_not_fresh :
    ∃ run result, Reachable pairDigest toString 5 run ∧
      run.Decides pullbackState firstPullbackCheck pullbackContext result ∧
      takesOver pullbackContext = false ∧
      pullbackOrder ∈ submissions result.actionRequests ∧
      pullbackOrder.idempotencyKey ∈ run.submitted ∧
      run.submissionCount pullbackOrder.idempotencyKey = 1 ∧
      run.journal.save (pullbackIntent 2 1 2) true =
        .error (PendingJournal.conflict (pullbackIntent 2 1 2).clientOrderId) := by
  obtain ⟨result, hresult, hsubmissions⟩ := handle_pullback
  refine ⟨(firstSession result).claimedFirst, result,
    (reachable_firstSession hresult hsubmissions).claimedFirst,
    claimedFirst_decides _ hresult, rfl, ?_, ?_, rfl, ?_⟩
  · rw [hsubmissions]
    exact List.mem_singleton_self _
  · simp [claimedFirst, firstSession, publish, hsubmissions]
  · rfl

end SessionRun

end Trading
