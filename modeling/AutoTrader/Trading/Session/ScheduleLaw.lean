import AutoTrader.Support.OneShot
import AutoTrader.Trading.History.Wire
import AutoTrader.Trading.Session.EventQueue

/-!
# The one-shot law of the scheduler

Histories of calls of `_EventDrivenScheduler`.  A request is named by the position of its
`schedule` call, so that a request that replaces another is a different one.

* `SchedulerCall.run` — a call, with the events it returns.
* `pendingRequests` — the requests that no call since their own has replaced, cancelled,
  released or cleared.
* `releasedRequests` — the requests that a release turns into events.
* `after_eq`, `emitted_eq` — the scheduler holds the entries of the pending requests, and a
  release returns the events of the released ones, both in scheduling order.
* `schedule_law` — what this says about every history.
-/

namespace Trading

namespace EventDrivenScheduler

open Stateful

/-- One call, with what it reads of the clock. -/
inductive SchedulerCall where
  | schedule (action : ScheduleReevaluation) (now : Timestamp)
  | cancel (scope : String)
  | release (trigger : ReevaluationTrigger) (occurredAt : Option Timestamp) (now : Timestamp)
  | clear

/-- The entry that a `schedule` call appends. -/
def scheduledEntry (action : ScheduleReevaluation) (now : Timestamp) : ScheduledEvaluation :=
  { action, dueAt := now + action.earliestDelay.getD 0 }

namespace SchedulerCall

/-- The call, and the events it returns. -/
def run : SchedulerCall → EStateM TradingError EventDrivenScheduler (List TradingEvent)
  | schedule action now => do
      modify fun scheduler => EventDrivenScheduler.schedule scheduler action now
      pure []
  | cancel scope =>
      if scope.toList.all isSpace then throw (.valueError "scope must be a non-empty string")
      else do
        modify fun scheduler => EventDrivenScheduler.cancel scheduler scope
        pure []
  | release trigger occurredAt now => do
      let scheduler ← get
      set (EventDrivenScheduler.release scheduler trigger (occurredAt.getD now)).2
      pure (EventDrivenScheduler.release scheduler trigger (occurredAt.getD now)).1
  | clear => do
      set ([] : EventDrivenScheduler)
      pure []

/-- The call leaves this entry in the scheduler. -/
def spares : SchedulerCall → ScheduledEvaluation → Bool
  | schedule action _, item => !sameScope action item
  | cancel scope, item =>
      scope.toList.all isSpace || (scope == "lower-event" && item.action.lowerEventId.isNone)
  | release trigger occurredAt now, item => !isDue trigger (occurredAt.getD now) item
  | clear, _ => false

/-- The entry that the call appends. -/
def adds : SchedulerCall → Option ScheduledEvaluation
  | schedule action now => some (scheduledEntry action now)
  | _ => none

/-- A blank scope is refused, and every other scope drops what it cancels. -/
theorem filter_spares_cancel (scope : String) (scheduler : EventDrivenScheduler) :
    scheduler.filter (spares (.cancel scope)) =
      if scope.toList.all isSpace then scheduler
      else EventDrivenScheduler.cancel scheduler scope := by
  have hspares : spares (.cancel scope) = fun item =>
      scope.toList.all isSpace || (scope == "lower-event" && item.action.lowerEventId.isNone) := rfl
  rw [hspares]
  cases scope.toList.all isSpace with
  | true =>
      simp only [Bool.true_or, if_true]
      exact List.filter_true scheduler
  | false =>
      simp only [Bool.false_or, Bool.false_eq_true, if_false]
      unfold EventDrivenScheduler.cancel
      by_cases hlower : scope = "lower-event"
      · simp only [hlower, if_true, beq_self_eq_true, Bool.true_and]
      · simp only [hlower, if_false, beq_eq_false_iff_ne.mpr hlower, Bool.false_and]
        exact List.filter_false scheduler

/-- Every call drops entries and appends at most one. -/
theorem finalState_run (call : SchedulerCall) (scheduler : EventDrivenScheduler) :
    finalState (call.run scheduler) = OneShot.step spares adds scheduler call := by
  cases call with
  | schedule action now => rfl
  | cancel scope =>
      unfold OneShot.step adds
      rw [Option.toList_none, List.append_nil, filter_spares_cancel]
      cases hblank : scope.toList.all isSpace with
      | true =>
          simp only [run, hblank, if_true]
          rfl
      | false =>
          simp only [run, hblank, Bool.false_eq_true, if_false]
          rfl
  | release trigger occurredAt now =>
      unfold OneShot.step adds
      rw [Option.toList_none, List.append_nil]
      rfl
  | clear =>
      unfold OneShot.step adds spares
      rw [Option.toList_none, List.append_nil, List.filter_false]
      rfl

end SchedulerCall

open SchedulerCall

variable (calls : List SchedulerCall) (n : ℕ)

/-- The events of a call that returned; a call that raised returns none. -/
def eventsOf : EStateM.Result TradingError EventDrivenScheduler (List TradingEvent) →
    List TradingEvent
  | .ok events _ => events
  | .error _ _ => []

/-- The scheduler after the first `n` calls of a history. -/
def after : EventDrivenScheduler := runAll ((calls.take n).map SchedulerCall.run) []

/-- The events that the call at this position returns. -/
def emitted : List TradingEvent :=
  (calls[n]?).elim [] fun call => eventsOf (call.run (after calls n))

/-- The entry of the request with this number. -/
def entryOf (request : ℕ) : Option ScheduledEvaluation := OneShot.item adds calls request

/-- The requests that wait after `n` calls. -/
def pendingRequests : List ℕ := OneShot.waiting spares adds calls n

/-- The call releases this entry. -/
def releases : SchedulerCall → ScheduledEvaluation → Bool
  | .release trigger occurredAt now, item => isDue trigger (occurredAt.getD now) item
  | _, _ => false

/-- The requests that the call at this position turns into events. -/
def releasedRequests : List ℕ :=
  (pendingRequests calls n).filter fun request =>
    (calls[n]?).any fun call => (entryOf calls request).any (releases call)

/-- The time a release is for. -/
def releaseTime : SchedulerCall → Timestamp
  | .release _ occurredAt now => occurredAt.getD now
  | _ => 0

variable {calls n}

theorem after_eq_log : after calls n = OneShot.log spares adds (calls.take n) := by
  unfold after OneShot.log runAll
  rw [List.foldl_map]
  congr 1
  funext scheduler call
  exact finalState_run call scheduler

/-- The scheduler holds the entries of the pending requests, in scheduling order. -/
theorem after_eq (hn : n ≤ calls.length) :
    after calls n = (pendingRequests calls n).filterMap (entryOf calls) := by
  rw [after_eq_log]
  exact OneShot.log_take hn

theorem emitted_of_release {trigger : ReevaluationTrigger} {occurredAt : Option Timestamp}
    {now : Timestamp} (h : calls[n]? = some (.release trigger occurredAt now)) :
    emitted calls n =
      ((after calls n).filter (isDue trigger (occurredAt.getD now))).map
        (releasedEvent (occurredAt.getD now)) := by
  unfold emitted
  rw [h]
  rfl

theorem releasedRequests_of_getElem? {call : SchedulerCall} (h : calls[n]? = some call) :
    releasedRequests calls n =
      (pendingRequests calls n).filter fun request =>
        (entryOf calls request).any (releases call) := by
  unfold releasedRequests
  rw [h]
  rfl

/-- Only a release turns requests into events. -/
theorem releasedRequests_of_not_release {call : SchedulerCall} (h : calls[n]? = some call)
    (hcall : ∀ item, releases call item = false) : releasedRequests calls n = [] := by
  rw [releasedRequests_of_getElem? h, List.filter_eq_nil_iff]
  intro request _
  cases entryOf calls request with
  | none => simp
  | some item => simp [hcall item]

/-- A call returns the events of the requests it releases, in scheduling order. -/
theorem emitted_eq {call : SchedulerCall} (h : calls[n]? = some call) :
    emitted calls n =
      ((releasedRequests calls n).filterMap (entryOf calls)).map
        (releasedEvent (releaseTime call)) := by
  have hn : n ≤ calls.length := (List.getElem?_eq_some_iff.mp h).1.le
  cases call with
  | release trigger occurredAt now =>
      rw [emitted_of_release h, after_eq hn, releasedRequests_of_getElem? h]
      exact congrArg _ (OneShot.filter_filterMap_item _ _)
  | schedule action now =>
      rw [releasedRequests_of_not_release h fun _ => rfl]
      unfold emitted
      rw [h]
      rfl
  | cancel scope =>
      rw [releasedRequests_of_not_release h fun _ => rfl]
      unfold emitted
      rw [h, Option.elim_some]
      cases hblank : scope.toList.all isSpace with
      | true =>
          simp only [run, hblank, if_true]
          rfl
      | false =>
          simp only [run, hblank, Bool.false_eq_true, if_false]
          rfl
  | clear =>
      rw [releasedRequests_of_not_release h fun _ => rfl]
      unfold emitted
      rw [h]
      rfl

/-! ## The law -/

/-- The trigger of a release wakes a request with this trigger. -/
def TriggerMatches (requested released : ReevaluationTrigger) : Prop :=
  requested = released ∨ (requested = .deadlineOrMarketChange ∧ released = .marketChange)

theorem isDue_iff {trigger : ReevaluationTrigger} {now : Timestamp} {item : ScheduledEvaluation} :
    isDue trigger now item = true ↔
      TriggerMatches item.action.trigger trigger ∧ item.dueAt ≤ now := by
  unfold isDue TriggerMatches
  simp only [Bool.and_eq_true, Bool.or_eq_true, beq_iff_eq, decide_eq_true_eq]

theorem entryOf_eq_some {request : ℕ} {item : ScheduledEvaluation} :
    entryOf calls request = some item ↔
      ∃ action now, calls[request]? = some (.schedule action now) ∧
        item = scheduledEntry action now := by
  unfold entryOf OneShot.item
  rw [Option.bind_eq_some_iff]
  constructor
  · rintro ⟨call, hcall, hadds⟩
    cases call with
    | schedule action now => exact ⟨action, now, hcall, (Option.some.inj hadds).symm⟩
    | cancel scope => cases hadds
    | release trigger occurredAt now => cases hadds
    | clear => cases hadds
  · rintro ⟨action, now, hcall, rfl⟩
    exact ⟨_, hcall, rfl⟩

/-- A release drops exactly the entries it releases. -/
theorem spares_of_release (trigger : ReevaluationTrigger) (occurredAt : Option Timestamp)
    (now : Timestamp) (item : ScheduledEvaluation) :
    spares (.release trigger occurredAt now) item =
      !releases (.release trigger occurredAt now) item := rfl

theorem spares_eq_false_of_releases {call : SchedulerCall} {item : ScheduledEvaluation}
    (h : releases call item = true) : spares call item = false := by
  cases call with
  | release trigger occurredAt now => rw [spares_of_release, h]; rfl
  | schedule action now => cases h
  | cancel scope => cases h
  | clear => cases h

theorem mem_releasedRequests {request : ℕ} :
    request ∈ releasedRequests calls n ↔
      request ∈ pendingRequests calls n ∧
        ∃ call item, calls[n]? = some call ∧ entryOf calls request = some item ∧
          releases call item = true := by
  unfold releasedRequests
  rw [List.mem_filter]
  simp only [Option.any_eq_true]
  constructor
  · rintro ⟨hpending, call, hcall, item, hitem, hreleases⟩
    exact ⟨hpending, call, item, hcall, hitem, hreleases⟩
  · rintro ⟨hpending, call, item, hcall, hitem, hreleases⟩
    exact ⟨hpending, call, hcall, item, hitem, hreleases⟩

/-- A released request is not pending any more. -/
theorem not_pending_of_released {request later : ℕ} (h : request ∈ releasedRequests calls n)
    (hlater : n < later) : request ∉ pendingRequests calls later := by
  obtain ⟨hpending, call, item, hcall, hitem, hreleases⟩ := mem_releasedRequests.mp h
  have hlt : request < n := (OneShot.mem_waiting.mp hpending).1
  intro hwaits
  have hdropped := OneShot.not_waits_of_dropped hlt hcall hitem
    (spares_eq_false_of_releases hreleases) hlater
  rw [(OneShot.mem_waiting.mp hwaits).2] at hdropped
  cases hdropped

/-- No request is released twice. -/
theorem released_at_most_once {request first second : ℕ}
    (hfirst : request ∈ releasedRequests calls first)
    (hsecond : request ∈ releasedRequests calls second) : first = second := by
  by_contra hne
  rcases Nat.lt_or_gt_of_ne hne with hlt | hlt
  · exact not_pending_of_released hfirst hlt (mem_releasedRequests.mp hsecond).1
  · exact not_pending_of_released hsecond hlt (mem_releasedRequests.mp hfirst).1

/-- A new entry has no entry of its event and scope beside it. -/
theorem pairwise_step {items : EventDrivenScheduler} {call : SchedulerCall}
    (h : items.Pairwise fun first second => sameScope second.action first = false) :
    (OneShot.step spares adds items call).Pairwise
      fun first second => sameScope second.action first = false := by
  unfold OneShot.step
  rw [List.pairwise_append]
  refine ⟨h.filter _, ?_, ?_⟩
  · cases call <;> simp [adds]
  · intro first hfirst second hsecond
    cases call with
    | schedule action now =>
        have hspared := (List.mem_filter.mp hfirst).2
        rw [List.mem_singleton.mp hsecond]
        exact Bool.not_eq_true' _ ▸ hspared
    | cancel scope => cases hsecond
    | release trigger occurredAt now => cases hsecond
    | clear => cases hsecond

/-- At most one entry waits for an event, a trigger and a lower event. -/
theorem after_pairwise (n : ℕ) :
    (after calls n).Pairwise fun first second => sameScope second.action first = false := by
  rw [after_eq_log]
  induction calls.take n using List.reverseRecOn with
  | nil => exact List.Pairwise.nil
  | append_singleton history call ih =>
      unfold OneShot.log
      rw [List.foldl_append]
      exact pairwise_step ih

/-- The event type, the trigger and the lower event of an entry. -/
def scopeOf (item : ScheduledEvaluation) :
    TradingEventType × ReevaluationTrigger × Option String :=
  (item.action.eventType, item.action.trigger, item.action.lowerEventId)

theorem sameScope_eq_false_iff {first second : ScheduledEvaluation} :
    sameScope second.action first = false ↔ scopeOf first ≠ scopeOf second := by
  unfold sameScope scopeOf
  rw [Ne, Prod.mk.injEq, Prod.mk.injEq, ← Bool.not_eq_true]
  simp only [Bool.and_eq_true, beq_iff_eq, and_assoc]

/-- What a `cancel` of a scope leaves of the scheduler. -/
theorem after_cancel {scope : String} (h : calls[n]? = some (.cancel scope)) :
    after calls (n + 1) =
      if scope.toList.all isSpace then after calls n
      else EventDrivenScheduler.cancel (after calls n) scope := by
  rw [after_eq_log, OneShot.log_take_succ h, ← after_eq_log, OneShot.step, filter_spares_cancel]
  exact List.append_nil _

/-- A request waits after the next call when the call leaves its entry, or is the request. -/
theorem mem_pendingRequests_succ {request : ℕ} {call : SchedulerCall}
    (h : calls[n]? = some call) (hlt : request < n) :
    request ∈ pendingRequests calls (n + 1) ↔
      request ∈ pendingRequests calls n ∧
        ∃ item, entryOf calls request = some item ∧ spares call item = true := by
  unfold pendingRequests entryOf
  rw [OneShot.mem_waiting, OneShot.mem_waiting, OneShot.waits_succ hlt h, Bool.and_eq_true,
    Option.any_eq_true]
  constructor
  · rintro ⟨-, hwaits, hspared⟩
    exact ⟨⟨hlt, hwaits⟩, hspared⟩
  · rintro ⟨⟨-, hwaits⟩, hspared⟩
    exact ⟨hlt.trans (Nat.lt_succ_self n), hwaits, hspared⟩

/-- A request waits from its own call on. -/
theorem mem_pendingRequests_self {action : ScheduleReevaluation} {now : Timestamp}
    (h : calls[n]? = some (.schedule action now)) : n ∈ pendingRequests calls (n + 1) := by
  unfold pendingRequests
  rw [OneShot.mem_waiting, OneShot.waits_self h]
  exact ⟨Nat.lt_succ_self n, rfl⟩

/-- What the scheduler promises for a history. -/
structure ScheduleLaw (calls : List SchedulerCall) : Prop where
  /-- The scheduler holds the entries of the pending requests, in scheduling order. -/
  pending : ∀ n ≤ calls.length,
    after calls n = (pendingRequests calls n).filterMap (entryOf calls)
  /-- A call returns the events of the requests it releases, in scheduling order. -/
  emits : ∀ n call, calls[n]? = some call →
    emitted calls n = ((releasedRequests calls n).filterMap (entryOf calls)).map
      (releasedEvent (releaseTime call))
  ordered : ∀ n, (pendingRequests calls n).Pairwise (· < ·) ∧
    (releasedRequests calls n).Pairwise (· < ·)
  /-- At most one entry waits for an event type, a trigger and a lower event. -/
  one_per_scope : ∀ n, ((after calls n).map scopeOf).Nodup
  released_once : ∀ request first second, request ∈ releasedRequests calls first →
    request ∈ releasedRequests calls second → first = second
  /-- Only a release that matches, and not before the time the request was scheduled for. -/
  released_due : ∀ request n, request ∈ releasedRequests calls n →
    ∃ action scheduledAt trigger occurredAt now,
      calls[request]? = some (.schedule action scheduledAt) ∧
      calls[n]? = some (.release trigger occurredAt now) ∧
      TriggerMatches action.trigger trigger ∧
      scheduledAt + action.earliestDelay.getD 0 ≤ occurredAt.getD now
  /-- A request waits until a call replaces, cancels, clears or releases it. -/
  waits : ∀ request n call action scheduledAt,
    calls[request]? = some (.schedule action scheduledAt) → calls[n]? = some call →
    (n = request → request ∈ pendingRequests calls (n + 1)) ∧
    (request < n → (request ∈ pendingRequests calls (n + 1) ↔
      request ∈ pendingRequests calls n ∧ spares call (scheduledEntry action scheduledAt) = true))
  /-- A release wakes every pending request that matches and is due. -/
  releases_due : ∀ request n action scheduledAt trigger occurredAt now,
    request ∈ pendingRequests calls n → calls[request]? = some (.schedule action scheduledAt) →
    calls[n]? = some (.release trigger occurredAt now) → TriggerMatches action.trigger trigger →
    scheduledAt + action.earliestDelay.getD 0 ≤ occurredAt.getD now →
    request ∈ releasedRequests calls n
  /-- Cancelling a lower event keeps exactly what belongs to none. -/
  cancels_lower : ∀ n, calls[n]? = some (.cancel "lower-event") →
    after calls (n + 1) = (after calls n).filter fun item => item.action.lowerEventId.isNone

/-- The one-shot law: it holds of every history of calls. -/
theorem schedule_law (calls : List SchedulerCall) : ScheduleLaw calls where
  pending n hn := after_eq hn
  emits n call h := emitted_eq h
  ordered n := by
    have hpending : (pendingRequests calls n).Pairwise (· < ·) :=
      List.pairwise_lt_range.filter _
    exact ⟨hpending, hpending.filter _⟩
  one_per_scope n := by
    rw [List.Nodup, List.pairwise_map]
    exact (after_pairwise n).imp fun h => sameScope_eq_false_iff.mp h
  released_once request first second := released_at_most_once
  released_due request n h := by
    obtain ⟨-, call, item, hcall, hitem, hreleases⟩ := mem_releasedRequests.mp h
    obtain ⟨action, scheduledAt, hrequest, rfl⟩ := entryOf_eq_some.mp hitem
    cases call with
    | release trigger occurredAt now =>
        have hdue := isDue_iff.mp hreleases
        exact ⟨action, scheduledAt, trigger, occurredAt, now, hrequest, hcall, hdue.1, hdue.2⟩
    | schedule action now => cases hreleases
    | cancel scope => cases hreleases
    | clear => cases hreleases
  waits request n call action scheduledAt hrequest hcall := by
    refine ⟨fun heq => ?_, fun hlt => ?_⟩
    · subst heq
      exact mem_pendingRequests_self hrequest
    · rw [mem_pendingRequests_succ hcall hlt]
      have hitem : entryOf calls request = some (scheduledEntry action scheduledAt) :=
        entryOf_eq_some.mpr ⟨action, scheduledAt, hrequest, rfl⟩
      simp only [hitem, Option.some.injEq, exists_eq_left']
  releases_due request n action scheduledAt trigger occurredAt now hpending hrequest hcall
      hmatches hdue := by
    refine mem_releasedRequests.mpr ⟨hpending, _, _, hcall,
      entryOf_eq_some.mpr ⟨action, scheduledAt, hrequest, rfl⟩, ?_⟩
    exact isDue_iff.mpr ⟨hmatches, hdue⟩
  cancels_lower n h := (after_cancel h).trans rfl

end EventDrivenScheduler

end Trading
