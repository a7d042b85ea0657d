import AutoTrader.Trading.Session.EventQueue

/-!
# Delivery of queued events

Any order of `enqueue`, `pop` and `restore_claimed` calls on one queue, with what they
accepted, popped and restored.

* `QueueHistory.call` — one call and its entry in the history.
* `QueueHistory.Accounted` — what every call preserves: each event is waiting or popped as
  often as it was accepted or restored, and the queue remembers what it accepted.
* `QueueHistory.pop_least` — which of the waiting events a pop takes.
-/

namespace Trading

/-! ## Histories -/

inductive QueueCall where
  | enqueue (event : TradingEvent) (internal : Bool)
  | pop
  | restoreClaimed (event : TradingEvent)

/-- A queue, and the events its calls accepted, popped and restored so far. -/
structure QueueHistory where
  queue : SerialEventQueue
  accepted : List TradingEvent := []
  popped : List TradingEvent := []
  restored : List TradingEvent := []

namespace QueueHistory

/-- A new queue with the given bounds. -/
def start (maxPendingEvents maxSeenEventIds : ℕ) : QueueHistory where
  queue := { maxPendingEvents, maxSeenEventIds }

/-- The history after one call; a call that raises adds no entry. -/
def call (history : QueueHistory) : QueueCall → QueueHistory
  | .enqueue event internal =>
      match SerialEventQueue.enqueue event internal history.queue with
      | .ok answer queue =>
          { history with queue, accepted := history.accepted ++ answer.toList }
      | .error _ queue => { history with queue }
  | .pop =>
      match SerialEventQueue.pop history.queue with
      | .ok answer queue => { history with queue, popped := history.popped ++ answer.toList }
      | .error _ queue => { history with queue }
  | .restoreClaimed event =>
      match SerialEventQueue.restoreClaimed event history.queue with
      | .ok _ queue => { history with queue, restored := history.restored ++ [event] }
      | .error _ queue => { history with queue }

def run (history : QueueHistory) (calls : List QueueCall) : QueueHistory :=
  calls.foldl call history

@[simp] theorem run_nil (history : QueueHistory) : history.run [] = history := rfl

@[simp] theorem run_cons (history : QueueHistory) (c : QueueCall) (calls : List QueueCall) :
    history.run (c :: calls) = (history.call c).run calls := rfl

theorem run_append (history : QueueHistory) (first second : List QueueCall) :
    history.run (first ++ second) = (history.run first).run second :=
  List.foldl_append

/-- The versions of the accepted evaluations, in the order they were accepted. -/
def marketVersions (history : QueueHistory) : List ℕ :=
  history.accepted.filterMap fun event => event.market.map (·.version)

/-- The identities of the other accepted events. -/
def eventIds (history : QueueHistory) : List String :=
  (history.accepted.filter fun event => event.market.isNone).filterMap (·.eventId)

/-- What holds between the calls: every event waits or was popped as often as it was
accepted or restored, and the queue knows the identities, versions and sequence numbers it
gave away. -/
structure Accounted (history : QueueHistory) : Prop where
  delivered : ∀ event, history.popped.count event + history.queue.pending.count event =
    history.accepted.count event + history.restored.count event
  sequenceNumbers : (history.accepted.map (·.sequenceNumber)).Pairwise (· < ·)
  sequenceBound : ∀ event ∈ history.accepted, event.sequenceNumber < history.queue.nextSequence
  versions : history.marketVersions.Pairwise (· < ·)
  versionBound : ∀ version ∈ history.marketVersions, version ≤ history.queue.highestMarketVersion
  ids : history.eventIds.Nodup
  idsSeen : ∀ id ∈ history.eventIds, id ∈ history.queue.seenEventIds
  identified : ∀ event ∈ history.accepted, event.eventId.isSome

theorem accounted_start (maxPendingEvents maxSeenEventIds : ℕ) :
    (start maxPendingEvents maxSeenEventIds).Accounted where
  delivered := fun _ => rfl
  sequenceNumbers := .nil
  sequenceBound := fun _ h => nomatch h
  versions := .nil
  versionBound := fun _ h => nomatch h
  ids := .nil
  idsSeen := fun _ h => nomatch h
  identified := fun _ h => nomatch h

/-! ## One call -/

section Call

variable {history : QueueHistory}

/-- An identity that is not a duplicate is new to the queue. -/
theorem not_seen_of_not_duplicate {queue : SerialEventQueue} {event : TradingEvent}
    (h : queue.isDuplicate event = false) :
    (∀ market ∈ event.market, queue.highestMarketVersion < market.version) ∧
      ∀ id ∈ event.eventId, id ∉ queue.seenEventIds := by
  unfold SerialEventQueue.isDuplicate at h
  rw [Bool.or_eq_false_iff] at h
  obtain ⟨hversion, hid⟩ := h
  refine ⟨?_, ?_⟩
  · intro market hmarket
    rw [Option.mem_def] at hmarket
    rw [hmarket] at hversion
    simpa using hversion
  · intro id hmem hseen
    exact of_decide_eq_false hid ⟨id, hmem, hseen⟩

/-- What the queue remembers only grows. -/
theorem remember_grows {queue : SerialEventQueue} {event : TradingEvent}
    (h : queue.isDuplicate event = false) :
    queue.highestMarketVersion ≤ (SerialEventQueue.remember event queue).highestMarketVersion ∧
      ∀ id ∈ queue.seenEventIds, id ∈ (SerialEventQueue.remember event queue).seenEventIds := by
  refine ⟨?_, ?_⟩
  · cases hmarket : event.market with
    | none => simp [SerialEventQueue.remember, hmarket]
    | some market =>
        have hnew := (not_seen_of_not_duplicate h).1 market hmarket
        simp only [SerialEventQueue.remember, hmarket, Option.map_some, Option.getD_some]
        omega
  · intro id hid
    by_cases hmarket : event.market.isSome
    · simpa [SerialEventQueue.remember, hmarket] using hid
    · simp [SerialEventQueue.remember, hmarket, hid]

/-- An accepted event is counted once more, with a new identity. -/
theorem accounted_accepted {event queued : TradingEvent} {internal : Bool}
    (h : history.Accounted)
    (hnew : history.queue.isDuplicate (event.withQueueIdentity history.queue.nextSequence) = false)
    (hqueued : SerialEventQueue.QueuedAs history.queue event internal queued) :
    Accounted { history with
      queue := SerialEventQueue.push queued (SerialEventQueue.remember
        (event.withQueueIdentity history.queue.nextSequence) history.queue)
      accepted := history.accepted ++ [queued] } := by
  obtain ⟨hversionNew, hidNew⟩ := not_seen_of_not_duplicate hnew
  obtain ⟨hversionGrows, hseenGrows⟩ := remember_grows hnew
  have hmarket : (event.withQueueIdentity history.queue.nextSequence).market = event.market := rfl
  refine ⟨?_, ?_, ?_, ?_, ?_, ?_, ?_, ?_⟩
  · intro other
    have hother := h.delivered other
    simp only [SerialEventQueue.push, SerialEventQueue.remember, List.count_append]
    omega
  · rw [List.map_append, List.pairwise_append]
    refine ⟨h.sequenceNumbers, by simp, ?_⟩
    intro a ha b hb
    obtain ⟨earlier, hearlier, rfl⟩ := List.mem_map.mp ha
    obtain rfl : b = queued.sequenceNumber := by simpa using hb
    rw [hqueued.sequenceNumber]
    exact h.sequenceBound earlier hearlier
  · intro other hother
    show other.sequenceNumber < history.queue.nextSequence + 1
    rcases List.mem_append.mp hother with hother | hother
    · exact Nat.lt_succ_of_lt (h.sequenceBound other hother)
    · obtain rfl : other = queued := by simpa using hother
      rw [hqueued.sequenceNumber]
      omega
  · unfold marketVersions
    rw [List.filterMap_append, List.pairwise_append]
    refine ⟨h.versions, ?_, ?_⟩
    · cases hm : queued.market <;> simp [hm]
    · intro a ha b hb
      obtain ⟨market, hm, rfl⟩ : ∃ market ∈ queued.market, market.version = b := by
        simpa using hb
      have hlt := hversionNew market (by rw [hmarket, ← hqueued.market]; exact hm)
      exact Nat.lt_of_le_of_lt (h.versionBound a ha) hlt
  · intro version hv
    unfold marketVersions at hv
    rw [List.filterMap_append] at hv
    rcases List.mem_append.mp hv with hv | hv
    · exact (h.versionBound version hv).trans hversionGrows
    · obtain ⟨market, hm, rfl⟩ : ∃ market ∈ queued.market, market.version = version := by
        simpa using hv
      have hevent : event.market = some market := by rw [← hqueued.market]; exact hm
      simp [SerialEventQueue.push, SerialEventQueue.remember, hmarket, hevent]
  · unfold eventIds
    rw [List.filter_append, List.filterMap_append, List.nodup_append]
    refine ⟨h.ids, ?_, ?_⟩
    · by_cases hnone : queued.market.isNone
      · cases hid : queued.eventId <;> simp [hnone, hid]
      · simp [hnone]
    · intro a ha b hb hab
      have hb' : queued.market.isNone ∧ queued.eventId = some b := by
        by_cases hnone : queued.market.isNone
        · simpa [hnone] using hb
        · simp [hnone] at hb
      refine hidNew b (by rw [← hqueued.eventId]; exact hb'.2) ?_
      rw [← hab]
      exact h.idsSeen a ha
  · intro id hid
    unfold eventIds at hid
    rw [List.filter_append, List.filterMap_append] at hid
    rcases List.mem_append.mp hid with hid | hid
    · exact hseenGrows id (h.idsSeen id hid)
    · have hid' : queued.market.isNone ∧ queued.eventId = some id := by
        by_cases hnone : queued.market.isNone
        · simpa [hnone] using hid
        · simp [hnone] at hid
      have hevent : event.market.isSome = false := by
        rw [← hqueued.market]
        simpa using hid'.1
      have hidentity := hqueued.eventId.symm.trans hid'.2
      simp [SerialEventQueue.push, SerialEventQueue.remember, hmarket, hevent, hidentity]
  · intro other hother
    rcases List.mem_append.mp hother with hother | hother
    · exact h.identified other hother
    · obtain rfl : other = queued := by simpa using hother
      rw [hqueued.eventId]
      exact TradingEvent.withQueueIdentity_eventId_isSome event _

/-- A refused event changes only what the queue remembers. -/
theorem accounted_refused {event : TradingEvent} (h : history.Accounted)
    (hnew : history.queue.isDuplicate event = false) :
    Accounted { history with queue := SerialEventQueue.remember event history.queue } := by
  obtain ⟨hversionGrows, hseenGrows⟩ := remember_grows hnew
  exact ⟨h.delivered, h.sequenceNumbers,
    fun other hother => Nat.lt_succ_of_lt (h.sequenceBound other hother), h.versions,
    fun version hv => (h.versionBound version hv).trans hversionGrows, h.ids,
    fun id hid => hseenGrows id (h.idsSeen id hid), h.identified⟩

/-- A claimed event is counted as popped instead of waiting. -/
theorem accounted_popped {event : TradingEvent} (h : history.Accounted)
    (hevent : event ∈ history.queue.pending) :
    Accounted { history with
      queue := SerialEventQueue.claim event history.queue
      popped := history.popped ++ [event] } := by
  refine ⟨?_, h.sequenceNumbers, h.sequenceBound, h.versions, h.versionBound, h.ids, h.idsSeen,
    h.identified⟩
  intro other
  have hother := h.delivered other
  have hpos := List.count_pos_iff.mpr hevent
  simp only [SerialEventQueue.claim, List.count_append, List.count_erase, List.count_singleton]
  by_cases heq : event = other
  · subst heq
    simp only [beq_self_eq_true, if_true]
    omega
  · simp only [beq_iff_eq, heq, if_false]
    omega

/-- A restored event waits again. -/
theorem accounted_restored {event : TradingEvent} (h : history.Accounted) :
    Accounted { history with
      queue := SerialEventQueue.push event history.queue
      restored := history.restored ++ [event] } := by
  refine ⟨?_, h.sequenceNumbers, h.sequenceBound, h.versions, h.versionBound, h.ids, h.idsSeen,
    h.identified⟩
  intro other
  have hother := h.delivered other
  simp only [SerialEventQueue.push, List.count_append]
  omega

/-- Every call keeps the account. -/
theorem Accounted.call (h : history.Accounted) (c : QueueCall) : (history.call c).Accounted := by
  cases c with
  | enqueue event internal =>
      have hspec := SerialEventQueue.enqueue_spec history.queue event internal
      simp only [QueueHistory.call]
      generalize SerialEventQueue.enqueue event internal history.queue = result at hspec ⊢
      cases hspec with
      | duplicate hdup => simpa using h
      | full => exact h
      | refused _ hnew => exact accounted_refused h hnew
      | accepted queued hnew hqueued => exact accounted_accepted h hnew hqueued
  | pop =>
      simp only [QueueHistory.call]
      rcases SerialEventQueue.pop_run history.queue with ⟨-, -, hrun⟩ | ⟨event, hevent, -, -, hrun⟩
      · simpa [hrun] using h
      · simpa [hrun] using accounted_popped h hevent
  | restoreClaimed event =>
      simp only [QueueHistory.call]
      rcases SerialEventQueue.restoreClaimed_run history.queue event with ⟨error, hrun⟩ | hrun
      · simpa [hrun] using h
      · simpa [hrun] using accounted_restored h

end Call

/-! ## Runs -/

/-- Every order of calls on a new queue keeps the account. -/
theorem accounted_run (maxPendingEvents maxSeenEventIds : ℕ) (calls : List QueueCall) :
    ((start maxPendingEvents maxSeenEventIds).run calls).Accounted := by
  induction calls using List.reverseRecOn with
  | nil => exact accounted_start maxPendingEvents maxSeenEventIds
  | append_singleton calls c ih =>
      rw [run_append]
      exact ih.call c

/-- A pop takes a waiting event of the smallest rank. -/
theorem pop_least {queue next : SerialEventQueue} {event : TradingEvent}
    (h : SerialEventQueue.pop queue = .ok (some event) next) :
    event ∈ queue.pending ∧
      ∀ other ∈ queue.pending, SerialEventQueue.rank event ≤ SerialEventQueue.rank other := by
  rcases SerialEventQueue.pop_run queue with ⟨-, -, hrun⟩ | ⟨least, hmem, -, hle, hrun⟩
  · rw [hrun] at h
    cases h
  · rw [hrun] at h
    cases h
    exact ⟨hmem, hle⟩

/-- A queue with waiting events pops one of them. -/
theorem exists_pop {queue : SerialEventQueue} (h : queue.pending ≠ []) :
    ∃ event ∈ queue.pending, SerialEventQueue.pop queue =
      .ok (some event) (SerialEventQueue.claim event queue) := by
  rcases SerialEventQueue.pop_run queue with ⟨-, hempty, -⟩ | ⟨event, hmem, -, -, hrun⟩
  · exact absurd hempty h
  · exact ⟨event, hmem, hrun⟩

/-- Of two accepted events of one priority the earlier has the smaller rank. -/
theorem rank_lt_of_sublist {history : QueueHistory} (h : history.Accounted)
    {first second : TradingEvent} (hsub : [first, second].Sublist history.accepted)
    (hpriority : first.priority = second.priority) :
    SerialEventQueue.rank first < SerialEventQueue.rank second := by
  have hsorted := h.sequenceNumbers.sublist (hsub.map (·.sequenceNumber))
  have hlt : first.sequenceNumber < second.sequenceNumber := by simpa using hsorted
  rw [SerialEventQueue.rank, SerialEventQueue.rank, Prod.Lex.toLex_lt_toLex]
  exact .inr ⟨by rw [hpriority], hlt⟩

/-- The waiting events leave in as many pops as there are. -/
theorem pending_drained (history : QueueHistory) :
    (history.run (List.replicate history.queue.pending.length .pop)).queue.pending = [] := by
  induction hlength : history.queue.pending.length generalizing history with
  | zero => exact List.length_eq_zero_iff.mp hlength
  | succ n ih =>
      have hne : history.queue.pending ≠ [] := by
        intro hnil
        simp [hnil] at hlength
      obtain ⟨event, hmem, hrun⟩ := exists_pop hne
      rw [List.replicate_succ, run_cons]
      apply ih
      have hcall : (history.call .pop).queue.pending = history.queue.pending.erase event := by
        simp [QueueHistory.call, hrun, SerialEventQueue.claim]
      rw [hcall, List.length_erase_of_mem hmem, hlength]
      omega

/-- Pops accept and restore nothing. -/
theorem run_pops (history : QueueHistory) (n : ℕ) :
    (history.run (List.replicate n .pop)).accepted = history.accepted ∧
      (history.run (List.replicate n .pop)).restored = history.restored := by
  induction n generalizing history with
  | zero => exact ⟨rfl, rfl⟩
  | succ n ih =>
      have hcall : (history.call .pop).accepted = history.accepted ∧
          (history.call .pop).restored = history.restored := by
        simp only [QueueHistory.call]
        cases SerialEventQueue.pop history.queue <;> exact ⟨rfl, rfl⟩
      rw [List.replicate_succ, run_cons]
      exact ⟨(ih _).1.trans hcall.1, (ih _).2.trans hcall.2⟩

/-- What the queue owes its callers after any calls. -/
structure DeliveryLaw (history : QueueHistory) : Prop where
  /-- Every acceptance and every restoration waits or was popped, once. -/
  delivered : ∀ event, history.popped.count event + history.queue.pending.count event =
    history.accepted.count event + history.restored.count event
  /-- As many pops as there are waiting events deliver all of them. -/
  drained : ∀ event,
    (history.run (List.replicate history.queue.pending.length .pop)).popped.count event =
      history.accepted.count event + history.restored.count event
  ids : history.eventIds.Nodup
  identified : ∀ event ∈ history.accepted, event.eventId.isSome
  versions : history.marketVersions.Pairwise (· < ·)
  least : ∀ event next, SerialEventQueue.pop history.queue = .ok (some event) next →
    event ∈ history.queue.pending ∧
      ∀ other ∈ history.queue.pending, SerialEventQueue.rank event ≤ SerialEventQueue.rank other
  /-- An event never leaves before an earlier one of its priority, restored or not. -/
  fifo : ∀ first second next, [first, second].Sublist history.accepted →
    first.priority = second.priority → first ∈ history.queue.pending →
    SerialEventQueue.pop history.queue ≠ .ok (some second) next

/-- Every order of calls is delivered as the queue owes it. -/
theorem delivery_law (maxPendingEvents maxSeenEventIds : ℕ) (calls : List QueueCall) :
    ((start maxPendingEvents maxSeenEventIds).run calls).DeliveryLaw := by
  have h := accounted_run maxPendingEvents maxSeenEventIds calls
  refine ⟨h.delivered, ?_, h.ids, h.identified, h.versions, ?_, ?_⟩
  · intro event
    set history := (start maxPendingEvents maxSeenEventIds).run calls with hhistory
    have hafter := (accounted_run maxPendingEvents maxSeenEventIds
      (calls ++ List.replicate history.queue.pending.length .pop)).delivered event
    rw [run_append, ← hhistory, pending_drained, (run_pops history _).1,
      (run_pops history _).2] at hafter
    simpa using hafter
  · intro event next hpop
    exact pop_least hpop
  · intro first second next hsub hpriority hpending hpop
    have hle := (pop_least hpop).2 first hpending
    exact absurd (rank_lt_of_sublist h hsub hpriority) (not_lt.mpr hle)

end QueueHistory

end Trading
