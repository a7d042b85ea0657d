import AutoTrader.Transport.UiAdapter

/-!
# One way forward

Whatever its sockets, timers and requests call back, an adapter that is neither stopped nor
being shut down has exactly one way to go on: an open socket, a scheduled retry or a snapshot
request.

* `Consistent` — what holds in the middle of a callback.
* `Settled` — what holds between callbacks.
* `connection_law` — every run of callbacks keeps it.
-/

namespace Transport

namespace BackendUiAdapter

variable {π ι : Type}

/-! ## Invariants -/

/-- How many of its three ways to go on an adapter has. -/
def ways (adapter : BackendUiAdapter π ι) : ℕ :=
  adapter.webSocket.isSome.toNat + adapter.retryTimer.isSome.toNat +
    adapter.isResynchronizing.toNat

/-- The event IDs that are remembered: each once, in the order of their events. -/
structure Tracked (adapter : BackendUiAdapter π ι) : Prop where
  same : adapter.seenEventIds = adapter.eventIdOrder
  nodup : adapter.eventIdOrder.Nodup
  bounded : adapter.eventIdOrder.length ≤ maxTrackedEventIds

/-- What holds also in the middle of a callback. -/
structure Consistent (adapter : BackendUiAdapter π ι) : Prop where
  tracked : adapter.Tracked
  token : adapter.hasToken = !adapter.isStopped
  task : adapter.shutdownTask = adapter.shutdownRequested
  resync : adapter.isResynchronizing = adapter.resyncAbort.isSome
  idle : adapter.isStopped = true ∨ adapter.isShuttingDown = true → adapter.ways = 0

/-- What holds between callbacks. -/
structure Settled (adapter : BackendUiAdapter π ι) : Prop extends Consistent adapter where
  socket : ∀ generation ∈ adapter.webSocket, generation = adapter.connectionGeneration
  request : ∀ generation ∈ adapter.resyncAbort,
    generation = adapter.connectionGeneration ∧ adapter.seenEventIds = []
  one : adapter.isStopped = false → adapter.isShuttingDown = false → adapter.ways = 1

variable {adapter : BackendUiAdapter π ι}

theorem ways_eq_zero : adapter.ways = 0 ↔
    adapter.webSocket = none ∧ adapter.retryTimer = none ∧ adapter.isResynchronizing = false := by
  cases hsocket : adapter.webSocket <;> cases htimer : adapter.retryTimer <;>
    cases hresync : adapter.isResynchronizing <;> simp [ways, hsocket, htimer, hresync]

theorem Tracked.nil (h : adapter.seenEventIds = []) (horder : adapter.eventIdOrder = []) :
    adapter.Tracked := ⟨h.trans horder.symm, by simp [horder], by simp [horder]⟩

/-- An adapter that may not go on is settled without any way to. -/
theorem Consistent.settled (h : adapter.Consistent)
    (hidle : adapter.isStopped = true ∨ adapter.isShuttingDown = true) : adapter.Settled where
  toConsistent := h
  socket := by simp [(ways_eq_zero.mp (h.idle hidle)).1]
  request := by
    have hresync := h.resync
    rw [(ways_eq_zero.mp (h.idle hidle)).2.2] at hresync
    have habort : adapter.resyncAbort = none := by simpa using hresync.symm
    simp [habort]
  one hrunning hopen := by simp [hrunning, hopen] at hidle

/-! ## What the operations keep -/

theorem Consistent.failClosed (h : adapter.Consistent) : adapter.failClosed.Settled := by
  unfold BackendUiAdapter.failClosed
  split
  · exact h.settled (.inl ‹_›)
  · exact Consistent.settled ⟨Tracked.nil rfl rfl, rfl, h.task, rfl, fun _ => rfl⟩ (.inl rfl)

theorem Consistent.stop (h : adapter.Consistent) : adapter.stop.Settled := by
  unfold BackendUiAdapter.stop
  split
  · rename_i hstopped
    exact h.settled (.inl (by simp_all))
  · exact Consistent.settled ⟨Tracked.nil rfl rfl, rfl, h.task, rfl, fun _ => rfl⟩ (.inl rfl)

theorem Consistent.handleConnectionFailure (h : adapter.Consistent) (error : AdapterError) :
    (adapter.handleConnectionFailure error).Settled := by
  unfold BackendUiAdapter.handleConnectionFailure
  split
  · exact h.failClosed
  · split
    · rename_i hidle
      exact h.settled (by simpa using hidle)
    · rename_i hrunning
      have hopen : adapter.isStopped = false ∧ adapter.isShuttingDown = false := by
        simpa using hrunning
      refine ⟨⟨⟨h.tracked.same, h.tracked.nodup, h.tracked.bounded⟩, h.token, h.task, rfl, ?_⟩,
        by simp [closeCurrentSocket], by simp [closeCurrentSocket, clearRecoveryWork],
        fun _ _ => rfl⟩
      intro hidle
      have : adapter.isStopped = true ∨ adapter.isShuttingDown = true := hidle
      simp [hopen] at this

theorem Consistent.recoverPublication (h : adapter.Consistent) :
    adapter.recoverPublication.Settled := by
  have hcounted : Consistent
      { adapter with
        connectionHealthySince := none
        publicationRecoveryAttempts := adapter.publicationRecoveryAttempts + 1 } :=
    ⟨⟨h.tracked.same, h.tracked.nodup, h.tracked.bounded⟩, h.token, h.task, h.resync, h.idle⟩
  unfold BackendUiAdapter.recoverPublication
  dsimp only
  split
  · exact hcounted.handleConnectionFailure _
  · exact hcounted.failClosed

theorem Settled.recoverUiPublication (h : adapter.Settled) :
    adapter.recoverUiPublication.Settled := by
  unfold BackendUiAdapter.recoverUiPublication
  split
  · exact h
  · exact h.toConsistent.recoverPublication

theorem Consistent.fullResynchronize (h : adapter.Consistent)
    (hresync : adapter.isResynchronizing = false) : adapter.fullResynchronize.Settled := by
  unfold BackendUiAdapter.fullResynchronize
  split
  · rename_i hidle
    exact h.settled (by simpa [hresync] using hidle)
  · rename_i hrunning
    have hopen : adapter.isStopped = false ∧ adapter.isShuttingDown = false := by
      simpa [hresync] using hrunning
    refine ⟨⟨Tracked.nil rfl rfl, h.token, h.task, rfl, ?_⟩, by simp [clearSeenEvents,
      closeCurrentSocket], ?_, fun _ _ => rfl⟩
    · intro hidle
      have : adapter.isStopped = true ∨ adapter.isShuttingDown = true := hidle
      simp [hopen] at this
    · rintro generation hgeneration
      cases hgeneration
      exact ⟨rfl, rfl⟩

theorem Consistent.requestStreamResynchronization (h : adapter.Consistent)
    (hresync : adapter.isResynchronizing = false) (htimer : adapter.retryTimer = none)
    (reason : String) : (adapter.requestStreamResynchronization reason).Settled := by
  unfold BackendUiAdapter.requestStreamResynchronization
  split
  · rename_i hidle
    exact h.settled (by simpa [hresync, htimer] using hidle)
  · split
    · exact h.handleConnectionFailure _
    · exact h.fullResynchronize hresync

theorem Consistent.openEventStream (h : adapter.Consistent) (hways : adapter.ways = 0)
    (created : Bool) : (adapter.openEventStream created).Settled := by
  unfold BackendUiAdapter.openEventStream
  split
  · rename_i hidle
    exact h.settled (by simpa [h.token] using hidle)
  · rename_i hrunning
    have hopen : adapter.isStopped = false ∧ adapter.isShuttingDown = false := by
      simpa [h.token] using hrunning
    obtain ⟨hsocket, htimer, hresync⟩ := ways_eq_zero.mp hways
    have habort : adapter.resyncAbort = none := by simpa [hresync] using h.resync.symm
    have hclosed : ¬ (adapter.isStopped = true ∨ adapter.isShuttingDown = true) := by
      simp [hopen]
    have hopening : Consistent
        { adapter with connectionGeneration := adapter.connectionGeneration + 1 } :=
      ⟨⟨h.tracked.same, h.tracked.nodup, h.tracked.bounded⟩, h.token, h.task, h.resync, h.idle⟩
    dsimp only
    split
    · refine ⟨⟨⟨h.tracked.same, h.tracked.nodup, h.tracked.bounded⟩, h.token, h.task, h.resync,
        fun hidle => absurd hidle hclosed⟩, by simp [eq_comm], by simp [habort], ?_⟩
      intro _ _
      simp [ways, htimer, hresync]
    · exact hopening.handleConnectionFailure _

/-! ## Frames -/

/-- An event ID that is not remembered yet is remembered last; the oldest one goes. -/
theorem Tracked.rememberEventId (h : adapter.Tracked) {eventId : String}
    (hfresh : eventId ∉ adapter.seenEventIds) : (adapter.rememberEventId eventId).Tracked := by
  have hnodup : (adapter.eventIdOrder ++ [eventId]).Nodup := by
    refine List.nodup_append.mpr ⟨h.nodup, by simp, ?_⟩
    rintro other hother _ hlast rfl
    rw [List.mem_singleton] at hlast
    exact hfresh (hlast ▸ h.same ▸ hother)
  have hbound := h.bounded
  rw [h.same] at hfresh
  unfold BackendUiAdapter.rememberEventId
  simp only [h.same, if_neg hfresh]
  split
  · cases horder : adapter.eventIdOrder ++ [eventId] with
    | nil => simp at horder
    | cons expired rest =>
        have hlength : rest.length = adapter.eventIdOrder.length := by
          have := congrArg List.length horder
          simpa using this.symm
        rw [horder] at hnodup
        exact ⟨by simp, (List.nodup_cons.mp hnodup).2, by rw [hlength]; exact hbound⟩
  · exact ⟨rfl, hnodup, by simp_all⟩

/-- Reading a frame to its end changes the times and the budgets only. -/
theorem Consistent.markEventStreamReady (h : adapter.Consistent) (now : ℚ) :
    (adapter.markEventStreamReady now).Consistent := by
  unfold BackendUiAdapter.markEventStreamReady
  dsimp only
  split
  all_goals
    exact ⟨⟨h.tracked.same, h.tracked.nodup, h.tracked.bounded⟩, h.token, h.task, h.resync,
      h.idle⟩

theorem Settled.markEventStreamReady (h : adapter.Settled) (now : ℚ) :
    (adapter.markEventStreamReady now).Settled := by
  refine ⟨h.toConsistent.markEventStreamReady now, ?_, ?_, ?_⟩
  all_goals
    unfold BackendUiAdapter.markEventStreamReady
    dsimp only
    split
  · exact h.socket
  · exact h.socket
  · exact h.request
  · exact h.request
  · exact h.one
  · exact h.one

theorem Settled.finishFrame (h : adapter.Settled) (frame : ReceivedFrame π) :
    (adapter.finishFrame frame).Settled := by
  unfold BackendUiAdapter.finishFrame
  dsimp only
  split
  · exact (h.toConsistent.markEventStreamReady frame.now).recoverPublication
  · exact h.markEventStreamReady frame.now

/-- An adapter with a socket waits neither for a timer nor for a snapshot. -/
theorem Settled.alone (h : adapter.Settled) {generation : ℕ}
    (hsocket : adapter.webSocket = some generation) :
    adapter.isStopped = false ∧ adapter.isShuttingDown = false ∧ adapter.retryTimer = none ∧
      adapter.isResynchronizing = false ∧ adapter.resyncAbort = none := by
  have hrunning : ¬ (adapter.isStopped = true ∨ adapter.isShuttingDown = true) := by
    intro hidle
    have := (ways_eq_zero.mp (h.idle hidle)).1
    simp [hsocket] at this
  have hstopped : adapter.isStopped = false := by simp_all
  have hopen : adapter.isShuttingDown = false := by simp_all
  have hone := h.one hstopped hopen
  have htimer : adapter.retryTimer = none := by
    cases htimer : adapter.retryTimer with
    | none => rfl
    | some _ =>
        simp only [ways, hsocket, htimer, Option.isSome_some, Bool.toNat_true] at hone
        omega
  have hresync : adapter.isResynchronizing = false := by
    cases hresync : adapter.isResynchronizing with
    | false => rfl
    | true =>
        simp only [ways, hsocket, hresync, Option.isSome_some, Bool.toNat_true] at hone
        omega
  exact ⟨hstopped, hopen, htimer, hresync, by simpa [hresync] using h.resync.symm⟩

/-- What was applied, the cursor and the command state have no part in the ways to go on. -/
theorem Consistent.withContent (h : adapter.Consistent) (sessionId : String) (lastSequence : ℕ)
    (command : CommandState) (facade : Facade π ι) :
    Consistent
      { adapter with activeSessionId := sessionId, lastSequence, command, facade } :=
  ⟨⟨h.tracked.same, h.tracked.nodup, h.tracked.bounded⟩, h.token, h.task, h.resync, h.idle⟩

theorem Settled.withContent (h : adapter.Settled) (sessionId : String) (lastSequence : ℕ)
    (command : CommandState) (facade : Facade π ι) :
    Settled { adapter with activeSessionId := sessionId, lastSequence, command, facade } :=
  ⟨h.toConsistent.withContent sessionId lastSequence command facade, h.socket, h.request, h.one⟩

theorem rememberEventId_eq (adapter : BackendUiAdapter π ι) (eventId : String) : ∃ seen order,
    adapter.rememberEventId eventId =
      { adapter with seenEventIds := seen, eventIdOrder := order } ∧
    ∀ other ∈ seen, other ∈ adapter.seenEventIds ∨ other = eventId := by
  have hseen : ∀ other ∈ (if eventId ∈ adapter.seenEventIds then adapter.seenEventIds
      else adapter.seenEventIds ++ [eventId]),
      other ∈ adapter.seenEventIds ∨ other = eventId := by
    intro other hother
    split at hother
    · exact .inl hother
    · simpa using hother
  unfold BackendUiAdapter.rememberEventId
  dsimp only
  split
  · cases horder : adapter.eventIdOrder ++ [eventId] with
    | nil => exact ⟨_, _, rfl, hseen⟩
    | cons expired rest =>
        exact ⟨_, _, rfl, fun other hother => hseen other (List.mem_of_mem_erase hother)⟩
  · exact ⟨_, _, rfl, hseen⟩

theorem Settled.rememberEventId (h : adapter.Settled) {eventId : String}
    (hfresh : eventId ∉ adapter.seenEventIds) (habort : adapter.resyncAbort = none) :
    (adapter.rememberEventId eventId).Settled := by
  have htracked := h.tracked.rememberEventId hfresh
  obtain ⟨seen, order, heq, -⟩ := rememberEventId_eq adapter eventId
  rw [heq] at htracked ⊢
  exact ⟨⟨htracked, h.token, h.task, h.resync, h.idle⟩, h.socket, by simp [habort], h.one⟩

variable {settings : AdapterSettings π ι}

theorem Settled.applyEvent (h : adapter.Settled) {event : BackendEventEnvelope π}
    (hfresh : event.eventId ∉ adapter.seenEventIds) (habort : adapter.resyncAbort = none)
    (frame : ReceivedFrame π) : (adapter.applyEvent settings frame event).Settled := by
  unfold BackendUiAdapter.applyEvent
  split
  · exact h.toConsistent.failClosed
  · split
    · exact h.toConsistent.failClosed
    · dsimp only
      split
      · exact (h.toConsistent.withContent _ _ _ _).recoverPublication
      · apply Settled.finishFrame
        apply Settled.rememberEventId
        · exact h.withContent _ _ _ _
        · exact hfresh
        · exact habort

theorem Settled.handleEvent (h : adapter.Settled) {generation : ℕ}
    (hsocket : adapter.webSocket = some generation) (frame : ReceivedFrame π)
    (event : BackendEventEnvelope π) : (adapter.handleEvent settings frame event).Settled := by
  obtain ⟨-, -, htimer, hresync, habort⟩ := h.alone hsocket
  have hrequest := h.toConsistent.requestStreamResynchronization hresync htimer
  unfold BackendUiAdapter.handleEvent
  split
  · exact h
  split
  · split
    · exact h.withContent _ _ _ _
    · exact hrequest _
  split
  · exact hrequest _
  · exact h.applyEvent ‹_› habort frame

theorem Settled.handleEventFrame (h : adapter.Settled) {generation : ℕ}
    (hsocket : adapter.webSocket = some generation) (frame : ReceivedFrame π) :
    (adapter.handleEventFrame settings frame).Settled := by
  obtain ⟨-, -, htimer, hresync, -⟩ := h.alone hsocket
  have hrequest := h.toConsistent.requestStreamResynchronization hresync htimer
  unfold BackendUiAdapter.handleEventFrame
  split
  · exact hrequest _
  split
  · exact h.toConsistent.failClosed
  split
  · exact hrequest _
  split
  · exact hrequest _
  · split
    · exact hrequest _
    · exact h.finishFrame frame
  · exact h.handleEvent hsocket frame _

/-! ## Callbacks -/

theorem Settled.snapshotAnswered (h : adapter.Settled) (generation : ℕ)
    (answer : Except AdapterError BackendSnapshot) (publishRaises created : Bool) :
    (adapter.snapshotAnswered settings generation answer publishRaises created).Settled := by
  unfold BackendUiAdapter.snapshotAnswered
  split
  · exact h
  rename_i hcurrent
  simp only [Bool.or_eq_true, bne_iff_ne, not_or, Bool.not_eq_true, not_not] at hcurrent
  obtain ⟨⟨hstopped, habort⟩, -⟩ := hcurrent
  -- the request was the only way to go on, and it is answered
  have hresync : adapter.isResynchronizing = true := by rw [h.resync, habort]; rfl
  have hways : ∀ next : BackendUiAdapter π ι, next.webSocket = adapter.webSocket →
      next.retryTimer = adapter.retryTimer → next.isResynchronizing = false →
      next.ways = 0 := by
    intro next hsocket htimer hdone
    have hrunning : adapter.ways = 1 := by
      by_cases hopen : adapter.isShuttingDown = true
      · have := (ways_eq_zero.mp (h.idle (.inr hopen))).2.2
        simp [hresync] at this
      · exact h.one hstopped (by simpa using hopen)
    simp only [ways, hresync, hsocket, htimer, hdone, Bool.toNat_true, Bool.toNat_false]
      at hrunning ⊢
    omega
  have hsettled : ∀ sessionId lastSequence command facade,
      Consistent
        { adapter with
          activeSessionId := sessionId, lastSequence, command, facade
          isResynchronizing := false, resyncAbort := none } :=
    fun _ _ _ _ => ⟨⟨h.tracked.same, h.tracked.nodup, h.tracked.bounded⟩, h.token, h.task, rfl,
      fun _ => hways _ rfl rfl rfl⟩
  dsimp only
  split
  · exact (hsettled _ _ _ _).handleConnectionFailure _
  split
  · exact (hsettled _ _ _ _).handleConnectionFailure _
  split
  · exact (hsettled _ _ _ _).recoverPublication
  · exact (hsettled _ _ _ _).openEventStream (hways _ rfl rfl rfl) created

theorem Settled.runShutdown (h : adapter.Settled) : adapter.runShutdown.Settled := by
  unfold BackendUiAdapter.runShutdown
  split
  · exact h
  · refine Consistent.settled ⟨⟨h.tracked.same, h.tracked.nodup, h.tracked.bounded⟩, h.token, rfl,
      rfl, fun _ => rfl⟩ (.inr ?_)
    simp [isShuttingDown]

/-- While a shutdown is under way there is no connection, whatever it turns out to be. -/
theorem Settled.withOutcome (h : adapter.Settled) (htask : adapter.shutdownTask = true)
    (accepted ambiguous : Bool) :
    Settled
      { adapter with
        shutdownWasAccepted := accepted, shutdownOutcomeIsAmbiguous := ambiguous } := by
  have hrequested : adapter.shutdownRequested = true := by rw [← h.task, htask]
  have hidle := h.idle (.inr (by simp [isShuttingDown, hrequested]))
  refine Consistent.settled ⟨⟨h.tracked.same, h.tracked.nodup, h.tracked.bounded⟩, h.token, h.task,
    h.resync, fun _ => hidle⟩ (.inr ?_)
  simp [isShuttingDown, hrequested]

theorem Settled.shutdownFinished (h : adapter.Settled) : adapter.shutdownFinished.Settled := by
  unfold BackendUiAdapter.shutdownFinished
  split
  · rename_i htask
    have hrequested : adapter.shutdownRequested = true := by rw [← h.task, htask]
    have hidle := h.idle (.inr (by simp [isShuttingDown, hrequested]))
    have hfinished : Consistent
        { adapter with shutdownTask := false, shutdownRequested := false } :=
      ⟨⟨h.tracked.same, h.tracked.nodup, h.tracked.bounded⟩, h.token, rfl, h.resync,
        fun _ => hidle⟩
    dsimp only
    split
    · exact hfinished.fullResynchronize (ways_eq_zero.mp hidle).2.2
    · rename_i hrefused
      refine hfinished.settled ?_
      by_contra hrunning
      apply hrefused
      simpa [isShuttingDown, and_assoc] using hrunning
  · exact h

theorem Settled.react (h : adapter.Settled) (input : AdapterInput π) :
    (adapter.react settings input).Settled := by
  have hcurrent : ∀ {generation}, adapter.isCurrentGeneration generation = true →
      adapter.webSocket = some generation := by
    intro generation hcurrent
    simp only [isCurrentGeneration, Bool.and_eq_true, beq_iff_eq] at hcurrent
    exact hcurrent.2
  cases input with
  | onOpen generation sent =>
      unfold BackendUiAdapter.react
      dsimp only
      split
      · exact h.toConsistent.handleConnectionFailure _
      · exact h
  | onMessage generation frame =>
      unfold BackendUiAdapter.react
      dsimp only
      split
      · rename_i hmessage
        exact h.handleEventFrame (hcurrent (Bool.and_eq_true_iff.mp hmessage).1) frame
      · exact h
  | onError generation =>
      unfold BackendUiAdapter.react
      dsimp only
      split
      · exact h.toConsistent.handleConnectionFailure _
      · exact h
  | onClose generation code =>
      unfold BackendUiAdapter.react
      dsimp only
      split
      · rename_i hmessage
        obtain ⟨hstopped, hopen, htimer, hresync, -⟩ := h.alone (hcurrent hmessage)
        have hways : adapter.closeCurrentSocket.ways = 0 :=
          ways_eq_zero.mpr ⟨rfl, htimer, hresync⟩
        have hclosed : adapter.closeCurrentSocket.Consistent :=
          ⟨⟨h.tracked.same, h.tracked.nodup, h.tracked.bounded⟩, h.token, h.task, h.resync,
            fun _ => hways⟩
        split
        · exact hclosed.settled (.inr ‹_›)
        split
        · exact hclosed.failClosed
        · exact hclosed.requestStreamResynchronization hresync htimer _
      · exact h
  | socketTimeout generation code =>
      unfold BackendUiAdapter.react
      dsimp only
      split
      · exact h.toConsistent.handleConnectionFailure _
      · exact h
  | retryTimer =>
      unfold BackendUiAdapter.react
      cases htimer : adapter.retryTimer with
      | none => exact h
      | some reason =>
          -- the timer was the only way to go on
          have hrunning : ¬ (adapter.isStopped = true ∨ adapter.isShuttingDown = true) := by
            intro hidle
            have := (ways_eq_zero.mp (h.idle hidle)).2.1
            simp [htimer] at this
          have hone := h.one (by simp_all) (by simp_all)
          have hresync : adapter.isResynchronizing = false := by
            cases hresync : adapter.isResynchronizing with
            | false => rfl
            | true =>
                simp only [ways, htimer, hresync, Option.isSome_some, Bool.toNat_true] at hone
                omega
          have hfired : Consistent { adapter with retryTimer := none } :=
            ⟨⟨h.tracked.same, h.tracked.nodup, h.tracked.bounded⟩, h.token, h.task, h.resync,
              fun hidle => absurd hidle hrunning⟩
          exact hfired.fullResynchronize hresync
  | snapshotAnswered generation answer publishRaises created =>
      exact h.snapshotAnswered generation answer publishRaises created
  | environmentChanged stale =>
      unfold BackendUiAdapter.react
      dsimp only
      split
      · exact h.toConsistent.handleConnectionFailure _
      · exact h
  | recoverUiPublication => exact h.recoverUiPublication
  | runShutdown => exact h.runShutdown
  | shutdownRejected =>
      unfold BackendUiAdapter.react
      dsimp only
      split
      · rename_i htask
        exact h.withOutcome (Bool.and_eq_true_iff.mp htask).1 _ _
      · exact h
  | shutdownAmbiguous =>
      unfold BackendUiAdapter.react
      dsimp only
      split
      · rename_i htask
        exact h.withOutcome (Bool.and_eq_true_iff.mp htask).1 _ _
      · exact h
  | shutdownAccepted =>
      unfold BackendUiAdapter.react
      dsimp only
      split
      · rename_i htask
        exact h.withOutcome (Bool.and_eq_true_iff.mp htask).1 _ _
      · exact h
  | shutdownFinished => exact h.shutdownFinished
  | stop => exact h.toConsistent.stop

theorem settled_startLiveEvents (snapshot : BackendSnapshot) (created : Bool) :
    (startLiveEvents snapshot created : BackendUiAdapter π ι).Settled :=
  Consistent.openEventStream ⟨Tracked.nil rfl rfl, rfl, rfl, rfl, fun _ => rfl⟩ rfl created

/-- A run of callbacks from the start. -/
def run (settings : AdapterSettings π ι) (snapshot : BackendSnapshot) (created : Bool)
    (inputs : List (AdapterInput π)) : BackendUiAdapter π ι :=
  inputs.foldl (react settings) (startLiveEvents snapshot created)

variable (settings) in
theorem settled_run (snapshot : BackendSnapshot) (created : Bool)
    (inputs : List (AdapterInput π)) : (run settings snapshot created inputs).Settled := by
  suffices hfold : ∀ adapter : BackendUiAdapter π ι, adapter.Settled →
      (inputs.foldl (BackendUiAdapter.react settings) adapter).Settled from
    hfold _ (settled_startLiveEvents snapshot created)
  induction inputs with
  | nil => exact fun _ h => h
  | cons input inputs ih => exact fun adapter h => ih _ (h.react input)

end BackendUiAdapter

/-- The generation that a callback belongs to. -/
def AdapterInput.generation {π : Type} : AdapterInput π → Option ℕ
  | .onOpen generation _ => some generation
  | .onMessage generation _ => some generation
  | .onError generation => some generation
  | .onClose generation _ => some generation
  | .socketTimeout generation _ => some generation
  | .snapshotAnswered generation _ _ _ => some generation
  | _ => none

namespace BackendUiAdapter

variable {π ι : Type} {adapter : BackendUiAdapter π ι}

/-- A late callback changes nothing. -/
theorem react_stale (settings : AdapterSettings π ι) {input : AdapterInput π} {generation : ℕ}
    (hinput : input.generation = some generation)
    (hstale : generation ≠ adapter.connectionGeneration) :
    adapter.react settings input = adapter := by
  have hnot : adapter.isCurrentGeneration generation = false := by
    simp [isCurrentGeneration, hstale]
  cases input with
  | onOpen | onMessage | onError | onClose | socketTimeout =>
      cases hinput
      simp [react, hnot]
  | snapshotAnswered =>
      cases hinput
      simp [react, snapshotAnswered, hstale]
  | retryTimer | environmentChanged | recoverUiPublication | runShutdown | shutdownRejected |
    shutdownAmbiguous | shutdownAccepted | shutdownFinished | stop => cases hinput

/-- Between callbacks, in any order of them, an adapter that is neither stopped nor being shut
down has exactly one way to go on: the socket of its own generation, a scheduled retry, or a
snapshot request of its own generation; one that is stopped or being shut down has none.
Callbacks of other generations change nothing, and the event IDs it remembers are bounded. -/
theorem connection_law (settings : AdapterSettings π ι) (snapshot : BackendSnapshot)
    (created : Bool) (inputs : List (AdapterInput π)) :
    let adapter := run settings snapshot created inputs
    (adapter.isStopped = false → adapter.isShuttingDown = false →
      (∃ generation, adapter.webSocket = some generation ∧
          generation = adapter.connectionGeneration ∧
          adapter.retryTimer = none ∧ adapter.isResynchronizing = false) ∨
        (∃ reason, adapter.retryTimer = some reason ∧
          adapter.webSocket = none ∧ adapter.isResynchronizing = false) ∨
        (adapter.isResynchronizing = true ∧
          adapter.resyncAbort = some adapter.connectionGeneration ∧
          adapter.webSocket = none ∧ adapter.retryTimer = none)) ∧
    (adapter.isStopped = true ∨ adapter.isShuttingDown = true →
      adapter.webSocket = none ∧ adapter.retryTimer = none ∧
        adapter.isResynchronizing = false) ∧
    (∀ input generation, input.generation = some generation →
      generation ≠ adapter.connectionGeneration → adapter.react settings input = adapter) ∧
    adapter.seenEventIds.Nodup ∧ adapter.seenEventIds.length ≤ maxTrackedEventIds := by
  intro adapter
  have h : adapter.Settled := settled_run settings snapshot created inputs
  refine ⟨fun hstopped hopen => ?_, fun hidle => ways_eq_zero.mp (h.idle hidle),
    fun _ _ hinput hstale => react_stale settings hinput hstale,
    by rw [h.tracked.same]; exact h.tracked.nodup, by rw [h.tracked.same]; exact h.tracked.bounded⟩
  have hone := h.one hstopped hopen
  cases hsocket : adapter.webSocket with
  | some generation =>
      obtain ⟨-, -, htimer, hresync, -⟩ := h.alone hsocket
      exact .inl ⟨generation, rfl, h.socket generation hsocket, htimer, hresync⟩
  | none =>
      cases htimer : adapter.retryTimer with
      | some reason =>
          cases hresync : adapter.isResynchronizing with
          | false => exact .inr (.inl ⟨reason, rfl, rfl, rfl⟩)
          | true => simp [ways, hsocket, htimer, hresync] at hone
      | none =>
          cases hresync : adapter.isResynchronizing with
          | false => simp [ways, hsocket, htimer, hresync] at hone
          | true =>
              have hrequest := h.resync
              rw [hresync] at hrequest
              obtain ⟨generation, habort⟩ := Option.isSome_iff_exists.mp hrequest.symm
              refine .inr (.inr ⟨rfl, ?_, rfl, rfl⟩)
              rw [habort, (h.request generation habort).1]

end BackendUiAdapter

end Transport
