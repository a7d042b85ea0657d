import AutoTrader.Transport.Replay
import AutoTrader.Transport.UiAdapterLaws

/-!
# Frames in order

What the adapter does with the frames of a connection that follow its cursor, and which
callbacks leave what the application has alone.

* `Quiet` — a callback that the application does not notice.
* `InOrder` — frames that follow a cursor and lead to another.
* `Delivered`, `handleEventFrame_inOrder` — what becomes of a frame in order.
-/

namespace Transport

open Trading

variable {π ι : Type}

/-! ## Callbacks that the application does not notice -/

/-- What the application has is untouched; the socket is kept or given up. -/
structure Quiet (before after : BackendUiAdapter π ι) : Prop where
  facade : after.facade = before.facade
  lastSequence : after.lastSequence = before.lastSequence
  activeSessionId : after.activeSessionId = before.activeSessionId
  generation : before.connectionGeneration ≤ after.connectionGeneration
  seen : ∀ eventId ∈ after.seenEventIds, eventId ∈ before.seenEventIds
  socket : after.webSocket = none ∨ after.webSocket = before.webSocket

namespace Quiet

variable {before after adapter : BackendUiAdapter π ι}

theorem refl (adapter : BackendUiAdapter π ι) : Quiet adapter adapter :=
  ⟨rfl, rfl, rfl, le_rfl, fun _ h => h, .inr rfl⟩

theorem trans {last : BackendUiAdapter π ι} (h : Quiet before after) (h' : Quiet after last) :
    Quiet before last where
  facade := h'.facade.trans h.facade
  lastSequence := h'.lastSequence.trans h.lastSequence
  activeSessionId := h'.activeSessionId.trans h.activeSessionId
  generation := h.generation.trans h'.generation
  seen eventId hseen := h.seen eventId (h'.seen eventId hseen)
  socket := by
    rcases h'.socket with hnone | hsame
    · exact .inl hnone
    · rw [hsame]
      exact h.socket

theorem failClosed : Quiet adapter adapter.failClosed := by
  unfold BackendUiAdapter.failClosed
  split
  · exact refl adapter
  · exact ⟨rfl, rfl, rfl, Nat.le_succ _, fun _ h => absurd h List.not_mem_nil, .inl rfl⟩

theorem stop : Quiet adapter adapter.stop := by
  unfold BackendUiAdapter.stop
  split
  · exact refl adapter
  · exact ⟨rfl, rfl, rfl, Nat.le_succ _, fun _ h => absurd h List.not_mem_nil, .inl rfl⟩

theorem handleConnectionFailure (error : AdapterError) :
    Quiet adapter (adapter.handleConnectionFailure error) := by
  unfold BackendUiAdapter.handleConnectionFailure
  split
  · exact failClosed
  split
  · exact refl adapter
  · exact ⟨rfl, rfl, rfl, Nat.le_succ _, fun _ h => h, .inl rfl⟩

theorem recoverPublication : Quiet adapter adapter.recoverPublication := by
  have hcounted : Quiet adapter
      { adapter with
        connectionHealthySince := none
        publicationRecoveryAttempts := adapter.publicationRecoveryAttempts + 1 } :=
    ⟨rfl, rfl, rfl, le_rfl, fun _ h => h, .inr rfl⟩
  unfold BackendUiAdapter.recoverPublication
  dsimp only
  split
  · exact hcounted.trans (handleConnectionFailure _)
  · exact hcounted.trans failClosed

theorem recoverUiPublication : Quiet adapter adapter.recoverUiPublication := by
  unfold BackendUiAdapter.recoverUiPublication
  split
  · exact refl adapter
  · exact recoverPublication

theorem fullResynchronize : Quiet adapter adapter.fullResynchronize := by
  unfold BackendUiAdapter.fullResynchronize
  split
  · exact refl adapter
  · exact ⟨rfl, rfl, rfl, Nat.le_succ _, fun _ h => absurd h List.not_mem_nil, .inl rfl⟩

theorem requestStreamResynchronization (reason : String) :
    Quiet adapter (adapter.requestStreamResynchronization reason) := by
  unfold BackendUiAdapter.requestStreamResynchronization
  split
  · exact refl adapter
  split
  · exact handleConnectionFailure _
  · exact fullResynchronize

theorem runShutdown : Quiet adapter adapter.runShutdown := by
  unfold BackendUiAdapter.runShutdown
  split
  · exact refl adapter
  · exact ⟨rfl, rfl, rfl, Nat.le_succ _, fun _ h => h, .inl rfl⟩

theorem shutdownFinished : Quiet adapter adapter.shutdownFinished := by
  have hfinished : Quiet adapter
      { adapter with shutdownTask := false, shutdownRequested := false } :=
    ⟨rfl, rfl, rfl, le_rfl, fun _ h => h, .inr rfl⟩
  unfold BackendUiAdapter.shutdownFinished
  split
  · dsimp only
    split
    · exact hfinished.trans fullResynchronize
    · exact hfinished
  · exact refl adapter

theorem finishFrame (frame : ReceivedFrame π) : Quiet adapter (adapter.finishFrame frame) := by
  have hready : Quiet adapter (adapter.markEventStreamReady frame.now) := by
    unfold BackendUiAdapter.markEventStreamReady
    dsimp only
    split
    all_goals exact ⟨rfl, rfl, rfl, le_rfl, fun _ h => h, .inr rfl⟩
  unfold BackendUiAdapter.finishFrame
  dsimp only
  split
  · exact hready.trans recoverPublication
  · exact hready

end Quiet

/-- The callbacks that bring neither an event nor a snapshot. -/
def AdapterInput.isLocal : AdapterInput π → Bool
  | .onOpen _ sent => !sent
  | .onMessage _ _ => false
  | .snapshotAnswered _ (.ok _) _ _ => false
  | _ => true

theorem Quiet.react (settings : AdapterSettings π ι) (adapter : BackendUiAdapter π ι)
    {input : AdapterInput π} (hlocal : input.isLocal = true) :
    Quiet adapter (adapter.react settings input) := by
  cases input with
  | onMessage generation frame => cases hlocal
  | onOpen | onError | socketTimeout | environmentChanged =>
      unfold BackendUiAdapter.react
      dsimp only
      split
      · exact Quiet.handleConnectionFailure _
      · exact Quiet.refl adapter
  | onClose generation code =>
      have hclosed : Quiet adapter adapter.closeCurrentSocket :=
        ⟨rfl, rfl, rfl, le_rfl, fun _ h => h, .inl rfl⟩
      unfold BackendUiAdapter.react
      dsimp only
      split
      · split
        · exact hclosed
        split
        · exact hclosed.trans Quiet.failClosed
        · exact hclosed.trans (Quiet.requestStreamResynchronization _)
      · exact Quiet.refl adapter
  | retryTimer =>
      have hfired : Quiet adapter { adapter with retryTimer := none } :=
        ⟨rfl, rfl, rfl, le_rfl, fun _ h => h, .inr rfl⟩
      unfold BackendUiAdapter.react
      dsimp only
      split
      · exact Quiet.refl adapter
      · exact hfired.trans Quiet.fullResynchronize
  | snapshotAnswered generation answer publishRaises created =>
      cases answer with
      | ok snapshot => cases hlocal
      | error error =>
          have hsettled : Quiet adapter
              { adapter with isResynchronizing := false, resyncAbort := none } :=
            ⟨rfl, rfl, rfl, le_rfl, fun _ h => h, .inr rfl⟩
          unfold BackendUiAdapter.react BackendUiAdapter.snapshotAnswered
          dsimp only
          split
          · exact Quiet.refl adapter
          · exact hsettled.trans (Quiet.handleConnectionFailure _)
  | recoverUiPublication => exact Quiet.recoverUiPublication
  | runShutdown => exact Quiet.runShutdown
  | shutdownRejected | shutdownAmbiguous | shutdownAccepted =>
      unfold BackendUiAdapter.react
      dsimp only
      split
      · exact ⟨rfl, rfl, rfl, le_rfl, fun _ h => h, .inr rfl⟩
      · exact Quiet.refl adapter
  | shutdownFinished => exact Quiet.shutdownFinished
  | stop => exact Quiet.stop

/-! ## Frames in order -/

/-- Frames that follow a cursor and lead to another. -/
def InOrder (sessionId : String) : ℕ → List (WebSocketMessage π) → ℕ → Prop
  | last, [], cursor => last = cursor
  | last, .event event :: frames, cursor =>
      event.sequence = last + 1 ∧ event.sessionId = sessionId ∧
        InOrder sessionId (last + 1) frames cursor
  | last, .heartbeat session number :: frames, cursor =>
      number = last ∧ session = sessionId ∧ InOrder sessionId last frames cursor
  | last, .resyncRequired session _ :: frames, cursor =>
      session = sessionId ∧ InOrder sessionId last frames cursor

theorem InOrder.append {sessionId : String} {last middle cursor : ℕ}
    {front back : List (WebSocketMessage π)} (hfront : InOrder sessionId last front middle)
    (hback : InOrder sessionId middle back cursor) :
    InOrder sessionId last (front ++ back) cursor := by
  induction front generalizing last with
  | nil =>
      cases hfront
      exact hback
  | cons message front ih =>
      cases message with
      | event event => exact ⟨hfront.1, hfront.2.1, ih hfront.2.2⟩
      | heartbeat session number => exact ⟨hfront.1, hfront.2.1, ih hfront.2.2⟩
      | resyncRequired session reason => exact ⟨hfront.1, ih hfront.2⟩

/-- Numbered events of a session lead from the number before the first to the last one's. -/
theorem InOrder.events {sessionId : String} {last : ℕ} {events : List (BackendEventEnvelope π)}
    (hevents : Consecutive (last + 1) events)
    (hsession : ∀ event ∈ events, event.sessionId = sessionId) :
    InOrder sessionId last (events.map .event) (last + events.length) := by
  induction events generalizing last with
  | nil => rfl
  | cons event events ih =>
      obtain ⟨hsequence, hrest⟩ := consecutive_cons.mp hevents
      refine ⟨hsequence, hsession event (by simp), ?_⟩
      rw [List.length_cons, Nat.add_comm events.length 1, ← Nat.add_assoc]
      exact ih hrest fun other hother => hsession other (by simp [hother])

/-! ## What the adapter does on a frame in order -/

/-- A frame in order changes nothing that the application has, or is an event that is taken
for known, that the application could not apply, or that it has applied. -/
inductive Delivered (adapter after : BackendUiAdapter π ι) : WebSocketMessage π → Prop
  | quiet {message} (hquiet : Quiet adapter after)
      (hsocket : after.webSocket = none ∨ ∃ sessionId number,
        message = .heartbeat sessionId number) : Delivered adapter after message
  | known {event} (hseen : event.eventId ∈ adapter.seenEventIds)
      (hafter : after = { adapter with lastSequence := event.sequence }) :
      Delivered adapter after (.event event)
  | broken {event} (hsocket : after.webSocket = none) (command : CommandState)
      (hafter : Quiet
        { adapter with command, facade := { adapter.facade with broken := true } } after) :
      Delivered adapter after (.event event)
  | applied {event} (hfresh : event.eventId ∉ adapter.seenEventIds) (command : CommandState)
      (applicable : List (UiApplicationIntent ι))
      (hafter : Quiet
        ({ adapter with
            command
            facade :=
              { adapter.facade with
                applied := adapter.facade.applied ++ [event]
                intents := adapter.facade.intents ++ [applicable] }
            lastSequence := event.sequence }.rememberEventId event.eventId) after) :
      Delivered adapter after (.event event)

section Closing

variable {adapter : BackendUiAdapter π ι}

theorem failClosed_webSocket (hrunning : adapter.isStopped = false) :
    adapter.failClosed.webSocket = none := by
  simp [BackendUiAdapter.failClosed, hrunning, BackendUiAdapter.clearSeenEvents,
    BackendUiAdapter.closeCurrentSocket]

theorem handleConnectionFailure_webSocket (hrunning : adapter.isStopped = false)
    (hopen : adapter.isShuttingDown = false) (error : AdapterError) :
    (adapter.handleConnectionFailure error).webSocket = none := by
  unfold BackendUiAdapter.handleConnectionFailure
  split
  · exact failClosed_webSocket hrunning
  · simp [hrunning, hopen, BackendUiAdapter.closeCurrentSocket]

theorem recoverPublication_webSocket (hrunning : adapter.isStopped = false)
    (hopen : adapter.isShuttingDown = false) : adapter.recoverPublication.webSocket = none := by
  unfold BackendUiAdapter.recoverPublication
  dsimp only
  split
  · apply handleConnectionFailure_webSocket
    · exact hrunning
    · exact hopen
  · apply failClosed_webSocket
    exact hrunning

theorem requestStreamResynchronization_webSocket (h : adapter.Settled) {generation : ℕ}
    (hsocket : adapter.webSocket = some generation) (reason : String) :
    (adapter.requestStreamResynchronization reason).webSocket = none := by
  obtain ⟨hrunning, hopen, htimer, hresync, -⟩ := h.alone hsocket
  unfold BackendUiAdapter.requestStreamResynchronization
  simp only [hrunning, hopen, htimer, hresync, Option.isSome_none, Bool.or_self,
    Bool.false_eq_true, if_false]
  split
  · exact handleConnectionFailure_webSocket hrunning hopen _
  · simp [BackendUiAdapter.fullResynchronize, hrunning, hopen, hresync,
      BackendUiAdapter.clearSeenEvents, BackendUiAdapter.closeCurrentSocket]

end Closing

/-- Every frame in order is delivered: none of them asks for a new snapshot on its own. -/
theorem handleEventFrame_inOrder (settings : AdapterSettings π ι) {adapter : BackendUiAdapter π ι}
    (h : adapter.Settled) {generation : ℕ} (hsocket : adapter.webSocket = some generation)
    {message : WebSocketMessage π} {frames : List (WebSocketMessage π)} {cursor : ℕ}
    (horder : InOrder adapter.activeSessionId adapter.lastSequence (message :: frames) cursor)
    {frame : ReceivedFrame π} (hframe : frame.message = .ok message) :
    Delivered adapter (adapter.handleEventFrame settings frame) message := by
  obtain ⟨hrunning, hopen, -, -, -⟩ := h.alone hsocket
  have hclosed := requestStreamResynchronization_webSocket h hsocket
  unfold BackendUiAdapter.handleEventFrame
  split
  · exact .quiet (Quiet.requestStreamResynchronization _) (.inl (hclosed _))
  rw [hframe]
  cases message with
  | resyncRequired session reason =>
      simp only [WebSocketMessage.sessionId, horder.1, ne_eq, not_true_eq_false, if_false]
      exact .quiet (Quiet.requestStreamResynchronization _) (.inl (hclosed _))
  | heartbeat session number =>
      simp only [WebSocketMessage.sessionId, horder.1, horder.2.1, ne_eq, not_true_eq_false,
        if_false]
      exact .quiet (Quiet.finishFrame frame) (.inr ⟨_, _, rfl⟩)
  | event event =>
      obtain ⟨hsequence, hsession, -⟩ := horder
      have hnext : ¬ event.sequence ≤ adapter.lastSequence := by omega
      simp only [WebSocketMessage.sessionId, hsession, ne_eq, not_true_eq_false, if_false]
      unfold BackendUiAdapter.handleEvent
      rw [if_neg hnext]
      by_cases hseen : event.eventId ∈ adapter.seenEventIds
      · rw [if_pos hseen, if_pos hsequence]
        exact .known hseen rfl
      rw [if_neg hseen, if_neg (not_not.mpr hsequence)]
      unfold BackendUiAdapter.applyEvent
      split
      · exact .quiet Quiet.failClosed (.inl (failClosed_webSocket hrunning))
      split
      · exact .quiet Quiet.failClosed (.inl (failClosed_webSocket hrunning))
      dsimp only
      split
      · exact .broken (recoverPublication_webSocket hrunning hopen) _ Quiet.recoverPublication
      · exact .applied hseen _ _ (Quiet.finishFrame frame)

/-- A readiness callback that raises costs the socket. -/
theorem finishFrame_webSocket {adapter : BackendUiAdapter π ι} (hrunning : adapter.isStopped = false)
    (hopen : adapter.isShuttingDown = false) {frame : ReceivedFrame π}
    (hraises : frame.readyRaises = true) : (adapter.finishFrame frame).webSocket = none := by
  have hready : (adapter.markEventStreamReady frame.now).isStopped = false ∧
      (adapter.markEventStreamReady frame.now).isShuttingDown = false := by
    unfold BackendUiAdapter.markEventStreamReady
    dsimp only
    split <;> exact ⟨hrunning, hopen⟩
  unfold BackendUiAdapter.finishFrame
  dsimp only
  rw [if_pos hraises]
  exact recoverPublication_webSocket hready.1 hready.2

/-- After a frame in order whose callbacks raise, and that was not taken for known, there is no
socket: an event was not applied, or the adapter could not become ready. -/
theorem handleEventFrame_readyRaises (settings : AdapterSettings π ι)
    {adapter : BackendUiAdapter π ι} (h : adapter.Settled) {generation : ℕ}
    (hsocket : adapter.webSocket = some generation) {message : WebSocketMessage π}
    {frames : List (WebSocketMessage π)} {cursor : ℕ}
    (horder : InOrder adapter.activeSessionId adapter.lastSequence (message :: frames) cursor)
    {frame : ReceivedFrame π} (hframe : frame.message = .ok message)
    (hraises : frame.readyRaises = true)
    (hfresh : ∀ event, message = .event event → event.eventId ∉ adapter.seenEventIds) :
    (adapter.handleEventFrame settings frame).webSocket = none := by
  obtain ⟨hrunning, hopen, -, -, -⟩ := h.alone hsocket
  have hclosed := requestStreamResynchronization_webSocket h hsocket
  unfold BackendUiAdapter.handleEventFrame
  split
  · exact hclosed _
  rw [hframe]
  cases message with
  | resyncRequired session reason =>
      simp only [WebSocketMessage.sessionId, horder.1, ne_eq, not_true_eq_false, if_false]
      exact hclosed _
  | heartbeat session number =>
      simp only [WebSocketMessage.sessionId, horder.1, horder.2.1, ne_eq, not_true_eq_false,
        if_false]
      exact finishFrame_webSocket hrunning hopen hraises
  | event event =>
      obtain ⟨hsequence, hsession, -⟩ := horder
      have hnext : ¬ event.sequence ≤ adapter.lastSequence := by omega
      simp only [WebSocketMessage.sessionId, hsession, ne_eq, not_true_eq_false, if_false]
      unfold BackendUiAdapter.handleEvent
      rw [if_neg hnext, if_neg (hfresh event rfl), if_neg (not_not.mpr hsequence)]
      unfold BackendUiAdapter.applyEvent
      split
      · exact failClosed_webSocket hrunning
      split
      · exact failClosed_webSocket hrunning
      rename_i command applicable _
      dsimp only
      split
      · exact recoverPublication_webSocket hrunning hopen
      · obtain ⟨seen, order, heq, -⟩ := BackendUiAdapter.rememberEventId_eq
          { adapter with
            command
            facade :=
              { adapter.facade with
                applied := adapter.facade.applied ++ [event]
                intents := adapter.facade.intents ++ [applicable] }
            lastSequence := event.sequence } event.eventId
        rw [heq]
        refine finishFrame_webSocket ?_ ?_ hraises
        · exact hrunning
        · exact hopen

end Transport
