import AutoTrader.Trading.Orders.Order
import AutoTrader.Transport.EventStream

/-!
# The event client of the renderer

`BackendUiAdapter`: a snapshot is applied whole, the events after it are applied one by one
over a socket, and whatever does not fit starts again from a new snapshot.

* `synchronizeCommandStateFromIntents` — the versions that the next command is checked with.
* `handleEventFrame` — what one frame does.
* `fullResynchronize`, `handleConnectionFailure`, `failClosed` — start again now, start again
  later, or stop.
* `AdapterInput`, `BackendUiAdapter.react` — the callbacks of sockets, timers and requests.

A callback of the application may raise.  What it was told before is kept in `Facade`.
-/

namespace Transport

open Trading

/-! ## Frames, intents and failures -/

/-- `BackendAdapterError`. -/
structure AdapterError where
  code : String
  retryable : Bool
  deriving DecidableEq, Repr

/-- `BackendTradingStatus`. -/
inductive BackendTradingStatus where
  | notStarted
  | running
  | stopping
  | reconciliationRequired
  | terminated
  deriving DecidableEq, Repr

/-- The fields of a `TRADING_SESSION_SYNCHRONIZED` intent that commands depend on. -/
structure TradingSession where
  version : ℕ
  status : BackendTradingStatus
  hasOpenPosition : Bool
  scaleIn : String
  scaleOut : String
  deriving DecidableEq, Repr

/-- `UiApplicationIntent`, with the intents that no command depends on of any kind. -/
inductive UiApplicationIntent (ι : Type) where
  | regimeSelectionSynchronized (selected : RegimeType) (version : ℕ)
  | tradingSessionSynchronized (session : TradingSession)
  | other (intent : ι)

/-- What `parse_backend_web_socket_message` makes of a frame. -/
inductive WebSocketMessage (π : Type) where
  | event (envelope : BackendEventEnvelope π)
  | heartbeat (sessionId : String) (lastSequence : ℕ)
  | resyncRequired (sessionId : String) (reason : String)

/-- The session that a message is about. -/
def WebSocketMessage.sessionId {π : Type} : WebSocketMessage π → String
  | .event envelope => envelope.sessionId
  | .heartbeat sessionId _ => sessionId
  | .resyncRequired sessionId _ => sessionId

/-- The fields of `BackendSnapshot` that the adapter reads. -/
structure BackendSnapshot where
  sessionId : String
  lastSequence : ℕ
  selectedRegime : Option RegimeType
  trading : TradingSession
  deriving DecidableEq, Repr

/-- What the application was told: the sequence of the last snapshot it has whole, the events
since then, and whether a callback raised before it was done. -/
structure Facade (π ι : Type) where
  base : ℕ
  applied : List (BackendEventEnvelope π) := []
  intents : List (List (UiApplicationIntent ι)) := []
  broken : Bool := false

/-! ## The adapter -/

/-- `MAX_TRACKED_EVENT_IDS`. -/
def maxTrackedEventIds : ℕ := 10000

/-- `MAX_PUBLICATION_RECOVERY_ATTEMPTS`. -/
def maxPublicationRecoveryAttempts : ℕ := 3

/-- `CONNECTION_HEALTHY_WINDOW_MS`. -/
def connectionHealthyWindowMs : ℚ := 60000

/-- What an adapter is created with.  The mapping of an event is the mapper's. -/
structure AdapterSettings (π ι : Type) where
  sessionId : String
  staleTimeoutMs : ℚ
  mapBackendEventToIntents : BackendEventEnvelope π →
    Except AdapterError (List (UiApplicationIntent ι))

/-- What the next command is checked with. -/
structure CommandState where
  tradingVersion : ℕ
  tradingStatus : BackendTradingStatus
  hasOpenPosition : Bool
  selectedRegime : Option RegimeType
  scaleInRatio : String
  scaleOutRatio : String
  deriving DecidableEq, Repr

/-- `BackendUiAdapter`.  A socket is named by the generation that opened it, and so is the
snapshot request that `resyncAbort` can abort. -/
structure BackendUiAdapter (π ι : Type) where
  activeSessionId : String
  lastSequence : ℕ
  command : CommandState
  facade : Facade π ι
  hasToken : Bool := true
  webSocket : Option ℕ := none
  isStopped : Bool := false
  isResynchronizing : Bool := false
  resyncAbort : Option ℕ := none
  retryTimer : Option String := none
  connectionGeneration : ℕ := 0
  retryAttempt : ℕ := 0
  publicationRecoveryAttempts : ℕ := 0
  recovering : Bool := false
  connectionIsUnstable : Bool := false
  connectionHealthySince : Option ℚ := none
  lastReceived : Option ℚ := none
  shutdownTask : Bool := false
  shutdownRequested : Bool := false
  shutdownWasAccepted : Bool := false
  shutdownOutcomeIsAmbiguous : Bool := false
  seenEventIds : List String := []
  eventIdOrder : List String := []

variable {π ι : Type}

namespace BackendUiAdapter

/-- The flags that keep a connection from being opened. -/
def isShuttingDown (adapter : BackendUiAdapter π ι) : Bool :=
  adapter.shutdownRequested || adapter.shutdownWasAccepted || adapter.shutdownOutcomeIsAmbiguous

/-- `is_current_generation`. -/
def isCurrentGeneration (adapter : BackendUiAdapter π ι) (generation : ℕ) : Bool :=
  !adapter.isStopped && generation == adapter.connectionGeneration &&
    adapter.webSocket == some generation

/-- `clear_seen_events`. -/
def clearSeenEvents (adapter : BackendUiAdapter π ι) : BackendUiAdapter π ι :=
  { adapter with seenEventIds := [], eventIdOrder := [] }

/-- `remember_event_id`. -/
def rememberEventId (adapter : BackendUiAdapter π ι) (eventId : String) : BackendUiAdapter π ι :=
  let seen :=
    if eventId ∈ adapter.seenEventIds then adapter.seenEventIds
    else adapter.seenEventIds ++ [eventId]
  let order := adapter.eventIdOrder ++ [eventId]
  if maxTrackedEventIds < order.length then
    match order with
    | expired :: rest => { adapter with seenEventIds := seen.erase expired, eventIdOrder := rest }
    | [] => { adapter with seenEventIds := seen, eventIdOrder := [] }
  else { adapter with seenEventIds := seen, eventIdOrder := order }

/-- `clear_recovery_work`. -/
def clearRecoveryWork (adapter : BackendUiAdapter π ι) : BackendUiAdapter π ι :=
  { adapter with retryTimer := none, resyncAbort := none, isResynchronizing := false }

/-- `close_current_socket`: its callbacks are taken away before it is closed. -/
def closeCurrentSocket (adapter : BackendUiAdapter π ι) : BackendUiAdapter π ι :=
  { adapter with webSocket := none }

/-- `fail_closed`. -/
def failClosed (adapter : BackendUiAdapter π ι) : BackendUiAdapter π ι :=
  if adapter.isStopped then adapter
  else
    { adapter.clearRecoveryWork.closeCurrentSocket.clearSeenEvents with
      isStopped := true
      connectionGeneration := adapter.connectionGeneration + 1
      hasToken := false }

/-- `handle_connection_failure`. -/
def handleConnectionFailure (adapter : BackendUiAdapter π ι) (error : AdapterError) :
    BackendUiAdapter π ι :=
  if !error.retryable then adapter.failClosed
  else if adapter.isStopped || adapter.isShuttingDown then adapter
  else
    { adapter.clearRecoveryWork.closeCurrentSocket with
      connectionGeneration := adapter.connectionGeneration + 1
      recovering := true
      connectionIsUnstable := true
      connectionHealthySince := none
      retryAttempt := adapter.retryAttempt + 1
      retryTimer := some error.code }

/-- `recover_publication`. -/
def recoverPublication (adapter : BackendUiAdapter π ι) : BackendUiAdapter π ι :=
  let retryable := decide (adapter.publicationRecoveryAttempts < maxPublicationRecoveryAttempts)
  let counted :=
    { adapter with
      connectionHealthySince := none
      publicationRecoveryAttempts := adapter.publicationRecoveryAttempts + 1 }
  if retryable then
    counted.handleConnectionFailure { code := "UI_STATE_PUBLICATION_FAILED", retryable := true }
  else counted.failClosed

/-- `recover_ui_publication`. -/
def recoverUiPublication (adapter : BackendUiAdapter π ι) : BackendUiAdapter π ι :=
  if adapter.isStopped || adapter.isShuttingDown then adapter
  else adapter.recoverPublication

/-- `open_event_stream`, with whether the socket could be created. -/
def openEventStream (adapter : BackendUiAdapter π ι) (created : Bool) : BackendUiAdapter π ι :=
  if adapter.isStopped || !adapter.hasToken || adapter.isShuttingDown then adapter
  else
    let generation := adapter.connectionGeneration + 1
    let opening := { adapter with connectionGeneration := generation }
    if created then { opening with webSocket := some generation }
    else
      opening.handleConnectionFailure
        { code := "EVENT_STREAM_CONNECTION_FAILED", retryable := true }

/-- `full_resynchronize` until it has sent its request. -/
def fullResynchronize (adapter : BackendUiAdapter π ι) : BackendUiAdapter π ι :=
  if adapter.isStopped || adapter.isResynchronizing || adapter.isShuttingDown then adapter
  else
    { adapter.clearRecoveryWork.closeCurrentSocket.clearSeenEvents with
      recovering := true
      connectionIsUnstable := true
      connectionHealthySince := none
      isResynchronizing := true
      connectionGeneration := adapter.connectionGeneration + 1
      resyncAbort := some (adapter.connectionGeneration + 1) }

/-- `request_stream_resynchronization`. -/
def requestStreamResynchronization (adapter : BackendUiAdapter π ι) (reason : String) :
    BackendUiAdapter π ι :=
  if adapter.isStopped || adapter.isResynchronizing || adapter.retryTimer.isSome ||
      adapter.isShuttingDown then adapter
  else if adapter.connectionIsUnstable then
    adapter.handleConnectionFailure { code := reason, retryable := true }
  else adapter.fullResynchronize

/-- `event_stream_is_stale` while the computer did not sleep. -/
def eventStreamIsStale (settings : AdapterSettings π ι) (adapter : BackendUiAdapter π ι)
    (now : ℚ) : Bool :=
  match adapter.lastReceived with
  | none => false
  | some received => decide (settings.staleTimeoutMs ≤ now - received)

/-- `mark_event_stream_ready` without its callbacks. -/
def markEventStreamReady (adapter : BackendUiAdapter π ι) (now : ℚ) : BackendUiAdapter π ι :=
  let since := adapter.connectionHealthySince.getD now
  let received :=
    { adapter with
      lastReceived := some now, connectionHealthySince := some since, recovering := false }
  if connectionHealthyWindowMs ≤ now - since then
    { received with
      retryAttempt := 0, publicationRecoveryAttempts := 0, connectionIsUnstable := false }
  else received

/-- `synchronize_command_state`. -/
def synchronizeCommandState (adapter : BackendUiAdapter π ι) (snapshot : BackendSnapshot) :
    BackendUiAdapter π ι :=
  { adapter with
    command :=
      { tradingVersion := snapshot.trading.version
        tradingStatus := snapshot.trading.status
        hasOpenPosition := snapshot.trading.hasOpenPosition
        selectedRegime := snapshot.selectedRegime
        scaleInRatio := snapshot.trading.scaleIn
        scaleOutRatio := snapshot.trading.scaleOut } }

end BackendUiAdapter

/-! ## The command state -/

/-- The first regime selection of a list. -/
def findSelection : List (UiApplicationIntent ι) → Option (RegimeType × ℕ)
  | [] => none
  | .regimeSelectionSynchronized selected version :: _ => some (selected, version)
  | _ :: intents => findSelection intents

/-- The first trading session of a list. -/
def findTradingSession : List (UiApplicationIntent ι) → Option TradingSession
  | [] => none
  | .tradingSessionSynchronized session :: _ => some session
  | _ :: intents => findTradingSession intents

/-- Whether an intent is a regime selection. -/
def UiApplicationIntent.isSelection : UiApplicationIntent ι → Bool
  | .regimeSelectionSynchronized _ _ => true
  | _ => false

/-- Whether an intent is a trading session. -/
def UiApplicationIntent.isTradingSession : UiApplicationIntent ι → Bool
  | .tradingSessionSynchronized _ => true
  | _ => false

/-- `synchronize_command_state_from_intents`: the selection first, then the session. -/
def synchronizeSelection (command : CommandState) (intents : List (UiApplicationIntent ι)) :
    Except AdapterError (CommandState × List (UiApplicationIntent ι)) :=
  match findSelection intents with
  | none => .ok (command, intents)
  | some (selected, version) =>
      if version < command.tradingVersion then
        .ok (command, intents.filter fun intent => !intent.isSelection)
      else if version = command.tradingVersion ∧ command.selectedRegime ≠ none ∧
          command.selectedRegime ≠ some selected then
        .error { code := "MALFORMED_BACKEND_PAYLOAD", retryable := false }
      else .ok ({ command with selectedRegime := some selected, tradingVersion := version }, intents)

/-- The second half of `synchronize_command_state_from_intents`. -/
def synchronizeSession (command : CommandState) (intents : List (UiApplicationIntent ι)) :
    CommandState × List (UiApplicationIntent ι) :=
  match findTradingSession intents with
  | none => (command, intents)
  | some session =>
      if session.version < command.tradingVersion then
        (command, intents.filter fun intent => !intent.isTradingSession)
      else
        ({ command with
            tradingVersion := session.version
            tradingStatus := session.status
            hasOpenPosition := session.hasOpenPosition
            scaleInRatio := session.scaleIn
            scaleOutRatio := session.scaleOut }, intents)

/-- `synchronize_command_state_from_intents`. -/
def synchronizeCommandStateFromIntents (command : CommandState)
    (intents : List (UiApplicationIntent ι)) :
    Except AdapterError (CommandState × List (UiApplicationIntent ι)) := do
  let (selected, applicable) ← synchronizeSelection command intents
  .ok (synchronizeSession selected applicable)

/-! ## Frames -/

/-- A delivered frame with what surrounds it: the time, and which callbacks raise. -/
structure ReceivedFrame (π : Type) where
  message : Except AdapterError (WebSocketMessage π)
  now : ℚ
  applyRaises : Bool := false
  readyRaises : Bool := false

namespace BackendUiAdapter

/-- The end of a frame that is in order: `mark_event_stream_ready`, whose callbacks may raise. -/
def finishFrame (adapter : BackendUiAdapter π ι) (frame : ReceivedFrame π) :
    BackendUiAdapter π ι :=
  let ready := adapter.markEventStreamReady frame.now
  if frame.readyRaises then ready.recoverPublication else ready

/-- The branch of `handle_event_frame` for the next event. -/
def applyEvent (settings : AdapterSettings π ι) (adapter : BackendUiAdapter π ι)
    (frame : ReceivedFrame π) (event : BackendEventEnvelope π) : BackendUiAdapter π ι :=
  match settings.mapBackendEventToIntents event with
  | .error _ => adapter.failClosed
  | .ok intents =>
      match synchronizeCommandStateFromIntents adapter.command intents with
      | .error _ => adapter.failClosed
      | .ok (command, applicable) =>
          let synchronized := { adapter with command }
          if frame.applyRaises then
            { synchronized with
              facade := { adapter.facade with broken := true } }.recoverPublication
          else
            { synchronized with
              facade :=
                { adapter.facade with
                  applied := adapter.facade.applied ++ [event]
                  intents := adapter.facade.intents ++ [applicable] }
              lastSequence := event.sequence }.rememberEventId event.eventId |>.finishFrame frame

/-- The branch of `handle_event_frame` for an event. -/
def handleEvent (settings : AdapterSettings π ι) (adapter : BackendUiAdapter π ι)
    (frame : ReceivedFrame π) (event : BackendEventEnvelope π) : BackendUiAdapter π ι :=
  if event.sequence ≤ adapter.lastSequence then adapter
  else if event.eventId ∈ adapter.seenEventIds then
    if event.sequence = adapter.lastSequence + 1 then
      { adapter with lastSequence := event.sequence }
    else adapter.requestStreamResynchronization "SEQUENCE_GAP"
  else if event.sequence ≠ adapter.lastSequence + 1 then
    adapter.requestStreamResynchronization "SEQUENCE_GAP"
  else adapter.applyEvent settings frame event

/-- `handle_event_frame`. -/
def handleEventFrame (settings : AdapterSettings π ι) (adapter : BackendUiAdapter π ι)
    (frame : ReceivedFrame π) : BackendUiAdapter π ι :=
  if !adapter.recovering && adapter.eventStreamIsStale settings frame.now then
    adapter.requestStreamResynchronization "EVENT_STREAM_STALE"
  else
    match frame.message with
    | .error _ => adapter.failClosed
    | .ok message =>
        if message.sessionId ≠ adapter.activeSessionId then
          adapter.requestStreamResynchronization "SESSION_CHANGED"
        else
          match message with
          | .resyncRequired _ reason => adapter.requestStreamResynchronization reason
          | .heartbeat _ lastSequence =>
              if lastSequence ≠ adapter.lastSequence then
                adapter.requestStreamResynchronization "SEQUENCE_GAP"
              else adapter.finishFrame frame
          | .event event => adapter.handleEvent settings frame event

end BackendUiAdapter

/-! ## Callbacks -/

/-- The close codes that are not tried again. -/
def rejectionCloseCodes : List ℕ := [1002, 1003, 1007, 1008, 1009]

/-- What happens to the adapter: the callbacks of its sockets, timers and requests, and the
calls of the application. -/
inductive AdapterInput (π : Type) where
  | onOpen (generation : ℕ) (sent : Bool)
  | onMessage (generation : ℕ) (frame : ReceivedFrame π)
  | onError (generation : ℕ)
  | onClose (generation : ℕ) (code : ℕ)
  | socketTimeout (generation : ℕ) (code : String)
  | retryTimer
  | snapshotAnswered (generation : ℕ) (answer : Except AdapterError BackendSnapshot)
      (publishRaises created : Bool)
  | environmentChanged (stale : Bool)
  | recoverUiPublication
  | runShutdown
  | shutdownRejected
  | shutdownAmbiguous
  | shutdownAccepted
  | shutdownFinished
  | stop

namespace BackendUiAdapter

/-- `full_resynchronize` from when its request is answered. -/
def snapshotAnswered (settings : AdapterSettings π ι) (adapter : BackendUiAdapter π ι)
    (generation : ℕ) (answer : Except AdapterError BackendSnapshot)
    (publishRaises created : Bool) : BackendUiAdapter π ι :=
  -- an aborted or older request is dropped, whatever it brings
  if adapter.isStopped || adapter.resyncAbort != some generation ||
      generation != adapter.connectionGeneration then adapter
  else
    let settled (next : BackendUiAdapter π ι) : BackendUiAdapter π ι :=
      { next with isResynchronizing := false, resyncAbort := none }
    match answer with
    | .error error => (settled adapter).handleConnectionFailure error
    | .ok snapshot =>
        if snapshot.sessionId ≠ settings.sessionId then
          (settled adapter).handleConnectionFailure
            { code := "SESSION_MISMATCH", retryable := false }
        else
          let synchronized := adapter.synchronizeCommandState snapshot
          if publishRaises then
            (settled { synchronized with
              facade := { adapter.facade with broken := true } }).recoverPublication
          else
            (settled { synchronized with
              facade := { base := snapshot.lastSequence }
              activeSessionId := snapshot.sessionId
              lastSequence := snapshot.lastSequence }).openEventStream created

/-- `stop`. -/
def stop (adapter : BackendUiAdapter π ι) : BackendUiAdapter π ι :=
  if adapter.isStopped && !adapter.hasToken then adapter
  else
    { adapter.clearRecoveryWork.closeCurrentSocket.clearSeenEvents with
      isStopped := true
      connectionGeneration := adapter.connectionGeneration + 1
      hasToken := false }

/-- `run_shutdown` until its first answer. -/
def runShutdown (adapter : BackendUiAdapter π ι) : BackendUiAdapter π ι :=
  if adapter.shutdownTask then adapter
  else
    { adapter.clearRecoveryWork.closeCurrentSocket with
      shutdownTask := true
      shutdownRequested := true
      connectionGeneration := adapter.connectionGeneration + 1 }

/-- The end of `run_shutdown`: a shutdown that was not accepted opens the connection again. -/
def shutdownFinished (adapter : BackendUiAdapter π ι) : BackendUiAdapter π ι :=
  if adapter.shutdownTask then
    let finished := { adapter with shutdownTask := false, shutdownRequested := false }
    if !finished.isStopped && !finished.shutdownWasAccepted &&
        !finished.shutdownOutcomeIsAmbiguous then finished.fullResynchronize
    else finished
  else adapter

/-- `start_live_events`, on the snapshot that the application has applied. -/
def startLiveEvents (snapshot : BackendSnapshot) (created : Bool) : BackendUiAdapter π ι :=
  ({ activeSessionId := snapshot.sessionId
     lastSequence := snapshot.lastSequence
     command :=
      { tradingVersion := snapshot.trading.version
        tradingStatus := snapshot.trading.status
        hasOpenPosition := snapshot.trading.hasOpenPosition
        selectedRegime := snapshot.selectedRegime
        scaleInRatio := snapshot.trading.scaleIn
        scaleOutRatio := snapshot.trading.scaleOut }
     facade := { base := snapshot.lastSequence } } : BackendUiAdapter π ι).openEventStream created

/-- What the adapter does on an input. -/
def react (settings : AdapterSettings π ι) (adapter : BackendUiAdapter π ι) :
    AdapterInput π → BackendUiAdapter π ι
  | .onOpen generation sent =>
      if adapter.isCurrentGeneration generation && adapter.hasToken && !sent then
        adapter.handleConnectionFailure
          { code := "EVENT_STREAM_AUTHENTICATION_FAILED", retryable := true }
      else adapter
  | .onMessage generation frame =>
      if adapter.isCurrentGeneration generation && !adapter.isResynchronizing then
        adapter.handleEventFrame settings frame
      else adapter
  | .onError generation =>
      if adapter.isCurrentGeneration generation then
        adapter.handleConnectionFailure { code := "EVENT_STREAM_SOCKET_ERROR", retryable := true }
      else adapter
  | .onClose generation code =>
      if adapter.isCurrentGeneration generation then
        let closed := adapter.closeCurrentSocket
        if closed.isShuttingDown then closed
        else if code ∈ rejectionCloseCodes then closed.failClosed
        else closed.requestStreamResynchronization "EVENT_STREAM_CLOSED"
      else adapter
  | .socketTimeout generation code =>
      if adapter.isCurrentGeneration generation then
        adapter.handleConnectionFailure { code, retryable := true }
      else adapter
  | .retryTimer =>
      match adapter.retryTimer with
      | none => adapter
      | some _ => { adapter with retryTimer := none }.fullResynchronize
  | .snapshotAnswered generation answer publishRaises created =>
      adapter.snapshotAnswered settings generation answer publishRaises created
  | .environmentChanged stale =>
      if !adapter.isStopped && !adapter.recovering && stale then
        adapter.handleConnectionFailure { code := "EVENT_STREAM_STALE", retryable := true }
      else adapter
  | .recoverUiPublication => adapter.recoverUiPublication
  | .runShutdown => adapter.runShutdown
  | .shutdownRejected =>
      if adapter.shutdownTask && !adapter.shutdownWasAccepted then
        { adapter with shutdownOutcomeIsAmbiguous := false }
      else adapter
  | .shutdownAmbiguous =>
      if adapter.shutdownTask && !adapter.shutdownWasAccepted then
        { adapter with shutdownOutcomeIsAmbiguous := true }
      else adapter
  | .shutdownAccepted =>
      if adapter.shutdownTask && !adapter.shutdownWasAccepted then
        { adapter with shutdownWasAccepted := true, shutdownOutcomeIsAmbiguous := false }
      else adapter
  | .shutdownFinished => adapter.shutdownFinished
  | .stop => adapter.stop

end BackendUiAdapter

end Transport
