import AutoTrader.Support.State
import AutoTrader.Trading.History.Wire

/-!
# The event stream of a backend session

`BackendEventStream`: events get the next sequence numbers, a bounded buffer keeps the last
ones, and a reader asks for what came after the last sequence it received.

* `publish`, `publishMany` — the two writers, which keep what they wrote when they raise.
* `pruneLocked` — the retention by age and by count.
* `replayAfterLocked` — the events after a sequence, or why they cannot be replayed.
* `replayAfter`, `beginWait`, `endWait` — the readers' calls; a wait gives the lock away
  between its two looks at the buffer.
-/

namespace Transport

open Stateful Trading

/-! ## Events -/

/-- `MAX_UNSIGNED_SEQUENCE`. -/
def maxUnsignedSequence : ℕ := 2 ^ 64 - 1

/-- `MAX_WEBSOCKET_FRAME_BYTES`. -/
def maxWebSocketFrameBytes : ℕ := 1024 * 1024

/-- The exceptions of the stream. -/
inductive StreamError where
  | valueError (message : String)
  | typeError (message : String)
  | runtimeError (message : String)
  | overflowError (message : String)
  deriving DecidableEq, Repr

/-- `BackendEventEnvelope`, with a payload of any kind. -/
structure BackendEventEnvelope (π : Type) where
  sessionId : String
  eventId : String
  sequence : ℕ
  occurredAt : Timestamp
  eventType : String
  aggregateVersion : Option ℕ
  correlationId : Option String
  payload : π

/-- The characters of an event type after the first one. -/
def isEventTypeCharacter (c : Char) : Bool := c.isUpper || c.isDigit || c = '_'

/-- `_EVENT_TYPE_PATTERN`. -/
def isEventType (text : String) : Bool :=
  match text.toList with
  | [] => false
  | first :: rest => first.isUpper && rest.length ≤ 127 && rest.all isEventTypeCharacter

/-- A correlation ID that is safe in transport. -/
def isCorrelationId (text : String) : Bool :=
  !(text.toList.all isSpace) && text.length ≤ 256 &&
    text.toList.all fun c => 32 ≤ c.toNat

/-- `_validate_sequence`. -/
def validateSequence (value : ℕ) (fieldName : String) : Except StreamError Unit :=
  if value ≤ maxUnsignedSequence then .ok ()
  else .error (.valueError s!"{fieldName} must be an unsigned 64-bit integer")

/-- The checks of the constructor of an envelope. -/
def BackendEventEnvelope.validate {π : Type} (envelope : BackendEventEnvelope π) :
    Except StreamError Unit := do
  validateSequence envelope.sequence "sequence"
  if envelope.sequence = 0 then .error (.valueError "event sequence must start at one")
  if isEventType envelope.eventType = false then
    .error (.valueError "event_type must use canonical uppercase text")
  if let some version := envelope.aggregateVersion then
    validateSequence version "aggregate_version"
  if envelope.correlationId.any (fun text => !isCorrelationId text) then
    .error (.valueError "correlation_id is not safe transport text")

/-- `_StoredEvent`. -/
structure StoredEvent (π : Type) where
  envelope : BackendEventEnvelope π
  publishedAtMonotonic : ℚ

/-- The sequence number of a stored event. -/
def StoredEvent.sequence {π : Type} (event : StoredEvent π) : ℕ := event.envelope.sequence

/-! ## The stream -/

/-- What a stream is created with.  The cutoff is the difference of two floats, so it is only
known to be a function of the current time. -/
structure StreamSettings (π : Type) where
  sessionId : String
  maxReplayEvents : ℕ
  replayCutoff : ℚ → ℚ
  encodedLength : BackendEventEnvelope π → ℕ
  max_pos : 0 < maxReplayEvents
  max_le : maxReplayEvents ≤ 10000
  cutoff_le : ∀ time, replayCutoff time ≤ time

/-- `BackendEventStream`. -/
structure BackendEventStream (π : Type) where
  events : List (StoredEvent π) := []
  lastSequence : ℕ := 0
  closed : Bool := false

/-- Why a replay is refused. -/
inductive ResyncReason where
  | replayGap
  | sequenceAhead
  deriving DecidableEq, Repr

/-- `ReplayBatch`. -/
structure ReplayBatch (π : Type) where
  events : List (BackendEventEnvelope π)
  lastSequence : ℕ
  resyncReason : Option ResyncReason := none
  closed : Bool := false

/-- A method of the stream. -/
abbrev StreamM (π : Type) := EStateM StreamError (BackendEventStream π)

variable {π : Type}

/-! ## Retention -/

/-- The buffer after both retention rules. -/
def retained (settings : StreamSettings π) (currentTime : ℚ) (events : List (StoredEvent π)) :
    List (StoredEvent π) :=
  let young := events.dropWhile fun event =>
    decide (event.publishedAtMonotonic < settings.replayCutoff currentTime)
  young.drop (young.length - settings.maxReplayEvents)

/-- `_prune_locked`. -/
def pruneLocked (settings : StreamSettings π) (currentTime : ℚ) : StreamM π Unit :=
  modify fun stream => { stream with events := retained settings currentTime stream.events }

/-! ## Writers -/

/-- A call of `publish`, with what the clocks and the normalization of the payload answer. -/
structure PublishCall (π : Type) where
  eventType : String
  payload : Except StreamError π
  aggregateVersion : Option ℕ := none
  correlationId : Option String := none
  eventTime : Except StreamError Timestamp
  publicationTime : Except StreamError ℚ
  eventId : String

/-- The envelope of a call under a sequence number. -/
def PublishCall.envelope (settings : StreamSettings π) (call : PublishCall π) (payload : π)
    (eventTime : Timestamp) (sequence : ℕ) : BackendEventEnvelope π where
  sessionId := settings.sessionId
  eventId := call.eventId
  sequence := sequence
  occurredAt := eventTime
  eventType := call.eventType
  aggregateVersion := call.aggregateVersion
  correlationId := call.correlationId
  payload := payload

/-- The checks of an envelope and of its frame. -/
def checkEnvelope (settings : StreamSettings π) (envelope : BackendEventEnvelope π) :
    Except StreamError Unit := do
  envelope.validate
  if maxWebSocketFrameBytes < settings.encodedLength envelope then
    .error (.valueError "event envelope exceeds the WebSocket frame limit")

/-- `publish`. -/
def publish (settings : StreamSettings π) (call : PublishCall π) :
    StreamM π (BackendEventEnvelope π) := do
  let payload ← raising call.payload
  let stream ← get
  if stream.closed then throw (.runtimeError "event stream is closed")
  if stream.lastSequence = maxUnsignedSequence then
    throw (.overflowError "transport sequence exhausted unsigned 64-bit range")
  let eventTime ← raising call.eventTime
  let publicationTime ← raising call.publicationTime
  let nextSequence := stream.lastSequence + 1
  let envelope := call.envelope settings payload eventTime nextSequence
  raising (checkEnvelope settings envelope)
  modify fun stream => { stream with events := stream.events ++ [⟨envelope, publicationTime⟩] }
  modify fun stream => { stream with lastSequence := nextSequence }
  pruneLocked settings publicationTime
  pure envelope

/-- One pair of a batch, with its event ID. -/
structure BatchEvent (π : Type) where
  eventType : String
  payload : Except StreamError π
  eventId : String

/-- A call of `publish_many`. -/
structure PublishManyCall (π : Type) where
  events : List (BatchEvent π)
  eventTime : Except StreamError Timestamp
  publicationTime : Except StreamError ℚ

/-- The payloads of a batch, normalized before the lock is taken. -/
def normalizeEvents : List (BatchEvent π) → Except StreamError (List (BatchEvent π × π))
  | [] => .ok []
  | event :: events => do
      let payload ← event.payload
      let rest ← normalizeEvents events
      .ok ((event, payload) :: rest)

/-- The candidates of a batch, numbered from a sequence on. -/
def candidateEvents (settings : StreamSettings π) (eventTime : Timestamp) (publicationTime : ℚ) :
    ℕ → List (BatchEvent π × π) → Except StreamError (List (StoredEvent π))
  | _, [] => .ok []
  | sequence, (event, payload) :: events => do
      let envelope : BackendEventEnvelope π :=
        { sessionId := settings.sessionId
          eventId := event.eventId
          sequence := sequence + 1
          occurredAt := eventTime
          eventType := event.eventType
          aggregateVersion := none
          correlationId := none
          payload := payload }
      checkEnvelope settings envelope
      let rest ← candidateEvents settings eventTime publicationTime (sequence + 1) events
      .ok (⟨envelope, publicationTime⟩ :: rest)

/-- `publish_many`. -/
def publishMany (settings : StreamSettings π) (call : PublishManyCall π) :
    StreamM π (List (BackendEventEnvelope π)) := do
  if call.events = [] then throw (.valueError "events must not be empty")
  if settings.maxReplayEvents < call.events.length then
    throw (.valueError "event batch exceeds the replay event limit")
  let normalized ← raising (normalizeEvents call.events)
  let stream ← get
  if stream.closed then throw (.runtimeError "event stream is closed")
  if maxUnsignedSequence < stream.lastSequence + normalized.length then
    throw (.overflowError "transport sequence exhausted unsigned 64-bit range")
  let eventTime ← raising call.eventTime
  let publicationTime ← raising call.publicationTime
  let candidates ← raising
    (candidateEvents settings eventTime publicationTime stream.lastSequence normalized)
  modify fun stream => { stream with events := stream.events ++ candidates }
  modify fun stream => { stream with lastSequence := stream.lastSequence + normalized.length }
  pruneLocked settings publicationTime
  pure (candidates.map (·.envelope))

/-- `close`. -/
def close : StreamM π Unit := modify fun stream => { stream with closed := true }

/-! ## Readers -/

/-- `_replay_after_locked`. -/
def replayAfterLocked (stream : BackendEventStream π) (afterSequence : ℕ) : ReplayBatch π :=
  if stream.lastSequence < afterSequence then
    { events := []
      lastSequence := stream.lastSequence
      resyncReason := some .sequenceAhead
      closed := stream.closed }
  else if afterSequence = stream.lastSequence then
    { events := [], lastSequence := stream.lastSequence, closed := stream.closed }
  else
    match stream.events with
    | [] =>
        { events := []
          lastSequence := stream.lastSequence
          resyncReason := some .replayGap
          closed := stream.closed }
    | earliest :: _ =>
        if afterSequence + 1 < earliest.sequence then
          { events := []
            lastSequence := stream.lastSequence
            resyncReason := some .replayGap
            closed := stream.closed }
        else
          { events :=
              (stream.events.filter fun event => decide (afterSequence < event.sequence)).map
                (·.envelope)
            lastSequence := stream.lastSequence
            closed := stream.closed }

/-- `replay_after`, with the reading of the clock. -/
def replayAfter (settings : StreamSettings π) (afterSequence : ℕ)
    (currentTime : Except StreamError ℚ) : StreamM π (ReplayBatch π) := do
  raising (validateSequence afterSequence "after_sequence")
  let time ← raising currentTime
  pruneLocked settings time
  let stream ← get
  pure (replayAfterLocked stream afterSequence)

/-- `wait_for_events` until it returns or gives the lock away. -/
def beginWait (settings : StreamSettings π) (afterSequence : ℕ)
    (currentTime : Except StreamError ℚ) : StreamM π (Option (ReplayBatch π)) := do
  raising (validateSequence afterSequence "after_sequence")
  let time ← raising currentTime
  pruneLocked settings time
  let stream ← get
  let batch := replayAfterLocked stream afterSequence
  if batch.events ≠ [] ∨ batch.resyncReason ≠ none ∨ stream.closed then pure (some batch)
  else pure none

/-- `wait_for_events` from when it has the lock again. -/
def endWait (settings : StreamSettings π) (afterSequence : ℕ)
    (currentTime : Except StreamError ℚ) : StreamM π (ReplayBatch π) := do
  let time ← raising currentTime
  pruneLocked settings time
  let stream ← get
  pure (replayAfterLocked stream afterSequence)

end Transport
