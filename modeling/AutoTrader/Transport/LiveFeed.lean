import AutoTrader.Transport.FrameDelivery

/-!
# The live feed from the backend to the renderer

The event stream serves the connections of one adapter: publishing, reading, delivery,
failures, retries, snapshots and shutdown interleave in any order.

* `LiveFeed`, `FeedStep`, `LiveFeed.step` — both parties and what is on its way between them.
* `Hydrated` — what the application has against what was issued.
* `LiveFeed.Sound` — what every step keeps.
* `live_feed_law` — the application has exactly the events since its snapshot.
-/

namespace Transport

open Stateful Trading

variable {π ι : Type}

/-! ## The server's side -/

section Server

variable {ρ : Type} [DecidableEq ρ] {settings : StreamSettings π}

theorem publish_sessionId {call : PublishCall π} {stream after : BackendEventStream π}
    {envelope : BackendEventEnvelope π} (h : publish settings call stream = .ok envelope after) :
    envelope.sessionId = settings.sessionId := by
  revert h
  unfold publish
  cases call.payload with
  | error error => simp
  | ok payload =>
  by_cases hclosed : stream.closed = true
  · simp [hclosed]
  by_cases hlast : stream.lastSequence = maxUnsignedSequence
  · simp [hclosed, hlast]
  cases call.eventTime with
  | error error => simp [hclosed, hlast]
  | ok eventTime =>
  cases call.publicationTime with
  | error error => simp [hclosed, hlast]
  | ok time =>
  cases hcheck : checkEnvelope settings
      (call.envelope settings payload eventTime (stream.lastSequence + 1)) with
  | error error => simp [hclosed, hlast, hcheck]
  | ok _ =>
      simp [hclosed, hlast, hcheck, pruneLocked, -bind_pure_comp]
      rintro rfl -
      rfl

theorem candidateEvents_sessionId {eventTime : Timestamp} {time : ℚ} {sequence : ℕ}
    {normalized : List (BatchEvent π × π)} {candidates : List (StoredEvent π)}
    (h : candidateEvents settings eventTime time sequence normalized = .ok candidates) :
    ∀ event ∈ candidates, event.envelope.sessionId = settings.sessionId := by
  induction normalized generalizing sequence candidates with
  | nil => cases h; simp
  | cons pair normalized ih =>
      obtain ⟨event, payload⟩ := pair
      obtain ⟨_, -, h⟩ := Except.bind_eq_ok_iff.mp h
      obtain ⟨rest, hrest, h⟩ := Except.bind_eq_ok_iff.mp h
      cases h
      simpa using ih hrest

theorem publishMany_sessionId {call : PublishManyCall π} {stream after : BackendEventStream π}
    {envelopes : List (BackendEventEnvelope π)}
    (h : publishMany settings call stream = .ok envelopes after) :
    ∀ envelope ∈ envelopes, envelope.sessionId = settings.sessionId := by
  revert h
  unfold publishMany
  by_cases hempty : call.events = []
  · simp [hempty]
  by_cases hmany : settings.maxReplayEvents < call.events.length
  · simp [hempty, hmany]
  cases hnormalized : normalizeEvents call.events with
  | error error => simp [hempty, hmany]
  | ok normalized =>
  by_cases hclosed : stream.closed = true
  · simp [hempty, hmany, hclosed]
  by_cases hlast : maxUnsignedSequence < stream.lastSequence + normalized.length
  · simp [hempty, hmany, hclosed, hlast]
  cases htime : call.eventTime with
  | error error => simp [hempty, hmany, hclosed, hlast]
  | ok eventTime =>
  cases hpublication : call.publicationTime with
  | error error => simp [hempty, hmany, hclosed, hlast]
  | ok time =>
  cases hcandidates : candidateEvents settings eventTime time stream.lastSequence normalized with
  | error error => simp [hempty, hmany, hclosed, hlast, hcandidates]
  | ok fresh =>
      simp [hempty, hmany, hclosed, hlast, hcandidates, pruneLocked, -bind_pure_comp]
      rintro rfl -
      intro envelope henvelope
      obtain ⟨event, hevent, rfl⟩ := List.mem_map.mp henvelope
      exact candidateEvents_sessionId hcandidates event hevent

/-- A critical section issues events of the session, or none. -/
theorem StreamSystem.step_issued (settings : StreamSettings π) (system : StreamSystem ρ π)
    (step : StreamStep ρ π) :
    ∃ fresh, (system.step settings step).issued = system.issued ++ fresh ∧
      ∀ event ∈ fresh, event.sessionId = settings.sessionId := by
  have hnone : ∃ fresh, system.issued = system.issued ++ fresh ∧
      ∀ event ∈ fresh, event.sessionId = settings.sessionId := ⟨[], by simp, by simp⟩
  cases step with
  | publish call =>
      unfold StreamSystem.step
      dsimp only
      split
      · rename_i envelope stream hok
        exact ⟨[envelope], rfl, by simpa using publish_sessionId hok⟩
      · exact hnone
  | publishMany call =>
      unfold StreamSystem.step
      dsimp only
      split
      · rename_i envelopes stream hok
        exact ⟨envelopes, rfl, publishMany_sessionId hok⟩
      · exact hnone
  | close => exact hnone
  | replayAfter | endWait =>
      unfold StreamSystem.step
      dsimp only
      split
      · split
        · exact hnone
        · exact hnone
      · exact hnone
  | beginWait =>
      unfold StreamSystem.step
      dsimp only
      split
      · split
        · exact hnone
        · exact hnone
        · exact hnone
      · exact hnone

/-- The reader that a critical section is about. -/
def StreamStep.reader? : StreamStep ρ π → Option ρ
  | .replayAfter reader _ => some reader
  | .beginWait reader _ => some reader
  | .endWait reader _ => some reader
  | _ => none

/-- A critical section of another party leaves a reader alone. -/
theorem StreamSystem.step_reader_other (system : StreamSystem ρ π) (step : StreamStep ρ π)
    {name : ρ} (hother : step.reader? ≠ some name) :
    (system.step settings step).reader name = system.reader name := by
  cases step with
  | publish | publishMany =>
      unfold StreamSystem.step
      dsimp only
      split
      · rfl
      · rfl
  | close => rfl
  | replayAfter other | endWait other =>
      have hne : name ≠ other := fun heq => hother (by rw [heq]; rfl)
      unfold StreamSystem.step
      dsimp only
      split
      · split
        all_goals first | rfl | exact Function.update_of_ne hne _ _
      · rfl
  | beginWait other =>
      have hne : name ≠ other := fun heq => hother (by rw [heq]; rfl)
      unfold StreamSystem.step
      dsimp only
      split
      · split
        all_goals first | rfl | exact Function.update_of_ne hne _ _
      · rfl

/-- A critical section hands a reader some more events. -/
theorem StreamSystem.step_reader (settings : StreamSettings π) (system : StreamSystem ρ π)
    (step : StreamStep ρ π) (name : ρ) :
    ((system.step settings step).reader name).start = (system.reader name).start ∧
      (system.reader name).received <+: ((system.step settings step).reader name).received := by
  by_cases hother : step.reader? = some name
  · cases step with
    | publish | publishMany | close => cases hother
    | replayAfter other | endWait other =>
        cases hother
        unfold StreamSystem.step
        dsimp only
        split
        · split
          all_goals simp [StreamSystem.withReader, Reader.receive]
        · simp
    | beginWait other =>
        cases hother
        unfold StreamSystem.step
        dsimp only
        split
        · split
          all_goals simp [StreamSystem.withReader, Reader.receive]
        · simp
  · rw [system.step_reader_other step hother]
    exact ⟨rfl, List.prefix_rfl⟩

end Server

/-! ## Both parties -/

/-- What the two parties of one launch are created with. -/
structure FeedSettings (π ι : Type) where
  stream : StreamSettings π
  adapter : AdapterSettings π ι
  sameSession : adapter.sessionId = stream.sessionId

/-- Where `_serve_websocket` is with a connection. -/
inductive ConnectionPhase where
  | unauthenticated
  | authenticating (afterSequence : ℕ)
  | serving
  | finished
  deriving DecidableEq, Repr

/-- The stream with its connections, the adapter, and what is on its way: the frames of each
connection and the snapshot that answers each request.  A connection and a request go by the
generation of the adapter that they were made for. -/
structure LiveFeed (π ι : Type) where
  server : StreamSystem ℕ π
  client : BackendUiAdapter π ι
  phase : ℕ → ConnectionPhase := fun _ => .unauthenticated
  frames : ℕ → List (WebSocketMessage π) := fun _ => []
  answers : ℕ → Option BackendSnapshot := fun _ => none

/-- What can happen next. -/
inductive FeedStep (π : Type) where
  | publish (call : PublishCall π)
  | publishMany (call : PublishManyCall π)
  | close
  | opened (generation : ℕ)
  | authenticate (generation : ℕ)
  | beginWait (generation : ℕ) (currentTime : Except StreamError ℚ)
  | endWait (generation : ℕ) (currentTime : Except StreamError ℚ)
  | heartbeat (generation : ℕ)
  | deliver (generation : ℕ) (now : ℚ) (applyRaises readyRaises : Bool)
  | getSnapshot (generation : ℕ) (selected : Option RegimeType) (trading : TradingSession)
  | snapshotArrives (generation : ℕ) (publishRaises created : Bool)
  | client (input : AdapterInput π)

/-- `build_resync_control`'s text of a reason. -/
def ResyncReason.text : ResyncReason → String
  | .replayGap => "REPLAY_GAP"
  | .sequenceAhead => "SEQUENCE_AHEAD"

namespace LiveFeed

/-- One round of the loop of `_serve_websocket`: the events of a batch are sent in order, and
a batch that cannot be replayed ends the connection. -/
def serve (settings : FeedSettings π ι) (feed : LiveFeed π ι) (generation : ℕ)
    (wait : StreamStep ℕ π) : LiveFeed π ι :=
  if feed.phase generation = .serving then
    let server := feed.server.step settings.stream wait
    let before := feed.server.reader generation
    let after := server.reader generation
    let events := after.received.drop before.received.length
    let control := after.resync.toList.map fun reason =>
      .resyncRequired settings.stream.sessionId reason.text
    { feed with
      server
      phase := Function.update feed.phase generation
        (if after.resync.isSome then .finished else .serving)
      frames := Function.update feed.frames generation
        (feed.frames generation ++ (events.map .event ++ control)) }
  else feed

/-- The feed after a step. -/
def step (settings : FeedSettings π ι) (feed : LiveFeed π ι) : FeedStep π → LiveFeed π ι
  | .publish call => { feed with server := feed.server.step settings.stream (.publish call) }
  | .publishMany call =>
      { feed with server := feed.server.step settings.stream (.publishMany call) }
  | .close => { feed with server := feed.server.step settings.stream .close }
  | .opened generation =>
      -- `onopen`, once for a socket: the current one sends the cursor of the adapter
      if feed.phase generation = .unauthenticated ∧
          feed.client.isCurrentGeneration generation = true ∧ feed.client.hasToken = true then
        { feed with
          phase := Function.update feed.phase generation
            (.authenticating feed.client.lastSequence) }
      else feed
  | .authenticate generation =>
      match feed.phase generation with
      | .authenticating afterSequence =>
          { feed with
            server := feed.server.withReader generation { start := afterSequence }
            phase := Function.update feed.phase generation .serving }
      | _ => feed
  | .beginWait generation currentTime => feed.serve settings generation
      (.beginWait generation currentTime)
  | .endWait generation currentTime => feed.serve settings generation
      (.endWait generation currentTime)
  | .heartbeat generation =>
      if feed.phase generation = .serving then
        { feed with
          frames := Function.update feed.frames generation
            (feed.frames generation ++ [.heartbeat settings.stream.sessionId
              (feed.server.reader generation).cursor]) }
      else feed
  | .deliver generation now applyRaises readyRaises =>
      match feed.frames generation with
      | [] => feed
      | message :: frames =>
          { feed with
            frames := Function.update feed.frames generation frames
            client := feed.client.react settings.adapter
              (.onMessage generation { message := .ok message, now, applyRaises, readyRaises }) }
  | .getSnapshot generation selected trading =>
      { feed with
        answers := Function.update feed.answers generation (some
          { sessionId := settings.stream.sessionId
            lastSequence := feed.server.stream.lastSequence
            selectedRegime := selected
            trading }) }
  | .snapshotArrives generation publishRaises created =>
      match feed.answers generation with
      | none => feed
      | some snapshot =>
          { feed with
            client := feed.client.react settings.adapter
              (.snapshotAnswered generation (.ok snapshot) publishRaises created) }
  | .client input =>
      if input.isLocal then { feed with client := feed.client.react settings.adapter input }
      else feed

/-- The feed when `start_live_events` is called: the application has the state after the
events issued so far. -/
def start (settings : FeedSettings π ι) (before : List (StreamStep ℕ π))
    (selected : Option RegimeType) (trading : TradingSession) (created : Bool) : LiveFeed π ι :=
  let server := StreamSystem.run settings.stream (fun _ => 0) before
  { server
    client := BackendUiAdapter.startLiveEvents
      { sessionId := settings.stream.sessionId
        lastSequence := server.stream.lastSequence
        selectedRegime := selected
        trading } created }

/-- A run of the feed. -/
def run (settings : FeedSettings π ι) (before : List (StreamStep ℕ π))
    (selected : Option RegimeType) (trading : TradingSession) (created : Bool)
    (steps : List (FeedStep π)) : LiveFeed π ι :=
  steps.foldl (step settings) (start settings before selected trading created)

/-! ## What every step keeps -/

/-- What is on its way on a connection fits the adapter. -/
def Channel (settings : FeedSettings π ι) (feed : LiveFeed π ι) (generation : ℕ) : Prop :=
  match feed.phase generation with
  | .unauthenticated => feed.frames generation = []
  | .authenticating afterSequence =>
      feed.frames generation = [] ∧ afterSequence = feed.client.lastSequence
  | .serving | .finished =>
      InOrder settings.stream.sessionId feed.client.lastSequence (feed.frames generation)
        (feed.server.reader generation).cursor

/-- What the application has against what was issued. -/
structure Hydrated (issued : List (BackendEventEnvelope π)) (client : BackendUiAdapter π ι) :
    Prop where
  base_le : client.facade.base ≤ client.lastSequence
  last_le : client.lastSequence ≤ issued.length
  broken : client.facade.broken = true → client.webSocket = none
  seen : ∀ eventId ∈ client.seenEventIds, ∃ event ∈ issued,
    event.sequence ≤ client.lastSequence ∧ event.eventId = eventId
  applied : (issued.map (·.eventId)).Nodup → client.facade.broken = false →
    client.facade.applied = (issued.take client.lastSequence).drop client.facade.base

/-- The feed against the events issued so far. -/
structure Sound (settings : FeedSettings π ι) (feed : LiveFeed π ι) : Prop where
  server : feed.server.Sound
  session : ∀ event ∈ feed.server.issued, event.sessionId = settings.stream.sessionId
  issued : ∀ generation event, .event event ∈ feed.frames generation →
    event ∈ feed.server.issued
  settled : feed.client.Settled
  active : feed.client.activeSessionId = settings.stream.sessionId
  hydrated : Hydrated feed.server.issued feed.client
  answers : ∀ generation, ∀ snapshot ∈ feed.answers generation,
    snapshot.sessionId = settings.stream.sessionId ∧
      snapshot.lastSequence ≤ feed.server.issued.length
  unused : ∀ generation, feed.client.connectionGeneration < generation →
    feed.phase generation = .unauthenticated ∧ feed.frames generation = []
  channel : ∀ generation, feed.client.webSocket = some generation → feed.Channel settings generation

variable {settings : FeedSettings π ι} {feed : LiveFeed π ι}
  {issued : List (BackendEventEnvelope π)} {client after : BackendUiAdapter π ι}

theorem Hydrated.quiet (h : Hydrated issued client) (hquiet : Quiet client after) :
    Hydrated issued after where
  base_le := by rw [hquiet.facade, hquiet.lastSequence]; exact h.base_le
  last_le := by rw [hquiet.lastSequence]; exact h.last_le
  broken hbroken := by
    rw [hquiet.facade] at hbroken
    rcases hquiet.socket with hnone | hsame
    · exact hnone
    · rw [hsame]
      exact h.broken hbroken
  seen eventId hseen := by
    rw [hquiet.lastSequence]
    exact h.seen eventId (hquiet.seen eventId hseen)
  applied hids hbroken := by
    rw [hquiet.facade] at hbroken ⊢
    rw [hquiet.lastSequence]
    exact h.applied hids hbroken

theorem Hydrated.append (h : Hydrated issued client) (fresh : List (BackendEventEnvelope π)) :
    Hydrated (issued ++ fresh) client where
  base_le := h.base_le
  last_le := by
    rw [List.length_append]
    exact h.last_le.trans (Nat.le_add_right _ _)
  broken := h.broken
  seen eventId hseen := by
    obtain ⟨event, hevent, hsequence⟩ := h.seen eventId hseen
    exact ⟨event, List.mem_append_left _ hevent, hsequence⟩
  applied hids hbroken := by
    rw [List.take_append_of_le_length h.last_le]
    rw [List.map_append] at hids
    exact h.applied (List.nodup_append.mp hids).1 hbroken

/-- An issued event is where its number says. -/
theorem eq_of_sequence (hissued : Consecutive 1 issued) {first second : BackendEventEnvelope π}
    (hfirst : first ∈ issued) (hsecond : second ∈ issued)
    (hsequence : first.sequence = second.sequence) : first = second := by
  have hnodup : (issued.map (·.sequence)).Nodup := by
    rw [hissued]
    exact List.nodup_range'
  exact List.inj_on_of_nodup_map hnodup hfirst hsecond hsequence

theorem take_succ_of_sequence (hissued : Consecutive 1 issued) {event : BackendEventEnvelope π}
    {last : ℕ} (hevent : event ∈ issued) (hsequence : event.sequence = last + 1) :
    issued.take (last + 1) = issued.take last ++ [event] := by
  have hlast : last < issued.length := by
    have := (hissued.mem hevent).2
    omega
  have hnumber : issued[last].sequence = last + 1 := by
    have hget : (issued.map (·.sequence))[last]? = (List.range' 1 issued.length)[last]? := by
      rw [hissued]
    simpa [hlast, Nat.add_comm] using hget
  rw [List.take_succ_eq_append_getElem hlast,
    eq_of_sequence hissued (List.getElem_mem hlast) hevent (hnumber.trans hsequence.symm)]

/-- The next event, applied. -/
theorem Hydrated.applyEvent (h : Hydrated issued client) (hissued : Consecutive 1 issued)
    {event : BackendEventEnvelope π} (hevent : event ∈ issued)
    (hsequence : event.sequence = client.lastSequence + 1) (command : CommandState)
    (intents : List (List (UiApplicationIntent ι))) :
    Hydrated issued
      ({ client with
          command
          facade := { client.facade with applied := client.facade.applied ++ [event], intents }
          lastSequence := event.sequence }.rememberEventId event.eventId) := by
  obtain ⟨seen, order, heq, hseen⟩ := BackendUiAdapter.rememberEventId_eq
    { client with
      command
      facade := { client.facade with applied := client.facade.applied ++ [event], intents }
      lastSequence := event.sequence } event.eventId
  rw [heq]
  have hlast := (hissued.mem hevent).2
  have hbase := h.base_le
  refine ⟨?_, ?_, h.broken, ?_, ?_⟩
  · show client.facade.base ≤ event.sequence
    omega
  · show event.sequence ≤ issued.length
    omega
  · intro eventId hmem
    rcases hseen eventId hmem with hold | hnew
    · obtain ⟨other, hother, hle, hid⟩ := h.seen eventId hold
      refine ⟨other, hother, ?_, hid⟩
      show other.sequence ≤ event.sequence
      omega
    · exact ⟨event, hevent, le_rfl, hnew.symm⟩
  · intro hids hbroken
    show client.facade.applied ++ [event] =
      (issued.take event.sequence).drop client.facade.base
    rw [h.applied hids hbroken, hsequence, take_succ_of_sequence hissued hevent hsequence,
      List.drop_append_of_le_length]
    rw [List.length_take]
    exact le_min hbase (hbase.trans h.last_le)

/-- The next event, taken for known: no two events of a session have one ID. -/
theorem Hydrated.skipEvent (h : Hydrated issued client) (hissued : Consecutive 1 issued)
    {event : BackendEventEnvelope π} (hevent : event ∈ issued)
    (hsequence : event.sequence = client.lastSequence + 1)
    (hknown : event.eventId ∈ client.seenEventIds) :
    Hydrated issued { client with lastSequence := event.sequence } := by
  have hlast := (hissued.mem hevent).2
  have hbase := h.base_le
  refine ⟨?_, ?_, h.broken, ?_, ?_⟩
  · show client.facade.base ≤ event.sequence
    omega
  · show event.sequence ≤ issued.length
    omega
  · intro eventId hmem
    obtain ⟨other, hother, hle, hid⟩ := h.seen eventId hmem
    refine ⟨other, hother, ?_, hid⟩
    show other.sequence ≤ event.sequence
    omega
  · intro hids
    obtain ⟨other, hother, hle, hid⟩ := h.seen event.eventId hknown
    have hsame : other = event := List.inj_on_of_nodup_map hids hother hevent hid
    rw [hsame] at hle
    omega

/-! ## Steps -/

/-- A callback that the application does not notice keeps the feed sound. -/
theorem Sound.quiet (h : feed.Sound settings) (hsettled : after.Settled)
    (hquiet : Quiet feed.client after) : Sound settings { feed with client := after } where
  server := h.server
  session := h.session
  issued := h.issued
  settled := hsettled
  active := hquiet.activeSessionId.trans h.active
  hydrated := h.hydrated.quiet hquiet
  answers := h.answers
  unused generation hlt := h.unused generation (hquiet.generation.trans_lt hlt)
  channel generation hsocket := by
    have hbefore : feed.client.webSocket = some generation := by
      rcases hquiet.socket with hnone | hsame
      · have : after.webSocket = some generation := hsocket
        rw [hnone] at this
        cases this
      · rw [← hsame]
        exact hsocket
    have hchannel := h.channel generation hbefore
    unfold Channel at hchannel ⊢
    rw [hquiet.lastSequence]
    exact hchannel

/-- Every event issued up to the next step is of the session. -/
theorem Sound.session_step (h : feed.Sound settings) (step : StreamStep ℕ π) :
    ∀ event ∈ (feed.server.step settings.stream step).issued,
      event.sessionId = settings.stream.sessionId := by
  obtain ⟨fresh, hfresh, hsession⟩ := feed.server.step_issued settings.stream step
  intro event hevent
  rw [hfresh] at hevent
  rcases List.mem_append.mp hevent with hold | hnew
  · exact h.session event hold
  · exact hsession event hnew

/-- A writer's critical section keeps the feed sound. -/
theorem Sound.writer (h : feed.Sound settings) (write : StreamStep ℕ π)
    (hwriter : write.reader? = none) :
    Sound settings { feed with server := feed.server.step settings.stream write } := by
  obtain ⟨fresh, hfresh, -⟩ := feed.server.step_issued settings.stream write
  have hreader : ∀ generation, (feed.server.step settings.stream write).reader generation =
      feed.server.reader generation := fun generation =>
    feed.server.step_reader_other write (by rw [hwriter]; simp)
  constructor
  case server => exact h.server.step write
  case session => exact h.session_step write
  case issued =>
    intro generation event hevent
    rw [hfresh]
    exact List.mem_append_left _ (h.issued generation event hevent)
  case settled => exact h.settled
  case active => exact h.active
  case hydrated =>
    rw [hfresh]
    exact h.hydrated.append fresh
  case answers =>
    intro generation snapshot hanswer
    obtain ⟨hid, hle⟩ := h.answers generation snapshot hanswer
    rw [hfresh, List.length_append]
    exact ⟨hid, hle.trans (Nat.le_add_right _ _)⟩
  case unused => exact h.unused
  case channel =>
    intro generation hsocket
    have hchannel := h.channel generation hsocket
    unfold Channel at hchannel ⊢
    rw [hreader]
    exact hchannel

/-- What one step sends to a reader was issued, and continues what was sent before. -/
theorem Sound.sent_inOrder (h : feed.Sound settings) {wait : StreamStep ℕ π} {generation : ℕ}
    {sent : List (BackendEventEnvelope π)}
    (hsent : (feed.server.reader generation).received ++ sent =
      ((feed.server.step settings.stream wait).reader generation).received)
    (hstart : ((feed.server.step settings.stream wait).reader generation).start =
      (feed.server.reader generation).start) :
    (∀ event ∈ sent, event ∈ (feed.server.step settings.stream wait).issued) ∧
      InOrder settings.stream.sessionId (feed.server.reader generation).cursor
        (sent.map .event) ((feed.server.step settings.stream wait).reader generation).cursor := by
  have hserver : (feed.server.step settings.stream wait).Sound := h.server.step wait
  have hserved := hserver.served generation
  have hbefore := h.server.served generation
  have hissued : ∀ event ∈ sent, event ∈ (feed.server.step settings.stream wait).issued := by
    intro event hevent
    have hreceived := hserved.subset (hsent ▸ List.mem_append_right _ hevent)
    exact List.mem_of_mem_drop hreceived
  refine ⟨hissued, ?_⟩
  have hconsecutive := hserved.consecutive hserver.faithful.consecutive
  rw [← hsent, hstart, consecutive_append] at hconsecutive
  have hcursor : ((feed.server.step settings.stream wait).reader generation).cursor =
      (feed.server.reader generation).cursor + sent.length := by
    rw [hserved.cursor_eq hserver.faithful.consecutive,
      hbefore.cursor_eq h.server.faithful.consecutive, hstart, ← hsent, List.length_append]
    omega
  rw [hcursor]
  refine InOrder.events ?_ fun event hevent => h.session_step wait event (hissued event hevent)
  rw [hbefore.cursor_eq h.server.faithful.consecutive]
  have hnext := hconsecutive.2
  rwa [show (feed.server.reader generation).start + 1 +
      (feed.server.reader generation).received.length =
    (feed.server.reader generation).start +
      (feed.server.reader generation).received.length + 1 by omega] at hnext

/-- The round of a connection keeps the feed sound: what it sends continues what it sent. -/
theorem Sound.serve (h : feed.Sound settings) (generation : ℕ) (wait : StreamStep ℕ π)
    (hwait : wait.reader? = some generation) :
    (feed.serve settings generation wait).Sound settings := by
  unfold LiveFeed.serve
  split
  swap
  · exact h
  rename_i hserving
  obtain ⟨fresh, hfresh, -⟩ := feed.server.step_issued settings.stream wait
  obtain ⟨hstart, sent, hsent⟩ :=
    feed.server.step_reader settings.stream wait generation
  have hserver : (feed.server.step settings.stream wait).Sound := h.server.step wait
  have hother : ∀ other, other ≠ generation →
      (feed.server.step settings.stream wait).reader other = feed.server.reader other :=
    fun other hne => feed.server.step_reader_other wait (by rw [hwait]; simpa using hne.symm)
  dsimp only
  rw [← hsent, List.drop_left]
  obtain ⟨hissued, hevents⟩ := h.sent_inOrder hsent hstart
  have hcontrol : ∀ resync : Option ResyncReason, InOrder settings.stream.sessionId
      ((feed.server.step settings.stream wait).reader generation).cursor
      (resync.toList.map fun reason =>
        (.resyncRequired settings.stream.sessionId reason.text : WebSocketMessage π))
      ((feed.server.step settings.stream wait).reader generation).cursor := by
    rintro (_ | reason)
    · rfl
    · exact ⟨rfl, rfl⟩
  constructor
  case server => exact hserver
  case session => exact h.session_step wait
  case issued =>
    intro other event hevent
    by_cases hsame : other = generation
    · subst hsame
      simp only [Function.update_self, List.mem_append, List.mem_map, reduceCtorEq, and_false,
        exists_false, or_false, WebSocketMessage.event.injEq, exists_eq_right] at hevent
      rcases hevent with hold | hnew
      · rw [hfresh]
        exact List.mem_append_left _ (h.issued other event hold)
      · exact hissued event hnew
    · simp only [Function.update_of_ne hsame] at hevent
      rw [hfresh]
      exact List.mem_append_left _ (h.issued other event hevent)
  case settled => exact h.settled
  case active => exact h.active
  case hydrated =>
    rw [hfresh]
    exact h.hydrated.append fresh
  case answers =>
    intro other snapshot hanswer
    obtain ⟨hid, hle⟩ := h.answers other snapshot hanswer
    rw [hfresh, List.length_append]
    exact ⟨hid, hle.trans (Nat.le_add_right _ _)⟩
  case unused =>
    intro other hlt
    have hne : other ≠ generation := by
      rintro rfl
      have := (h.unused other hlt).1
      rw [hserving] at this
      cases this
    simp only [Function.update_of_ne hne]
    exact h.unused other hlt
  case channel =>
    intro other hsocket
    have hchannel := h.channel other hsocket
    by_cases hsame : other = generation
    · subst hsame
      unfold Channel at hchannel ⊢
      rw [hserving] at hchannel
      simp only [Function.update_self]
      have horder := hchannel.append (hevents.append (hcontrol
        ((feed.server.step settings.stream wait).reader other).resync))
      cases hresync : ((feed.server.step settings.stream wait).reader other).resync with
      | none =>
          rw [hresync] at horder
          exact horder
      | some reason =>
          rw [hresync] at horder
          exact horder
    · unfold Channel at hchannel ⊢
      simp only [Function.update_of_ne hsame, hother other hsame]
      exact hchannel

/-- The frames on the open connection are in order after the cursor. -/
theorem Sound.inOrder (h : feed.Sound settings) {generation : ℕ}
    (hsocket : feed.client.webSocket = some generation) {message : WebSocketMessage π}
    {frames : List (WebSocketMessage π)} (hframes : feed.frames generation = message :: frames) :
    InOrder settings.stream.sessionId feed.client.lastSequence (message :: frames)
        (feed.server.reader generation).cursor ∧
      (feed.phase generation = .serving ∨ feed.phase generation = .finished) := by
  have hchannel := h.channel generation hsocket
  unfold Channel at hchannel
  rw [hframes] at hchannel
  cases hphase : feed.phase generation with
  | unauthenticated => simp [hphase] at hchannel
  | authenticating afterSequence => simp [hphase] at hchannel
  | serving => exact ⟨by simpa [hphase] using hchannel, .inl rfl⟩
  | finished => exact ⟨by simpa [hphase] using hchannel, .inr rfl⟩

/-- A frame of the open connection is handled. -/
theorem Sound.react_onMessage (h : feed.Sound settings) {generation : ℕ}
    (hsocket : feed.client.webSocket = some generation) (frame : ReceivedFrame π) :
    feed.client.react settings.adapter (.onMessage generation frame) =
      feed.client.handleEventFrame settings.adapter frame := by
  have hgeneration := h.settled.socket generation hsocket
  obtain ⟨hrunning, -, -, hresync, -⟩ := h.settled.alone hsocket
  simp [BackendUiAdapter.react, BackendUiAdapter.isCurrentGeneration, hrunning, hresync,
    hsocket, hgeneration]

/-- What is still on its way without the first frame of a connection was issued. -/
theorem Sound.issued_update (h : feed.Sound settings) {generation : ℕ}
    {message : WebSocketMessage π} {frames : List (WebSocketMessage π)}
    (hframes : feed.frames generation = message :: frames) (other : ℕ)
    (event : BackendEventEnvelope π)
    (hevent : .event event ∈ Function.update feed.frames generation frames other) :
    event ∈ feed.server.issued := by
  by_cases hsame : other = generation
  · subst hsame
    rw [Function.update_self] at hevent
    exact h.issued other event (hframes ▸ List.mem_cons_of_mem _ hevent)
  · rw [Function.update_of_ne hsame] at hevent
    exact h.issued other event hevent

/-- A connection with a frame on its way has been opened; those to come have none. -/
theorem Sound.unused_update (h : feed.Sound settings) {generation : ℕ}
    {message : WebSocketMessage π} {frames : List (WebSocketMessage π)}
    (hframes : feed.frames generation = message :: frames) (other : ℕ)
    (hlt : feed.client.connectionGeneration < other) :
    feed.phase other = .unauthenticated ∧
      Function.update feed.frames generation frames other = [] := by
  have hne : other ≠ generation := by
    rintro rfl
    rw [(h.unused other hlt).2] at hframes
    cases hframes
  rw [Function.update_of_ne hne]
  exact h.unused other hlt

/-- A frame of another socket is not looked at. -/
theorem Sound.deliver_stale (h : feed.Sound settings) {generation : ℕ}
    {message : WebSocketMessage π} {frames : List (WebSocketMessage π)}
    (hframes : feed.frames generation = message :: frames)
    (hsocket : feed.client.webSocket ≠ some generation) (frame : ReceivedFrame π) :
    Sound settings { feed with
      client := feed.client.react settings.adapter (.onMessage generation frame)
      frames := Function.update feed.frames generation frames } := by
  have hcurrent : feed.client.isCurrentGeneration generation = false := by
    simp [BackendUiAdapter.isCurrentGeneration, hsocket]
  have hsame : feed.client.react settings.adapter (.onMessage generation frame) = feed.client := by
    simp [BackendUiAdapter.react, hcurrent]
  rw [hsame]
  refine ⟨h.server, h.session, h.issued_update hframes, h.settled, h.active, h.hydrated,
    h.answers, h.unused_update hframes, fun other hother => ?_⟩
  have hne : other ≠ generation := by
    rintro rfl
    exact hsocket hother
  have hchannel := h.channel other hother
  unfold Channel at hchannel ⊢
  simp only [Function.update_of_ne hne]
  exact hchannel

/-- A delivery keeps the feed sound: a frame of the adapter's own socket is the next one. -/
theorem Sound.deliver (h : feed.Sound settings) (generation : ℕ) (now : ℚ)
    (applyRaises readyRaises : Bool) :
    (feed.step settings (.deliver generation now applyRaises readyRaises)).Sound settings := by
  unfold LiveFeed.step
  dsimp only
  cases hframes : feed.frames generation with
  | nil => exact h
  | cons message frames =>
  dsimp only
  generalize hframe : ({ message := .ok message, now, applyRaises, readyRaises } :
    ReceivedFrame π) = frame
  have hok : frame.message = .ok message := by rw [← hframe]
  -- the feed without the frame
  have hissued := h.issued_update hframes
  have hunused := h.unused_update hframes
  have hsettled : (feed.client.react settings.adapter (.onMessage generation frame)).Settled :=
    h.settled.react _
  by_cases hsocket : feed.client.webSocket = some generation
  swap
  · exact h.deliver_stale hframes hsocket frame
  rw [h.react_onMessage hsocket] at hsettled ⊢
  obtain ⟨horder, hphase⟩ := h.inOrder hsocket hframes
  -- the socket stays this one, and what is left is in order after the cursor
  have hchannel : ∀ client : BackendUiAdapter π ι,
      client.webSocket = none ∨ client.webSocket = feed.client.webSocket →
      InOrder settings.stream.sessionId client.lastSequence frames
        (feed.server.reader generation).cursor →
      ∀ other, client.webSocket = some other → Channel settings
        { feed with client, frames := Function.update feed.frames generation frames } other := by
    intro client hclient hrest other hother
    rcases hclient with hnone | hsame
    · rw [hnone] at hother
      cases hother
    · have heq : other = generation := by
        rw [hsame, hsocket] at hother
        exact (Option.some.inj hother).symm
      subst heq
      unfold Channel
      simp only [Function.update_self]
      rcases hphase with hphase | hphase
      · rw [hphase]
        exact hrest
      · rw [hphase]
        exact hrest
  have hclosed : ∀ client : BackendUiAdapter π ι, client.webSocket = none →
      ∀ other, client.webSocket = some other → Channel settings
        { feed with client, frames := Function.update feed.frames generation frames } other := by
    intro client hnone other hother
    rw [hnone] at hother
    cases hother
  have hconsecutive := h.server.faithful.consecutive
  have hdelivered := handleEventFrame_inOrder settings.adapter h.settled hsocket
    (h.active ▸ horder) hok
  generalize feed.client.handleEventFrame settings.adapter frame = after at hsettled hdelivered ⊢
  cases hdelivered with
  | quiet hquiet hafter =>
      refine ⟨h.server, h.session, hissued, hsettled, hquiet.activeSessionId.trans h.active,
        h.hydrated.quiet hquiet, h.answers,
        fun other hlt => hunused other (hquiet.generation.trans_lt hlt), ?_⟩
      rcases hafter with hnone | ⟨session, number, rfl⟩
      · exact hclosed after hnone
      · refine hchannel after hquiet.socket ?_
        rw [hquiet.lastSequence]
        exact horder.2.2
  | @known event hseen hafter =>
      subst hafter
      obtain ⟨hsequence, -, hrest⟩ := horder
      have hevent := h.issued generation event (hframes ▸ List.mem_cons_self)
      exact ⟨h.server, h.session, hissued, hsettled, h.active,
        h.hydrated.skipEvent hconsecutive hevent hsequence hseen, h.answers, hunused,
        hchannel _ (.inr rfl) (hsequence ▸ hrest)⟩
  | broken hnone command hafter =>
      refine ⟨h.server, h.session, hissued, hsettled, hafter.activeSessionId.trans h.active, ?_,
        h.answers, fun other hlt => hunused other (hafter.generation.trans_lt hlt),
        hclosed after hnone⟩
      refine ⟨?_, ?_, fun _ => hnone, fun eventId hseen => ?_, fun _ hwhole => ?_⟩
      · rw [hafter.facade, hafter.lastSequence]
        exact h.hydrated.base_le
      · rw [hafter.lastSequence]
        exact h.hydrated.last_le
      · rw [hafter.lastSequence]
        exact h.hydrated.seen eventId (hafter.seen eventId hseen)
      · rw [hafter.facade] at hwhole
        cases hwhole
  | @applied event hfresh command applicable hafter =>
      obtain ⟨hsequence, -, hrest⟩ := horder
      have hevent := h.issued generation event (hframes ▸ List.mem_cons_self)
      have hhydrated := (h.hydrated.applyEvent hconsecutive hevent hsequence command
        (feed.client.facade.intents ++ [applicable])).quiet hafter
      obtain ⟨seen, order, heq, -⟩ := BackendUiAdapter.rememberEventId_eq
        { feed.client with
          command
          facade :=
            { feed.client.facade with
              applied := feed.client.facade.applied ++ [event]
              intents := feed.client.facade.intents ++ [applicable] }
          lastSequence := event.sequence } event.eventId
      rw [heq] at hafter
      refine ⟨h.server, h.session, hissued, hsettled, hafter.activeSessionId.trans h.active,
        hhydrated, h.answers, fun other hlt => hunused other (hafter.generation.trans_lt hlt),
        hchannel after hafter.socket ?_⟩
      rw [hafter.lastSequence]
      exact hsequence ▸ hrest

/-- A connection is opened after the adapter's content was replaced: nothing of an earlier
connection is on its way on it. -/
theorem Sound.opens (h : feed.Sound settings) {client : BackendUiAdapter π ι} (created : Bool)
    (hhydrated : Hydrated feed.server.issued client)
    (hactive : client.activeSessionId = settings.stream.sessionId)
    (hgeneration : client.connectionGeneration = feed.client.connectionGeneration)
    (hsocket : client.webSocket = none) (hbroken : client.facade.broken = false)
    (hsettled : (client.openEventStream created).Settled) :
    Sound settings { feed with client := client.openEventStream created } := by
  have hcases : (Quiet client (client.openEventStream created) ∧
        (client.openEventStream created).webSocket = none) ∨
      client.openEventStream created =
        { client with
          connectionGeneration := client.connectionGeneration + 1
          webSocket := some (client.connectionGeneration + 1) } := by
    have hopening : Quiet client
        { client with connectionGeneration := client.connectionGeneration + 1 } :=
      ⟨rfl, rfl, rfl, Nat.le_succ _, fun _ h => h, .inr rfl⟩
    unfold BackendUiAdapter.openEventStream
    split
    · exact .inl ⟨Quiet.refl client, hsocket⟩
    dsimp only
    split
    · exact .inr rfl
    · refine .inl ⟨hopening.trans (Quiet.handleConnectionFailure _), ?_⟩
      have hfailed : Quiet
          { client with connectionGeneration := client.connectionGeneration + 1 } _ :=
        Quiet.handleConnectionFailure
          { code := "EVENT_STREAM_CONNECTION_FAILED", retryable := true }
      rcases hfailed.socket with hnone | hsame
      · exact hnone
      · rw [hsame]
        exact hsocket
  rcases hcases with ⟨hquiet, hnone⟩ | hopened
  · refine ⟨h.server, h.session, h.issued, hsettled, hquiet.activeSessionId.trans hactive,
      hhydrated.quiet hquiet, h.answers, fun other hlt => ?_, fun other hother => ?_⟩
    · exact h.unused other (hgeneration ▸ hquiet.generation.trans_lt hlt)
    · rw [hnone] at hother
      cases hother
  · rw [hopened] at hsettled ⊢
    refine ⟨h.server, h.session, h.issued, hsettled, hactive,
      ⟨hhydrated.base_le, hhydrated.last_le, fun hfalse => ?_, hhydrated.seen, hhydrated.applied⟩,
      h.answers, fun other hlt => ?_, fun other hother => ?_⟩
    · have : client.facade.broken = true := hfalse
      rw [hbroken] at this
      cases this
    · have hlt : client.connectionGeneration + 1 < other := hlt
      exact h.unused other (by omega)
    · have hfresh := h.unused other (by cases hother; omega)
      unfold Channel
      simp only [hfresh.1, hfresh.2]

/-- An answer to a snapshot request keeps the feed sound. -/
theorem Sound.snapshotArrives (h : feed.Sound settings) (generation : ℕ)
    (publishRaises created : Bool) :
    (feed.step settings (.snapshotArrives generation publishRaises created)).Sound settings := by
  unfold LiveFeed.step
  dsimp only
  cases hanswer : feed.answers generation with
  | none => exact h
  | some snapshot =>
  obtain ⟨hsession, hle⟩ := h.answers generation snapshot hanswer
  have hsettled : (feed.client.react settings.adapter
      (.snapshotAnswered generation (.ok snapshot) publishRaises created)).Settled :=
    h.settled.react _
  dsimp only
  unfold BackendUiAdapter.react at hsettled ⊢
  dsimp only at hsettled ⊢
  unfold BackendUiAdapter.snapshotAnswered at hsettled ⊢
  by_cases hdropped : (feed.client.isStopped || feed.client.resyncAbort != some generation ||
      generation != feed.client.connectionGeneration) = true
  · rw [if_pos hdropped]
    exact h
  rw [if_neg hdropped] at hsettled ⊢
  have habort : feed.client.resyncAbort = some generation := by
    simp only [Bool.or_eq_true, bne_iff_ne, not_or, not_not] at hdropped
    exact hdropped.1.2
  -- the adapter waits for the snapshot alone
  have hseen := (h.settled.request generation habort).2
  have hsocket : feed.client.webSocket = none := by
    cases hsocket : feed.client.webSocket with
    | none => rfl
    | some other =>
        have := (h.settled.alone hsocket).2.2.2.2
        rw [habort] at this
        cases this
  have hsame : ¬ snapshot.sessionId ≠ settings.adapter.sessionId := by
    rw [settings.sameSession]
    exact not_not.mpr hsession
  dsimp only at hsettled ⊢
  rw [if_neg hsame] at hsettled ⊢
  by_cases hraises : publishRaises = true
  · rw [if_pos hraises] at hsettled ⊢
    generalize hclient : ({ feed.client.synchronizeCommandState snapshot with
      facade := { feed.client.facade with broken := true }
      isResynchronizing := false
      resyncAbort := none } : BackendUiAdapter π ι) = client at hsettled ⊢
    have hquiet : Quiet client client.recoverPublication := Quiet.recoverPublication
    refine ⟨h.server, h.session, h.issued, hsettled, ?_, Hydrated.quiet ?_ hquiet, h.answers,
      fun other hlt => ?_, fun other hother => ?_⟩
    · rw [hquiet.activeSessionId, ← hclient]
      exact h.active
    · rw [← hclient]
      refine ⟨h.hydrated.base_le, h.hydrated.last_le, fun _ => hsocket, ?_, fun _ hwhole => ?_⟩
      · intro eventId hmem
        have : eventId ∈ feed.client.seenEventIds := hmem
        rw [hseen] at this
        cases this
      · cases hwhole
    · refine h.unused other ?_
      have hlt := hquiet.generation.trans_lt hlt
      rw [← hclient] at hlt
      exact hlt
    · have hnone : client.recoverPublication.webSocket = none := by
        rcases hquiet.socket with hnone | hkept
        · exact hnone
        · rw [hkept, ← hclient]
          exact hsocket
      rw [hnone] at hother
      cases hother
  · rw [if_neg hraises] at hsettled ⊢
    refine h.opens created ?_ hsession rfl hsocket rfl hsettled
    refine ⟨le_rfl, hle, (fun hfalse => by cases hfalse), ?_, fun _ _ => ?_⟩
    · intro eventId hmem
      have : eventId ∈ feed.client.seenEventIds := hmem
      rw [hseen] at this
      cases this
    · show [] = (feed.server.issued.take snapshot.lastSequence).drop snapshot.lastSequence
      rw [List.drop_eq_nil_of_le]
      exact List.length_take_le _ _

/-- A phase that fits what is on its way on the connection keeps the feed sound. -/
theorem Sound.step (h : feed.Sound settings) (step : FeedStep π) :
    (feed.step settings step).Sound settings := by
  cases step with
  | publish call => exact h.writer (.publish call) rfl
  | publishMany call => exact h.writer (.publishMany call) rfl
  | close => exact h.writer .close rfl
  | beginWait generation currentTime => exact h.serve generation _ rfl
  | endWait generation currentTime => exact h.serve generation _ rfl
  | deliver generation now applyRaises readyRaises => exact h.deliver generation now _ _
  | snapshotArrives generation publishRaises created => exact h.snapshotArrives generation _ _
  | client input =>
      unfold LiveFeed.step
      dsimp only
      split
      · exact h.quiet (h.settled.react input) (Quiet.react settings.adapter feed.client ‹_›)
      · exact h
  | opened generation =>
      unfold LiveFeed.step
      dsimp only
      split
      swap
      · exact h
      rename_i hopened
      obtain ⟨hphase, hcurrent, -⟩ := hopened
      have hgeneration : generation = feed.client.connectionGeneration := by
        simp only [BackendUiAdapter.isCurrentGeneration, Bool.and_eq_true, beq_iff_eq] at hcurrent
        exact hcurrent.1.2
      refine ⟨h.server, h.session, h.issued, h.settled, h.active, h.hydrated, h.answers,
        fun other hlt => ?_, fun other hother => ?_⟩
      · have hne : other ≠ generation := by
          rintro rfl
          exact absurd (hgeneration ▸ hlt) (lt_irrefl _)
        simp only [Function.update_of_ne hne]
        exact h.unused other hlt
      · have hchannel := h.channel other hother
        by_cases hsame : other = generation
        · subst hsame
          unfold Channel at hchannel ⊢
          rw [hphase] at hchannel
          simp only [Function.update_self]
          exact ⟨hchannel, trivial⟩
        · unfold Channel at hchannel ⊢
          simp only [Function.update_of_ne hsame]
          exact hchannel
  | authenticate generation =>
      unfold LiveFeed.step
      dsimp only
      split
      swap
      · exact h
      rename_i afterSequence hphase
      refine ⟨?_, h.session, h.issued, h.settled, h.active, h.hydrated, h.answers,
        fun other hlt => ?_, fun other hother => ?_⟩
      · show ({ feed.server with stream := feed.server.stream }.withReader generation _).Sound
        exact h.server.withReader h.server.faithful List.nil_prefix
      · have hne : other ≠ generation := by
          rintro rfl
          rw [(h.unused other hlt).1] at hphase
          cases hphase
        simp only [Function.update_of_ne hne]
        exact h.unused other hlt
      · have hchannel := h.channel other hother
        by_cases hsame : other = generation
        · subst hsame
          unfold Channel at hchannel ⊢
          rw [hphase] at hchannel
          simp only [Function.update_self, StreamSystem.withReader, hchannel.1]
          exact hchannel.2.symm
        · unfold Channel at hchannel ⊢
          simp only [Function.update_of_ne hsame, StreamSystem.withReader]
          exact hchannel
  | heartbeat generation =>
      unfold LiveFeed.step
      dsimp only
      split
      swap
      · exact h
      rename_i hserving
      refine ⟨h.server, h.session, fun other event hevent => ?_, h.settled, h.active, h.hydrated,
        h.answers, fun other hlt => ?_, fun other hother => ?_⟩
      · by_cases hsame : other = generation
        · subst hsame
          simp only [Function.update_self, List.mem_append, List.mem_singleton, reduceCtorEq,
            or_false] at hevent
          exact h.issued other event hevent
        · simp only [Function.update_of_ne hsame] at hevent
          exact h.issued other event hevent
      · have hne : other ≠ generation := by
          rintro rfl
          rw [(h.unused other hlt).1] at hserving
          cases hserving
        simp only [Function.update_of_ne hne]
        exact h.unused other hlt
      · have hchannel := h.channel other hother
        by_cases hsame : other = generation
        · subst hsame
          unfold Channel at hchannel ⊢
          simp only [hserving, Function.update_self] at hchannel ⊢
          exact hchannel.append ⟨rfl, rfl, rfl⟩
        · unfold Channel at hchannel ⊢
          simp only [Function.update_of_ne hsame]
          exact hchannel
  | getSnapshot generation selected trading =>
      refine ⟨h.server, h.session, h.issued, h.settled, h.active, h.hydrated,
        fun other snapshot hanswer => ?_, h.unused, h.channel⟩
      by_cases hsame : other = generation
      · subst hsame
        simp only [LiveFeed.step, Function.update_self, Option.mem_def, Option.some.injEq]
          at hanswer
        rw [← hanswer]
        exact ⟨rfl, h.server.faithful.lastSequence.le⟩
      · simp only [LiveFeed.step, Function.update_of_ne hsame] at hanswer
        exact h.answers other snapshot hanswer

/-! ## The law -/

variable (settings) in
/-- Everything issued by any sequence of critical sections is of the session. -/
theorem run_sessionId (before : List (StreamStep ℕ π)) :
    ∀ event ∈ (StreamSystem.run settings.stream (fun _ => 0) before).issued,
      event.sessionId = settings.stream.sessionId := by
  suffices hfold : ∀ system : StreamSystem ℕ π,
      (∀ event ∈ system.issued, event.sessionId = settings.stream.sessionId) →
      ∀ event ∈ (before.foldl (StreamSystem.step settings.stream) system).issued,
        event.sessionId = settings.stream.sessionId from
    hfold _ (by simp)
  induction before with
  | nil => exact fun _ h => h
  | cons step before ih =>
      refine fun system h => ih _ fun event hevent => ?_
      obtain ⟨fresh, hfresh, hsession⟩ := system.step_issued settings.stream step
      rw [hfresh] at hevent
      rcases List.mem_append.mp hevent with hold | hnew
      · exact h event hold
      · exact hsession event hnew

variable (settings) in
theorem sound_start (before : List (StreamStep ℕ π)) (selected : Option RegimeType)
    (trading : TradingSession) (created : Bool) :
    (start settings before selected trading created).Sound settings := by
  have hserver := StreamSystem.sound_run settings.stream (fun _ : ℕ => 0) before
  let client : BackendUiAdapter π ι :=
    { activeSessionId := settings.stream.sessionId
      lastSequence := (StreamSystem.run settings.stream (fun _ : ℕ => 0) before).stream.lastSequence
      command :=
        { tradingVersion := trading.version
          tradingStatus := trading.status
          hasOpenPosition := trading.hasOpenPosition
          selectedRegime := selected
          scaleInRatio := trading.scaleIn
          scaleOutRatio := trading.scaleOut }
      facade :=
        { base :=
            (StreamSystem.run settings.stream (fun _ : ℕ => 0) before).stream.lastSequence } }
  have hlast : client.lastSequence =
      (StreamSystem.run settings.stream (fun _ : ℕ => 0) before).issued.length :=
    hserver.faithful.lastSequence
  have hconsistent : client.Consistent :=
    ⟨BackendUiAdapter.Tracked.nil rfl rfl, rfl, rfl, rfl, fun _ => rfl⟩
  have hhydrated : Hydrated
      (StreamSystem.run settings.stream (fun _ : ℕ => 0) before).issued client := by
    refine ⟨le_rfl, hlast.le, (fun hfalse => by cases hfalse),
      (fun eventId hseen => absurd hseen List.not_mem_nil), fun _ _ => ?_⟩
    show [] = List.drop client.lastSequence (List.take client.lastSequence _)
    rw [List.drop_eq_nil_of_le]
    exact List.length_take_le _ _
  -- the adapter before its first socket is stopped, and has nothing on its way
  have hidle : Sound settings
      { server := StreamSystem.run settings.stream (fun _ : ℕ => 0) before
        client := { client with isStopped := true, hasToken := false } } :=
    ⟨hserver, run_sessionId settings before,
      (fun _ _ hevent => absurd hevent List.not_mem_nil),
      BackendUiAdapter.Consistent.settled
        ⟨BackendUiAdapter.Tracked.nil rfl rfl, rfl, rfl, rfl, fun _ => rfl⟩
        (.inl rfl),
      rfl,
      ⟨hhydrated.base_le, hhydrated.last_le, hhydrated.broken, hhydrated.seen, hhydrated.applied⟩,
      (fun _ _ hanswer => by cases hanswer), fun _ _ => ⟨rfl, rfl⟩,
      (fun _ hsocket => by cases hsocket)⟩
  exact hidle.opens created hhydrated rfl rfl rfl rfl (hconsistent.openEventStream rfl created)

variable (settings) in
theorem sound_run (before : List (StreamStep ℕ π)) (selected : Option RegimeType)
    (trading : TradingSession) (created : Bool) (steps : List (FeedStep π)) :
    (run settings before selected trading created steps).Sound settings := by
  suffices hfold : ∀ feed : LiveFeed π ι, feed.Sound settings →
      (steps.foldl (LiveFeed.step settings) feed).Sound settings from
    hfold _ (sound_start settings before selected trading created)
  induction steps with
  | nil => exact fun _ h => h
  | cons step steps ih => exact fun feed h => ih _ (h.step step)

/-- With IDs that do not repeat, the next event is not taken for known. -/
theorem Sound.fresh (h : feed.Sound settings) (hids : (feed.server.issued.map (·.eventId)).Nodup)
    {event : BackendEventEnvelope π} (hevent : event ∈ feed.server.issued)
    (hsequence : event.sequence = feed.client.lastSequence + 1) :
    event.eventId ∉ feed.client.seenEventIds := by
  intro hseen
  obtain ⟨other, hother, hle, hid⟩ := h.hydrated.seen event.eventId hseen
  have hsame : other = event := List.inj_on_of_nodup_map hids hother hevent hid
  rw [hsame] at hle
  omega

theorem Sound.deliver_readyRaises (h : feed.Sound settings)
    (hids : (feed.server.issued.map (·.eventId)).Nodup) {generation : ℕ}
    (hsocket : feed.client.webSocket = some generation) {message : WebSocketMessage π}
    {frames : List (WebSocketMessage π)} (hframes : feed.frames generation = message :: frames)
    (now : ℚ) (applyRaises : Bool) :
    (feed.step settings (.deliver generation now applyRaises true)).client.webSocket = none := by
  obtain ⟨horder, -⟩ := h.inOrder hsocket hframes
  simp only [LiveFeed.step, hframes, h.react_onMessage hsocket]
  refine handleEventFrame_readyRaises settings.adapter h.settled hsocket (h.active ▸ horder) rfl
    rfl fun event hmessage => ?_
  subst hmessage
  exact h.fresh hids (h.issued generation event (hframes ▸ List.mem_cons_self)) horder.1

end LiveFeed

/-- Publishing, reading, delivery, lost connections, retries, snapshots and shutdown in any
order, with event IDs that do not repeat.  An application that could apply all it was given has
exactly the events after its snapshot up to the cursor, in order; after an event or a snapshot
that it could not apply the socket is gone until the next snapshot, and a readiness callback
that raises closes it as well; on the open connection the next frame never shows a gap; and a
connection that is served to the end leaves no event out. -/
theorem live_feed_law (settings : FeedSettings π ι) (before : List (StreamStep ℕ π))
    (selected : Option RegimeType) (trading : TradingSession) (created : Bool)
    (steps : List (FeedStep π))
    (hids : ((LiveFeed.run settings before selected trading created steps).server.issued.map
      (·.eventId)).Nodup) :
    let feed := LiveFeed.run settings before selected trading created steps
    (feed.client.facade.base ≤ feed.client.lastSequence ∧
      feed.client.lastSequence ≤ feed.server.issued.length ∧
      (feed.client.facade.broken = false → feed.client.facade.applied =
        (feed.server.issued.take feed.client.lastSequence).drop feed.client.facade.base)) ∧
    (feed.client.facade.broken = true → feed.client.webSocket = none) ∧
    (∀ generation message frames, feed.client.webSocket = some generation →
      feed.frames generation = message :: frames →
        (∀ now applyRaises, (feed.step settings
          (.deliver generation now applyRaises true)).client.webSocket = none) ∧
        message.sessionId = feed.client.activeSessionId ∧
        (∀ event, message = .event event →
          event ∈ feed.server.issued ∧ event.sequence = feed.client.lastSequence + 1) ∧
        (∀ session number, message = .heartbeat session number →
          number = feed.client.lastSequence)) ∧
    (∀ generation, feed.client.webSocket = some generation →
      feed.phase generation = .serving → feed.frames generation = [] →
      (feed.server.reader generation).cursor = feed.server.stream.lastSequence →
        feed.client.facade.broken = false ∧
        feed.client.facade.applied = feed.server.issued.drop feed.client.facade.base) := by
  intro feed
  have h : feed.Sound settings :=
    LiveFeed.sound_run settings before selected trading created steps
  have hhydrated := h.hydrated
  refine ⟨⟨hhydrated.base_le, hhydrated.last_le, hhydrated.applied hids⟩, hhydrated.broken,
    fun generation message frames hsocket hframes => ?_,
    fun generation hsocket hserving hframes hcursor => ?_⟩
  · obtain ⟨horder, -⟩ := h.inOrder hsocket hframes
    refine ⟨fun now applyRaises => h.deliver_readyRaises hids hsocket hframes now applyRaises, ?_⟩
    rw [h.active]
    cases message with
    | event event =>
        refine ⟨horder.2.1, fun other hother => ?_, (fun _ _ hother => by cases hother)⟩
        cases hother
        exact ⟨h.issued generation event (hframes ▸ List.mem_cons_self), horder.1⟩
    | heartbeat session number =>
        refine ⟨horder.2.1, (fun _ hother => by cases hother), fun _ _ hother => ?_⟩
        cases hother
        exact horder.1
    | resyncRequired session reason =>
        exact ⟨horder.1, (fun _ hother => by cases hother), (fun _ _ hother => by cases hother)⟩
  · have hchannel := h.channel generation hsocket
    have hwhole : feed.client.facade.broken = false := by
      cases hbroken : feed.client.facade.broken with
      | false => rfl
      | true =>
          rw [hhydrated.broken hbroken] at hsocket
          cases hsocket
    have hlast : feed.client.lastSequence = feed.server.issued.length := by
      unfold LiveFeed.Channel at hchannel
      rw [hserving, hframes] at hchannel
      have hend : feed.client.lastSequence = (feed.server.reader generation).cursor := hchannel
      rw [hend, hcursor, h.server.faithful.lastSequence]
    refine ⟨hwhole, ?_⟩
    rw [hhydrated.applied hids hwhole, hlast, List.take_length]

/-- A launch whose payloads and other intents say nothing. -/
def unitFeed : FeedSettings Unit Unit where
  stream :=
    { sessionId := "session"
      maxReplayEvents := 2
      replayCutoff := fun time => time
      encodedLength := fun _ => 1
      max_pos := by decide
      max_le := by decide
      cutoff_le := fun _ => le_rfl }
  adapter :=
    { sessionId := "session", staleTimeoutMs := 1, mapBackendEventToIntents := fun _ => .ok [] }
  sameSession := rfl

/-- An event that says nothing. -/
def unitCall (eventId : String) : PublishCall Unit where
  eventType := "E"
  payload := .ok ()
  eventTime := .ok 0
  publicationTime := .ok 0
  eventId

/-- The application raises while it applies the first event.  The client asks for a snapshot,
which holds that event, and the second one comes on a new connection. -/
def unitSteps : List (FeedStep Unit) :=
  [.publish (unitCall "a"), .opened 1, .authenticate 1, .beginWait 1 (.ok 0),
    .deliver 1 0 true false, .client .retryTimer,
    .getSnapshot 3 none ⟨1, .running, false, "0.5", "0.5"⟩, .publish (unitCall "b"),
    .snapshotArrives 3 false true, .opened 4, .authenticate 4, .beginWait 4 (.ok 0),
    .deliver 4 0 false false]

theorem live_feed_law_resync :
    let feed := LiveFeed.run unitFeed [] none ⟨1, .running, false, "0.5", "0.5"⟩ true unitSteps
    feed.client.facade.base = 1 ∧ feed.client.facade.applied = feed.server.issued.drop 1 ∧
      feed.server.issued.map (·.eventId) = ["a", "b"] := by
  intro feed
  have hissued : feed.server.issued.map (·.eventId) = ["a", "b"] := by decide
  have hids : (feed.server.issued.map (·.eventId)).Nodup := by rw [hissued]; decide
  have hlaw := live_feed_law unitFeed [] none ⟨1, .running, false, "0.5", "0.5"⟩ true unitSteps
    hids
  have hbase : feed.client.facade.base = 1 := by decide +kernel
  refine ⟨hbase, ?_, hissued⟩
  rw [← hbase]
  exact (hlaw.2.2.2 4 (by decide +kernel) (by decide +kernel) (by decide +kernel)
    (by decide +kernel)).2

end Transport
