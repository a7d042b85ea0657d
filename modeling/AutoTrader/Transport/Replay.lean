import AutoTrader.Transport.EventStream

/-!
# Exact replay

Writers, the passing of time and readers interleave in any order.  The buffer is always the
end of what was issued, so that a reader either gets every event once or is told to start
again.

* `Consecutive` — sequence numbers without a gap.
* `publish_cases`, `publishMany_cases`, `publish_ok`, `publishMany_ok` — what the writers do.
* `Faithful` — the stream against the events issued so far.
* `Exact` — what a batch says of the events issued and of the events retained.
* `replay_law` — every run of writers and readers keeps all of it.
-/

namespace Transport

open Stateful

variable {π ρ : Type}

/-! ## Numbered events -/

/-- Events numbered one after the other from a first number on. -/
def Consecutive (first : ℕ) (events : List (BackendEventEnvelope π)) : Prop :=
  events.map (·.sequence) = List.range' first events.length

theorem Consecutive.nil (first : ℕ) : Consecutive first ([] : List (BackendEventEnvelope π)) := rfl

theorem consecutive_cons {first : ℕ} {event : BackendEventEnvelope π}
    {events : List (BackendEventEnvelope π)} :
    Consecutive first (event :: events) ↔
      event.sequence = first ∧ Consecutive (first + 1) events := by
  simp [Consecutive, List.range'_succ]

theorem consecutive_append {first : ℕ} {front back : List (BackendEventEnvelope π)} :
    Consecutive first (front ++ back) ↔
      Consecutive first front ∧ Consecutive (first + front.length) back := by
  induction front generalizing first with
  | nil => simp [Consecutive.nil]
  | cons event front ih =>
      rw [List.cons_append, consecutive_cons, consecutive_cons, ih, List.length_cons, and_assoc,
        Nat.add_assoc, Nat.add_comm 1]

theorem Consecutive.mem {first : ℕ} {events : List (BackendEventEnvelope π)}
    (h : Consecutive first events) {event : BackendEventEnvelope π} (hevent : event ∈ events) :
    first ≤ event.sequence ∧ event.sequence < first + events.length := by
  have hmem : event.sequence ∈ events.map (·.sequence) := List.mem_map_of_mem hevent
  rw [h] at hmem
  simpa using List.mem_range'_1.mp hmem

theorem Consecutive.exists {first : ℕ} {events : List (BackendEventEnvelope π)}
    (h : Consecutive first events) (number : ℕ) (hfirst : first ≤ number)
    (hlast : number < first + events.length) : ∃ event ∈ events, event.sequence = number := by
  have hmem : number ∈ events.map (·.sequence) := by
    rw [h]
    exact List.mem_range'_1.mpr ⟨hfirst, hlast⟩
  exact List.mem_map.mp hmem

/-- Of numbered events, the ones after a number are what follows so many of them. -/
theorem Consecutive.filter_eq_drop {first : ℕ} {events : List (BackendEventEnvelope π)}
    (h : Consecutive first events) {number : ℕ} (hnumber : first ≤ number + 1) :
    events.filter (fun event => decide (number < event.sequence)) =
      events.drop (number + 1 - first) := by
  induction events generalizing first with
  | nil => simp
  | cons event events ih =>
      obtain ⟨hsequence, hrest⟩ := consecutive_cons.mp h
      by_cases hlt : number < event.sequence
      · have hall : ∀ other ∈ event :: events, number < other.sequence := by
          intro other hother
          have := (h.mem hother).1
          omega
        have hzero : number + 1 - first = 0 := by omega
        rw [hzero, List.drop_zero]
        exact List.filter_eq_self.mpr fun other hother => by simpa using hall other hother
      · have hsucc : number + 1 - first = (number + 1 - (first + 1)) + 1 := by omega
        rw [List.filter_cons_of_neg (by simpa using hlt), ih hrest (by omega), hsucc,
          List.drop_succ_cons]

/-! ## What the writers do -/

variable {settings : StreamSettings π}

theorem retained_suffix (time : ℚ) (events : List (StoredEvent π)) :
    retained settings time events <:+ events :=
  (List.drop_suffix _ _).trans (List.dropWhile_suffix _)

/-- Events published just now stay, as many as the buffer holds. -/
theorem suffix_retained {time : ℚ} {events fresh : List (StoredEvent π)}
    (hfresh : ∀ event ∈ fresh, event.publishedAtMonotonic = time)
    (hlength : fresh.length ≤ settings.maxReplayEvents) :
    fresh <:+ retained settings time (events ++ fresh) := by
  have hyoung : fresh <:+ (events ++ fresh).dropWhile fun event =>
      decide (event.publishedAtMonotonic < settings.replayCutoff time) := by
    induction events with
    | nil =>
        cases fresh with
        | nil => exact List.nil_suffix
        | cons event fresh =>
            have hnot : ¬ event.publishedAtMonotonic < settings.replayCutoff time := by
              rw [hfresh event (by simp)]
              exact not_lt.mpr (settings.cutoff_le time)
            rw [List.nil_append, List.dropWhile_cons_of_neg (by simpa using hnot)]
    | cons event events ih =>
        rw [List.cons_append, List.dropWhile_cons]
        split
        · exact ih
        · exact List.suffix_cons_iff.mpr (.inr (List.suffix_append _ _))
  obtain ⟨front, hfront⟩ := hyoung
  rw [retained]
  simp only [← hfront, List.length_append]
  rw [List.drop_append_of_le_length (by omega)]
  exact List.suffix_append _ _

/-- A writer that raises leaves the stream alone; one that returns has appended its events
under the next numbers and retained as many of the last ones as the rules let it. -/
structure Appends (settings : StreamSettings π) (stream after : BackendEventStream π)
    (fresh : List (BackendEventEnvelope π)) : Prop where
  consecutive : Consecutive (stream.lastSequence + 1) fresh
  lastSequence : after.lastSequence = stream.lastSequence + fresh.length
  closed : after.closed = stream.closed
  suffix : after.events.map (·.envelope) <:+ stream.events.map (·.envelope) ++ fresh
  visible : fresh <:+ after.events.map (·.envelope)

theorem appends_retained {stream : BackendEventStream π} {fresh : List (StoredEvent π)} {time : ℚ}
    (hconsecutive : Consecutive (stream.lastSequence + 1) (fresh.map (·.envelope)))
    (htime : ∀ event ∈ fresh, event.publishedAtMonotonic = time)
    (hlength : fresh.length ≤ settings.maxReplayEvents) :
    Appends settings stream
      { stream with
        events := retained settings time (stream.events ++ fresh)
        lastSequence := stream.lastSequence + fresh.length }
      (fresh.map (·.envelope)) where
  consecutive := hconsecutive
  lastSequence := by simp
  closed := rfl
  suffix := by
    rw [← List.map_append]
    exact (retained_suffix time _).map _
  visible := (suffix_retained htime hlength).map _

variable (settings) in
/-- A call of `publish` raises and changes nothing, or appends the next event. -/
theorem publish_cases (call : PublishCall π) (stream : BackendEventStream π) :
    (∃ error, publish settings call stream = .error error stream) ∨
      ∃ event : StoredEvent π, event.sequence = stream.lastSequence + 1 ∧
        publish settings call stream = .ok event.envelope
          { stream with
            events := retained settings event.publishedAtMonotonic (stream.events ++ [event])
            lastSequence := stream.lastSequence + 1 } := by
  unfold publish
  cases hpayload : call.payload with
  | error error => exact .inl ⟨error, by simp⟩
  | ok payload =>
  by_cases hclosed : stream.closed = true
  · exact .inl ⟨_, by simp [hclosed]; rfl⟩
  by_cases hlast : stream.lastSequence = maxUnsignedSequence
  · exact .inl ⟨_, by simp [hclosed, hlast]; rfl⟩
  cases htime : call.eventTime with
  | error error => exact .inl ⟨error, by simp [hclosed, hlast]⟩
  | ok eventTime =>
  cases hpublication : call.publicationTime with
  | error error => exact .inl ⟨error, by simp [hclosed, hlast]⟩
  | ok time =>
  cases hcheck : checkEnvelope settings
      (call.envelope settings payload eventTime (stream.lastSequence + 1)) with
  | error error => exact .inl ⟨error, by simp [hclosed, hlast, hcheck]⟩
  | ok _ =>
      exact .inr
        ⟨⟨call.envelope settings payload eventTime (stream.lastSequence + 1), time⟩, rfl, by
          simp [hclosed, hlast, hcheck, pruneLocked, -bind_pure_comp]⟩

theorem normalizeEvents_length {events : List (BatchEvent π)} {normalized}
    (h : normalizeEvents events = .ok normalized) : normalized.length = events.length := by
  induction events generalizing normalized with
  | nil => cases h; rfl
  | cons event events ih =>
      obtain ⟨payload, -, h⟩ := Except.bind_eq_ok_iff.mp h
      obtain ⟨rest, hrest, h⟩ := Except.bind_eq_ok_iff.mp h
      cases h
      simp [ih hrest]

/-- The candidates of a batch are numbered one after the other. -/
theorem candidateEvents_consecutive {eventTime : Trading.Timestamp} {time : ℚ} {sequence : ℕ}
    {normalized : List (BatchEvent π × π)} {candidates : List (StoredEvent π)}
    (h : candidateEvents settings eventTime time sequence normalized = .ok candidates) :
    candidates.length = normalized.length ∧
      Consecutive (sequence + 1) (candidates.map (·.envelope)) ∧
      ∀ event ∈ candidates, event.publishedAtMonotonic = time := by
  induction normalized generalizing sequence candidates with
  | nil => cases h; exact ⟨rfl, rfl, by simp⟩
  | cons pair normalized ih =>
      obtain ⟨event, payload⟩ := pair
      obtain ⟨_, -, h⟩ := Except.bind_eq_ok_iff.mp h
      obtain ⟨rest, hrest, h⟩ := Except.bind_eq_ok_iff.mp h
      cases h
      obtain ⟨hlength, hconsecutive, htime⟩ := ih hrest
      exact ⟨by simp [hlength], consecutive_cons.mpr ⟨rfl, hconsecutive⟩, by simpa using htime⟩

variable (settings) in
/-- A call of `publish_many` raises and changes nothing, or appends its events together. -/
theorem publishMany_cases (call : PublishManyCall π) (stream : BackendEventStream π) :
    (∃ error, publishMany settings call stream = .error error stream) ∨
      ∃ (fresh : List (StoredEvent π)) (time : ℚ),
        fresh.length = call.events.length ∧ fresh.length ≤ settings.maxReplayEvents ∧
        Consecutive (stream.lastSequence + 1) (fresh.map (·.envelope)) ∧
        (∀ event ∈ fresh, event.publishedAtMonotonic = time) ∧
        publishMany settings call stream = .ok (fresh.map (·.envelope))
          { stream with
            events := retained settings time (stream.events ++ fresh)
            lastSequence := stream.lastSequence + fresh.length } := by
  unfold publishMany
  by_cases hempty : call.events = []
  · exact .inl ⟨_, by simp [hempty]; rfl⟩
  by_cases hmany : settings.maxReplayEvents < call.events.length
  · exact .inl ⟨_, by simp [hempty, hmany]; rfl⟩
  cases hnormalized : normalizeEvents call.events with
  | error error => exact .inl ⟨error, by simp [hempty, hmany]⟩
  | ok normalized =>
  by_cases hclosed : stream.closed = true
  · exact .inl ⟨_, by simp [hempty, hmany, hclosed]; rfl⟩
  by_cases hlast : maxUnsignedSequence < stream.lastSequence + normalized.length
  · exact .inl ⟨_, by simp [hempty, hmany, hclosed, hlast]; rfl⟩
  cases htime : call.eventTime with
  | error error => exact .inl ⟨error, by simp [hempty, hmany, hclosed, hlast]⟩
  | ok eventTime =>
  cases hpublication : call.publicationTime with
  | error error => exact .inl ⟨error, by simp [hempty, hmany, hclosed, hlast]⟩
  | ok time =>
  cases hcandidates : candidateEvents settings eventTime time stream.lastSequence normalized with
  | error error => exact .inl ⟨error, by simp [hempty, hmany, hclosed, hlast, hcandidates]⟩
  | ok fresh =>
      obtain ⟨hlength, hconsecutive, htimes⟩ := candidateEvents_consecutive hcandidates
      have hsame : fresh.length = call.events.length :=
        hlength.trans (normalizeEvents_length hnormalized)
      refine .inr ⟨fresh, time, hsame, by omega, hconsecutive, htimes, ?_⟩
      simp [hempty, hmany, hclosed, hlast, hcandidates, pruneLocked, hlength, -bind_pure_comp]

theorem publish_ok {call : PublishCall π} {stream after : BackendEventStream π}
    {envelope : BackendEventEnvelope π} (h : publish settings call stream = .ok envelope after) :
    Appends settings stream after [envelope] := by
  obtain ⟨error, herror⟩ | ⟨event, hsequence, hok⟩ := publish_cases settings call stream
  · rw [herror] at h
    cases h
  · rw [hok] at h
    cases h
    have hconsecutive : Consecutive (stream.lastSequence + 1)
        ([event].map (·.envelope)) := consecutive_cons.mpr ⟨hsequence, Consecutive.nil _⟩
    exact appends_retained hconsecutive (by simp) settings.max_pos

theorem publishMany_ok {call : PublishManyCall π} {stream after : BackendEventStream π}
    {envelopes : List (BackendEventEnvelope π)}
    (h : publishMany settings call stream = .ok envelopes after) :
    envelopes.length = call.events.length ∧ Appends settings stream after envelopes := by
  obtain ⟨error, herror⟩ | ⟨fresh, time, hsame, hmax, hconsecutive, htimes, hok⟩ :=
    publishMany_cases settings call stream
  · rw [herror] at h
    cases h
  · rw [hok] at h
    cases h
    exact ⟨by simpa using hsame, appends_retained hconsecutive htimes hmax⟩

/-! ## What a batch says -/

/-- The stream against the events issued so far: they are numbered from one on, the counter
is their number, and the buffer holds the last of them. -/
structure Faithful (stream : BackendEventStream π) (issued : List (BackendEventEnvelope π)) :
    Prop where
  consecutive : Consecutive 1 issued
  lastSequence : stream.lastSequence = issued.length
  suffix : stream.events.map (·.envelope) <:+ issued

/-- A batch for a reader, judged by the events issued and by the ones retained: a gap is
reported when a later event has been pruned, a sequence ahead when it was never issued, and
otherwise the batch has all the later events. -/
structure Exact (issued buffer : List (BackendEventEnvelope π)) (afterSequence : ℕ)
    (batch : ReplayBatch π) : Prop where
  gap : batch.resyncReason = some .replayGap ↔
    ∃ event ∈ issued, afterSequence < event.sequence ∧ event ∉ buffer
  ahead : batch.resyncReason = some .sequenceAhead ↔
    afterSequence ≠ 0 ∧ ∀ event ∈ issued, event.sequence ≠ afterSequence
  events : batch.resyncReason = none →
    batch.events = issued.filter fun event => decide (afterSequence < event.sequence)
  refused : batch.resyncReason ≠ none → batch.events = []

variable {stream : BackendEventStream π} {issued : List (BackendEventEnvelope π)}

theorem Faithful.pruned (h : Faithful stream issued) (time : ℚ) :
    Faithful { stream with events := retained settings time stream.events } issued where
  consecutive := h.consecutive
  lastSequence := h.lastSequence
  suffix := ((retained_suffix time stream.events).map _).trans h.suffix

theorem Faithful.appends {after : BackendEventStream π} {fresh : List (BackendEventEnvelope π)}
    (h : Faithful stream issued) (happends : Appends settings stream after fresh) :
    Faithful after (issued ++ fresh) where
  consecutive := by
    refine consecutive_append.mpr ⟨h.consecutive, ?_⟩
    rw [← h.lastSequence, Nat.add_comm]
    exact happends.consecutive
  lastSequence := by rw [happends.lastSequence, h.lastSequence, List.length_append]
  suffix := by
    obtain ⟨front, hfront⟩ := h.suffix
    refine happends.suffix.trans ?_
    rw [← hfront, List.append_assoc]
    exact List.suffix_append _ _

theorem Faithful.split (h : Faithful stream issued) :
    ∃ pruned, issued = pruned ++ stream.events.map (·.envelope) ∧
      Consecutive 1 pruned ∧
      Consecutive (1 + pruned.length) (stream.events.map (·.envelope)) := by
  obtain ⟨pruned, hpruned⟩ := h.suffix
  have hconsecutive := h.consecutive
  rw [← hpruned, consecutive_append] at hconsecutive
  exact ⟨pruned, hpruned.symm, hconsecutive⟩

/-- A later event has been pruned exactly when the next one has. -/
theorem exists_pruned_iff {pruned buffer : List (BackendEventEnvelope π)} (afterSequence : ℕ)
    (hpruned : Consecutive 1 pruned) (hbuffer : Consecutive (1 + pruned.length) buffer) :
    (∃ event ∈ pruned ++ buffer, afterSequence < event.sequence ∧ event ∉ buffer) ↔
      afterSequence < pruned.length := by
  constructor
  · rintro ⟨event, hevent, hlater, hnot⟩
    have hmem := (List.mem_append.mp hevent).resolve_right hnot
    have := (hpruned.mem hmem).2
    omega
  · intro hlt
    obtain ⟨event, hevent, hsequence⟩ :=
      hpruned.exists (afterSequence + 1) (by omega) (by omega)
    refine ⟨event, List.mem_append_left _ hevent, by omega, fun hmem => ?_⟩
    have := (hbuffer.mem hmem).1
    omega

/-- A sequence number was never issued exactly when it is above the counter. -/
theorem never_issued_iff (h : Consecutive 1 issued) (afterSequence : ℕ) :
    (afterSequence ≠ 0 ∧ ∀ event ∈ issued, event.sequence ≠ afterSequence) ↔
      issued.length < afterSequence := by
  constructor
  · rintro ⟨hne, hall⟩
    by_contra hle
    obtain ⟨event, hevent, hsequence⟩ :=
      h.exists afterSequence (by omega) (by omega)
    exact hall event hevent hsequence
  · intro hlt
    refine ⟨by omega, fun event hevent hsequence => ?_⟩
    have := (h.mem hevent).2
    omega

/-- No event is later than the last one. -/
theorem filter_later_eq_nil (h : Consecutive 1 issued) {afterSequence : ℕ}
    (hlast : issued.length ≤ afterSequence) :
    issued.filter (fun event => decide (afterSequence < event.sequence)) = [] := by
  rw [h.filter_eq_drop (by omega)]
  exact List.drop_eq_nil_of_le (by omega)

/-- The later events of the buffer are all the later events, when none has been pruned. -/
theorem filter_buffer {pruned : List (BackendEventEnvelope π)} {events : List (StoredEvent π)}
    {afterSequence : ℕ} (hpruned : Consecutive 1 pruned)
    (hlength : pruned.length ≤ afterSequence) :
    (events.filter fun event => decide (afterSequence < event.sequence)).map (·.envelope) =
      (pruned ++ events.map (·.envelope)).filter fun event =>
        decide (afterSequence < event.sequence) := by
  rw [List.filter_append, filter_later_eq_nil hpruned hlength, List.nil_append, List.filter_map]
  rfl

/-- The answer to a reader, by the number of events pruned. -/
theorem replayAfterLocked_eq {pruned : List (BackendEventEnvelope π)} (afterSequence : ℕ)
    (hpruned : Consecutive 1 pruned)
    (hbuffer : Consecutive (1 + pruned.length) (stream.events.map (·.envelope)))
    (hlast : stream.lastSequence = pruned.length + stream.events.length) :
    replayAfterLocked stream afterSequence =
      if stream.lastSequence < afterSequence then
        ⟨[], stream.lastSequence, some .sequenceAhead, stream.closed⟩
      else if afterSequence < pruned.length then
        ⟨[], stream.lastSequence, some .replayGap, stream.closed⟩
      else
        ⟨(pruned ++ stream.events.map (·.envelope)).filter fun event =>
          decide (afterSequence < event.sequence), stream.lastSequence, none, stream.closed⟩ := by
  have hall : Consecutive 1 (pruned ++ stream.events.map (·.envelope)) :=
    consecutive_append.mpr ⟨hpruned, hbuffer⟩
  by_cases hahead : stream.lastSequence < afterSequence
  · simp only [replayAfterLocked, if_pos hahead]
  by_cases hequal : afterSequence = stream.lastSequence
  · have hnot : ¬ afterSequence < pruned.length := by omega
    simp only [replayAfterLocked, if_neg hahead, if_pos hequal, if_neg hnot]
    rw [filter_later_eq_nil hall (by rw [List.length_append, List.length_map]; omega)]
  cases hevents : stream.events with
  | nil =>
      rw [hevents, List.length_nil] at hlast
      have hgap : afterSequence < pruned.length := by omega
      simp only [replayAfterLocked, if_neg hahead, if_neg hequal, if_pos hgap, hevents]
  | cons earliest rest =>
      have hearliest : earliest.sequence = 1 + pruned.length := by
        rw [hevents, List.map_cons, consecutive_cons] at hbuffer
        exact hbuffer.1
      by_cases hgap : afterSequence < pruned.length
      · have hearly : afterSequence + 1 < earliest.sequence := by omega
        simp only [replayAfterLocked, if_neg hahead, if_neg hequal, if_pos hgap, hevents,
          if_pos hearly]
      · have hearly : ¬ afterSequence + 1 < earliest.sequence := by omega
        simp only [replayAfterLocked, if_neg hahead, if_neg hequal, if_neg hgap, hevents,
          if_neg hearly]
        rw [filter_buffer hpruned (not_lt.mp hgap)]

/-- Every batch of a faithful stream is exact. -/
theorem Faithful.exact (h : Faithful stream issued) (afterSequence : ℕ) :
    Exact issued (stream.events.map (·.envelope)) afterSequence
      (replayAfterLocked stream afterSequence) := by
  obtain ⟨pruned, hissued, hpruned, hbuffer⟩ := h.split
  have hgap := exists_pruned_iff afterSequence hpruned hbuffer
  rw [← hissued] at hgap
  have hahead := never_issued_iff h.consecutive afterSequence
  have hlength : issued.length = pruned.length + stream.events.length := by
    rw [hissued, List.length_append, List.length_map]
  have hlast := h.lastSequence
  rw [replayAfterLocked_eq afterSequence hpruned hbuffer (hlast.trans hlength), ← hissued]
  refine ⟨?_, ?_, ?_, ?_⟩
  · rw [hgap]
    split_ifs <;> simp <;> omega
  · rw [hahead]
    split_ifs <;> simp <;> omega
  · split_ifs <;> simp
  · split_ifs <;> simp

/-! ## The calls of the readers -/

/-- The stream after the retention rules. -/
def pruned (settings : StreamSettings π) (time : ℚ) (stream : BackendEventStream π) :
    BackendEventStream π :=
  { stream with events := retained settings time stream.events }

variable (settings) in
theorem replayAfter_cases (afterSequence : ℕ) (currentTime : Except StreamError ℚ)
    (stream : BackendEventStream π) :
    (∃ error, replayAfter settings afterSequence currentTime stream = .error error stream) ∨
      ∃ time, replayAfter settings afterSequence currentTime stream =
        .ok (replayAfterLocked (pruned settings time stream) afterSequence)
          (pruned settings time stream) := by
  unfold replayAfter
  cases hvalid : validateSequence afterSequence "after_sequence" with
  | error error => exact .inl ⟨error, by simp⟩
  | ok _ =>
      cases currentTime with
      | error error => exact .inl ⟨error, by simp⟩
      | ok time => exact .inr ⟨time, by simp [pruneLocked, pruned, -bind_pure_comp]⟩

variable (settings) in
theorem endWait_cases (afterSequence : ℕ) (currentTime : Except StreamError ℚ)
    (stream : BackendEventStream π) :
    (∃ error, endWait settings afterSequence currentTime stream = .error error stream) ∨
      ∃ time, endWait settings afterSequence currentTime stream =
        .ok (replayAfterLocked (pruned settings time stream) afterSequence)
          (pruned settings time stream) := by
  unfold endWait
  cases currentTime with
  | error error => exact .inl ⟨error, by simp⟩
  | ok time => exact .inr ⟨time, by simp [pruneLocked, pruned, -bind_pure_comp]⟩

variable (settings) in
theorem beginWait_cases (afterSequence : ℕ) (currentTime : Except StreamError ℚ)
    (stream : BackendEventStream π) :
    (∃ error, beginWait settings afterSequence currentTime stream = .error error stream) ∨
      ∃ time, beginWait settings afterSequence currentTime stream =
          .ok (some (replayAfterLocked (pruned settings time stream) afterSequence))
            (pruned settings time stream) ∨
        beginWait settings afterSequence currentTime stream =
          .ok none (pruned settings time stream) := by
  unfold beginWait
  cases hvalid : validateSequence afterSequence "after_sequence" with
  | error error => exact .inl ⟨error, by simp⟩
  | ok _ =>
      cases currentTime with
      | error error => exact .inl ⟨error, by simp⟩
      | ok time =>
          refine .inr ⟨time, ?_⟩
          simp only [raising_ok, bind_run, pruneLocked, modify_run, get_run]
          split
          · exact .inl rfl
          · exact .inr rfl

/-! ## Runs -/

/-- A reader, with what it has received and whether it was told to start again. -/
structure Reader (π : Type) where
  start : ℕ
  received : List (BackendEventEnvelope π) := []
  waiting : Bool := false
  resync : Option ResyncReason := none

/-- The last sequence a reader received. -/
def Reader.cursor (reader : Reader π) : ℕ :=
  match reader.received.getLast? with
  | some event => event.sequence
  | none => reader.start

/-- A reader after a batch. -/
def Reader.receive (reader : Reader π) (batch : ReplayBatch π) : Reader π where
  start := reader.start
  received := reader.received ++ batch.events
  waiting := false
  resync := batch.resyncReason

/-- The stream with its readers, and the events issued so far. -/
structure StreamSystem (ρ π : Type) where
  stream : BackendEventStream π := {}
  issued : List (BackendEventEnvelope π) := []
  reader : ρ → Reader π

/-- The critical sections of the calls. -/
inductive StreamStep (ρ π : Type) where
  | publish (call : PublishCall π)
  | publishMany (call : PublishManyCall π)
  | close
  | replayAfter (reader : ρ) (currentTime : Except StreamError ℚ)
  | beginWait (reader : ρ) (currentTime : Except StreamError ℚ)
  | endWait (reader : ρ) (currentTime : Except StreamError ℚ)

namespace StreamSystem

variable [DecidableEq ρ]

/-- The system after a change of a reader. -/
def withReader (system : StreamSystem ρ π) (name : ρ) (reader : Reader π) : StreamSystem ρ π :=
  { system with reader := Function.update system.reader name reader }

/-- The system after a critical section.  A reader asks for what follows its last sequence,
one call at a time, until it is told to start again. -/
def step (settings : StreamSettings π) (system : StreamSystem ρ π) :
    StreamStep ρ π → StreamSystem ρ π
  | .publish call =>
      match Transport.publish settings call system.stream with
      | .ok envelope stream => { system with stream, issued := system.issued ++ [envelope] }
      | .error _ stream => { system with stream }
  | .publishMany call =>
      match Transport.publishMany settings call system.stream with
      | .ok envelopes stream => { system with stream, issued := system.issued ++ envelopes }
      | .error _ stream => { system with stream }
  | .close => { system with stream := finalState (Transport.close system.stream) }
  | .replayAfter name currentTime =>
      let reader := system.reader name
      if reader.resync = none ∧ reader.waiting = false then
        match Transport.replayAfter settings reader.cursor currentTime system.stream with
        | .ok batch stream => { system with stream }.withReader name (reader.receive batch)
        | .error _ stream => { system with stream }
      else system
  | .beginWait name currentTime =>
      let reader := system.reader name
      if reader.resync = none ∧ reader.waiting = false then
        match Transport.beginWait settings reader.cursor currentTime system.stream with
        | .ok (some batch) stream => { system with stream }.withReader name (reader.receive batch)
        | .ok none stream => { system with stream }.withReader name { reader with waiting := true }
        | .error _ stream => { system with stream }
      else system
  | .endWait name currentTime =>
      let reader := system.reader name
      if reader.waiting = true then
        match Transport.endWait settings reader.cursor currentTime system.stream with
        | .ok batch stream => { system with stream }.withReader name (reader.receive batch)
        | .error _ stream => { system with stream }.withReader name { reader with waiting := false }
      else system

/-- A run from a new stream, with readers that start anywhere. -/
def run (settings : StreamSettings π) (start : ρ → ℕ) (steps : List (StreamStep ρ π)) :
    StreamSystem ρ π :=
  steps.foldl (step settings) { reader := fun name => { start := start name } }

end StreamSystem

/-! ## The law -/

/-- A reader has the first events after its start. -/
def Reader.Served (reader : Reader π) (issued : List (BackendEventEnvelope π)) : Prop :=
  reader.received <+: issued.drop reader.start

theorem consecutive_drop (h : Consecutive 1 issued) {start : ℕ} (hstart : start ≤ issued.length) :
    Consecutive (start + 1) (issued.drop start) := by
  have hsplit := h
  rw [← List.take_append_drop start issued, consecutive_append, List.length_take,
    min_eq_left hstart, Nat.add_comm] at hsplit
  exact hsplit.2

/-- What a served reader received is numbered from its start on. -/
theorem Reader.Served.consecutive {reader : Reader π} (h : reader.Served issued)
    (hissued : Consecutive 1 issued) : Consecutive (reader.start + 1) reader.received := by
  rcases le_total reader.start issued.length with hle | hle
  · obtain ⟨rest, hrest⟩ := h
    have hdrop := consecutive_drop hissued hle
    rw [← hrest] at hdrop
    exact (consecutive_append.mp hdrop).1
  · have hnil : reader.received = [] := by
      rw [Reader.Served, List.drop_eq_nil_of_le hle] at h
      exact List.prefix_nil.mp h
    rw [hnil]
    exact Consecutive.nil _

theorem Reader.Served.cursor_eq {reader : Reader π} (h : reader.Served issued)
    (hissued : Consecutive 1 issued) :
    reader.cursor = reader.start + reader.received.length := by
  have hconsecutive := h.consecutive hissued
  unfold cursor
  cases hlast : reader.received.getLast? with
  | none =>
      rw [List.getLast?_eq_none_iff.mp hlast]
      rfl
  | some event =>
      obtain ⟨front, hfront⟩ := List.getLast?_eq_some_iff.mp hlast
      rw [hfront, consecutive_append, consecutive_cons] at hconsecutive
      rw [hfront, List.length_append, List.length_singleton]
      show event.sequence = _
      rw [hconsecutive.2.1]
      omega

/-- A batch continues what a reader has. -/
theorem Reader.Served.receive {reader : Reader π} {buffer : List (BackendEventEnvelope π)}
    {batch : ReplayBatch π} (h : reader.Served issued) (hissued : Consecutive 1 issued)
    (hbatch : Exact issued buffer reader.cursor batch) :
    (reader.receive batch).Served issued := by
  show reader.received ++ batch.events <+: issued.drop reader.start
  by_cases hresync : batch.resyncReason = none
  · obtain ⟨rest, hrest⟩ := h
    have hlater : batch.events = rest := by
      rw [hbatch.events hresync, hissued.filter_eq_drop (by omega),
        Reader.Served.cursor_eq ⟨rest, hrest⟩ hissued, Nat.add_sub_cancel, ← List.drop_drop,
        ← hrest, List.drop_left]
    rw [hlater, hrest]
  · rw [hbatch.refused hresync, List.append_nil]
    exact h

theorem Reader.Served.append {reader : Reader π} (h : reader.Served issued)
    (fresh : List (BackendEventEnvelope π)) : reader.Served (issued ++ fresh) := by
  refine List.IsPrefix.trans h ?_
  rw [List.drop_append]
  exact List.prefix_append _ _

/-- The stream is faithful and its readers are served. -/
structure StreamSystem.Sound (system : StreamSystem ρ π) : Prop where
  faithful : Faithful system.stream system.issued
  served : ∀ name, (system.reader name).Served system.issued

variable [DecidableEq ρ] {system : StreamSystem ρ π}

theorem StreamSystem.Sound.withReader (h : system.Sound) {name : ρ} {reader : Reader π}
    {stream : BackendEventStream π} (hstream : Faithful stream system.issued)
    (hreader : reader.Served system.issued) :
    ({ system with stream }.withReader name reader : StreamSystem ρ π).Sound where
  faithful := hstream
  served other := by
    show (Function.update system.reader name reader other).Served system.issued
    by_cases heq : other = name
    · rw [heq, Function.update_self]
      exact hreader
    · rw [Function.update_of_ne heq]
      exact h.served other

theorem StreamSystem.Sound.step (h : system.Sound) (step : StreamStep ρ π) :
    (system.step settings step).Sound := by
  have hconsecutive := h.faithful.consecutive
  cases step with
  | publish call =>
      unfold StreamSystem.step
      dsimp only
      obtain ⟨_, herror⟩ | ⟨_, -, hok⟩ := publish_cases settings call system.stream
      · rw [herror]
        exact h
      · rw [hok]
        exact ⟨h.faithful.appends (publish_ok hok), fun name => (h.served name).append _⟩
  | publishMany call =>
      unfold StreamSystem.step
      dsimp only
      obtain ⟨_, herror⟩ | ⟨_, _, -, -, -, -, hok⟩ :=
        publishMany_cases settings call system.stream
      · rw [herror]
        exact h
      · rw [hok]
        exact ⟨h.faithful.appends (publishMany_ok hok).2, fun name => (h.served name).append _⟩
  | close => exact ⟨⟨hconsecutive, h.faithful.lastSequence, h.faithful.suffix⟩, h.served⟩
  | replayAfter name currentTime =>
      unfold StreamSystem.step
      dsimp only
      split
      · obtain ⟨error, herror⟩ | ⟨time, hok⟩ := replayAfter_cases settings
          (system.reader name).cursor currentTime system.stream
        · rw [herror]
          exact h
        · rw [hok]
          exact h.withReader (h.faithful.pruned time)
            ((h.served name).receive hconsecutive ((h.faithful.pruned time).exact _))
      · exact h
  | beginWait name currentTime =>
      unfold StreamSystem.step
      dsimp only
      split
      · obtain ⟨error, herror⟩ | ⟨time, hsome | hnone⟩ := beginWait_cases settings
          (system.reader name).cursor currentTime system.stream
        · rw [herror]
          exact h
        · rw [hsome]
          exact h.withReader (h.faithful.pruned time)
            ((h.served name).receive hconsecutive ((h.faithful.pruned time).exact _))
        · rw [hnone]
          exact h.withReader (h.faithful.pruned time) (h.served name)
      · exact h
  | endWait name currentTime =>
      unfold StreamSystem.step
      dsimp only
      split
      · obtain ⟨error, herror⟩ | ⟨time, hok⟩ := endWait_cases settings
          (system.reader name).cursor currentTime system.stream
        · rw [herror]
          exact h.withReader h.faithful (h.served name)
        · rw [hok]
          exact h.withReader (h.faithful.pruned time)
            ((h.served name).receive hconsecutive ((h.faithful.pruned time).exact _))
      · exact h

variable (settings) in
theorem StreamSystem.sound_run (start : ρ → ℕ) (steps : List (StreamStep ρ π)) :
    (StreamSystem.run settings start steps).Sound := by
  suffices h : ∀ system : StreamSystem ρ π, system.Sound →
      (steps.foldl (StreamSystem.step settings) system).Sound by
    refine h _ ⟨⟨Consecutive.nil 1, rfl, List.nil_suffix⟩, fun name => ?_⟩
    exact List.nil_prefix
  induction steps with
  | nil => exact fun _ h => h
  | cons step steps ih => exact fun system h => ih _ (h.step step)

/-- Writers, readers, the clock and the retention interleave in any order: every reader has
a gap-free run of events from its start on, each of them once; every answer to a reader is
exact; a writer that raises changes nothing; and a batch is numbered consecutively and
becomes visible as a whole. -/
theorem replay_law (settings : StreamSettings π) (start : ρ → ℕ) (steps : List (StreamStep ρ π)) :
    let system := StreamSystem.run settings start steps
    (∀ name, Consecutive ((system.reader name).start + 1) (system.reader name).received ∧
      (system.reader name).received <+: system.issued.drop (system.reader name).start) ∧
    (∀ afterSequence currentTime batch after,
      replayAfter settings afterSequence currentTime system.stream = .ok batch after ∨
        beginWait settings afterSequence currentTime system.stream = .ok (some batch) after ∨
        endWait settings afterSequence currentTime system.stream = .ok batch after →
      Exact system.issued (after.events.map (·.envelope)) afterSequence batch) ∧
    (∀ call error after, publish settings call system.stream = .error error after →
      after = system.stream) ∧
    (∀ call error after, publishMany settings call system.stream = .error error after →
      after = system.stream) ∧
    (∀ call envelope after, publish settings call system.stream = .ok envelope after →
      Appends settings system.stream after [envelope]) ∧
    (∀ call envelopes after, publishMany settings call system.stream = .ok envelopes after →
      envelopes.length = call.events.length ∧
        Appends settings system.stream after envelopes) := by
  have h := StreamSystem.sound_run settings start steps
  refine ⟨fun name => ⟨(h.served name).consecutive h.faithful.consecutive, h.served name⟩,
    ?_, ?_, ?_, fun _ _ _ => publish_ok, fun _ _ _ => publishMany_ok⟩
  · intro afterSequence currentTime batch after hcall
    rcases hcall with hcall | hcall | hcall
    · obtain ⟨_, herror⟩ | ⟨time, hok⟩ :=
        replayAfter_cases settings afterSequence currentTime _
      · rw [herror] at hcall
        cases hcall
      · rw [hok] at hcall
        cases hcall
        exact (h.faithful.pruned time).exact afterSequence
    · obtain ⟨_, herror⟩ | ⟨time, hsome | hnone⟩ :=
        beginWait_cases settings afterSequence currentTime _
      · rw [herror] at hcall
        cases hcall
      · rw [hsome] at hcall
        cases hcall
        exact (h.faithful.pruned time).exact afterSequence
      · rw [hnone] at hcall
        cases hcall
    · obtain ⟨_, herror⟩ | ⟨time, hok⟩ :=
        endWait_cases settings afterSequence currentTime _
      · rw [herror] at hcall
        cases hcall
      · rw [hok] at hcall
        cases hcall
        exact (h.faithful.pruned time).exact afterSequence
  · intro call error after hcall
    obtain ⟨_, herror⟩ | ⟨_, -, hok⟩ := publish_cases settings call _
    · rw [herror] at hcall
      cases hcall
      rfl
    · rw [hok] at hcall
      cases hcall
  · intro call error after hcall
    obtain ⟨_, herror⟩ | ⟨_, _, -, -, -, -, hok⟩ :=
      publishMany_cases settings call _
    · rw [herror] at hcall
      cases hcall
      rfl
    · rw [hok] at hcall
      cases hcall

end Transport
