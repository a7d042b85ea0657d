import AutoTrader.Support.Receipts

/-!
# Commands over HTTP

The commands of a loopback server, with any number of request threads.  Two short sections
run under the lock: the one that looks a key up and reserves it, and the one that publishes
an answer.  Between them the route of a command runs, and others wait for its answer.

* `CommandServer.dispatch`, `CommandServer.finish` — the two sections.
* `CommandServer.step` — the next thing that one of the threads does.
* `CommandServer.Sound` — what every step preserves.
* `CommandServer.Conflicting` — an answer without a run is a conflict.
* `command_flights_law` — a key is run by one thread at a time, and who is answered has the
  answer of a run of the same command.
-/

namespace Transport

open Receipts

/-! ## The server -/

/-- An answer: what the envelope says of it, and the rest of its payload. -/
structure TransportResponse (δ : Type) where
  requestId : String
  status : ℕ
  ok : Bool
  retryable : Bool
  data : δ
  deriving DecidableEq

variable {φ δ ε : Type}

/-- `_replay_response_for_request`. -/
def replayResponseForRequest (response : TransportResponse δ) (requestId : String) :
    TransportResponse δ :=
  { response with requestId }

/-- Whether `_store_idempotency_response` keeps an answer. -/
def TransportResponse.isStored (response : TransportResponse δ) : Bool :=
  !(!response.ok && response.retryable)

/-- The answer to a key that came with other content before. -/
def idempotencyConflict (data : δ) (requestId : String) : TransportResponse δ where
  requestId
  status := 409
  ok := false
  retryable := false
  data

/-- A command that has passed the checks of its body: its key, the digest of its method, path
and body, and the identity of the request. -/
structure CommandRequest (φ : Type) where
  key : String
  fingerprint : φ
  requestId : String

/-- Where the thread of a request is: in the route, waiting for the thread that is, or done.
An answer comes with the run it is from; a conflict is from none. -/
inductive CommandPhase (δ ε : Type) where
  | leading
  | following (leader : ℕ)
  | answered (response : TransportResponse δ) (source : Option ℕ)
  | raised (error : ε)

structure CommandThread (φ δ ε : Type) where
  request : CommandRequest φ
  phase : CommandPhase δ ε

/-- `_IdempotencyFlight`; its future is the end of the thread that leads it. -/
structure CommandFlight (φ : Type) where
  fingerprint : φ
  leader : ℕ

/-- `_MAX_IDEMPOTENCY_RECORDS`. -/
def maxIdempotencyRecords : ℕ := 10000

/-- The records, the flights and the threads of the requests so far, with the commands that
were run.  A record names the run it is from. -/
structure CommandServer (φ δ ε : Type) where
  records : ReceiptStore String φ (ℕ × TransportResponse δ) := {}
  flights : String → Option (CommandFlight φ) := fun _ => none
  threads : ℕ → Option (CommandThread φ δ ε) := fun _ => none
  runs : List (ℕ × String) := []

/-- What happens at a server: a command is sent, its route returns or raises, or a thread that
waits looks at the future. -/
inductive ServerInput (φ δ ε : Type) where
  | arrive (number : ℕ) (request : CommandRequest φ)
  | returns (number : ℕ) (response : TransportResponse δ)
  | raises (number : ℕ) (error : ε)
  | wake (number : ℕ)

namespace CommandServer

/-- A thread goes on to a phase. -/
def put (server : CommandServer φ δ ε) (number : ℕ) (request : CommandRequest φ)
    (phase : CommandPhase δ ε) : CommandServer φ δ ε :=
  { server with threads := Function.update server.threads number (some ⟨request, phase⟩) }

/-- The first section: `_lookup_idempotency_response`, and the reservation of the key. -/
def dispatch [DecidableEq φ] (conflict : δ) (server : CommandServer φ δ ε) (number : ℕ)
    (request : CommandRequest φ) : CommandServer φ δ ε :=
  match server.records.find request.key with
  | some receipt => server.put number request
      (if receipt.fingerprint = request.fingerprint then
        .answered (replayResponseForRequest receipt.result.2 request.requestId)
          (some receipt.result.1)
      else .answered (idempotencyConflict conflict request.requestId) none)
  | none =>
      match server.flights request.key with
      | some flight => server.put number request
          (if flight.fingerprint = request.fingerprint then .following flight.leader
          else .answered (idempotencyConflict conflict request.requestId) none)
      | none =>
          { server.put number request .leading with
            flights :=
              Function.update server.flights request.key (some ⟨request.fingerprint, number⟩)
            runs := server.runs ++ [(number, request.key)] }

/-- The flight of a key ends if it is still the one of the thread. -/
def popFlight (server : CommandServer φ δ ε) (number : ℕ) (key : String) :
    CommandServer φ δ ε :=
  if (server.flights key).map (·.leader) = some number then
    { server with flights := Function.update server.flights key none }
  else server

/-- `_store_idempotency_response`. -/
def storeIdempotencyResponse (server : CommandServer φ δ ε) (number : ℕ)
    (request : CommandRequest φ) (response : TransportResponse δ) : CommandServer φ δ ε :=
  if response.isStored && (server.records.find request.key).isNone then
    { server with
      records := server.records.record maxIdempotencyRecords request.key
        ⟨request.fingerprint, (number, response)⟩ }
  else server

/-- The second section, after the route has returned. -/
def finish (server : CommandServer φ δ ε) (number : ℕ) (request : CommandRequest φ)
    (response : TransportResponse δ) : CommandServer φ δ ε :=
  ((server.storeIdempotencyResponse number request response).popFlight number request.key).put
    number request (.answered response (some number))

def step [DecidableEq φ] (conflict : δ) (server : CommandServer φ δ ε) :
    ServerInput φ δ ε → CommandServer φ δ ε
  | .arrive number request =>
      match server.threads number with
      | none => server.dispatch conflict number request
      | some _ => server
  | .returns number response =>
      match server.threads number with
      | some ⟨request, .leading⟩ => server.finish number request response
      | _ => server
  | .raises number error =>
      match server.threads number with
      | some ⟨request, .leading⟩ =>
          (server.popFlight number request.key).put number request (.raised error)
      | _ => server
  | .wake number =>
      match server.threads number with
      | some ⟨request, .following leader⟩ =>
          match server.threads leader with
          | some ⟨_, .answered response _⟩ => server.put number request
              (.answered (replayResponseForRequest response request.requestId) (some leader))
          | some ⟨_, .raised error⟩ => server.put number request (.raised error)
          | _ => server
      | _ => server

end CommandServer

/-! ## What is preserved -/

/-- How a thread that ran its route stands. -/
def CommandPhase.ran (number : ℕ) : CommandPhase δ ε → Prop
  | .leading | .raised _ => True
  | .following _ => False
  | .answered _ source => source = some number

namespace CommandServer

/-- A thread has run the command of a request, and stands in some way. -/
def Ran (server : CommandServer φ δ ε) (number : ℕ) (request : CommandRequest φ)
    (phase : CommandPhase δ ε) : Prop :=
  ∃ requestId, server.threads number = some ⟨{ request with requestId }, phase⟩ ∧
    phase.ran number ∧ (number, request.key) ∈ server.runs

/-- What holds between the steps: the flights are those of the threads in their routes, every
answer and record is that of a run, and while the keys fit no answer to be kept is lost. -/
structure Sound (server : CommandServer φ δ ε) : Prop where
  store : server.records.Sound
  flights : ∀ key flight, server.flights key = some flight →
    ∃ request, server.threads flight.leader = some ⟨request, .leading⟩ ∧ request.key = key ∧
      request.fingerprint = flight.fingerprint
  leading : ∀ number request, server.threads number = some ⟨request, .leading⟩ →
    server.flights request.key = some ⟨request.fingerprint, number⟩ ∧
      server.records.find request.key = none ∧ (number, request.key) ∈ server.runs
  following : ∀ number request leader,
    server.threads number = some ⟨request, .following leader⟩ →
      ∃ phase, server.Ran leader request phase
  records : ∀ key receipt, server.records.find key = some receipt →
    ∃ requestId, server.Ran receipt.result.1 ⟨key, receipt.fingerprint, requestId⟩
      (.answered receipt.result.2 (some receipt.result.1))
  answered : ∀ number request response source,
    server.threads number = some ⟨request, .answered response (some source)⟩ →
      ∃ outcome, server.Ran source request (.answered outcome (some source)) ∧
        (source ≠ number → response = replayResponseForRequest outcome request.requestId)
  runs : ∀ run ∈ server.runs, ∃ request phase, server.threads run.1 = some ⟨request, phase⟩ ∧
    phase.ran run.1 ∧ request.key = run.2
  nodup : (server.runs.map Prod.fst).Nodup
  order : ∀ key ∈ server.records.order, key ∈ server.runs.map Prod.snd
  kept : (server.runs.map Prod.snd).toFinset.card ≤ maxIdempotencyRecords →
    ∀ number request response, server.threads number =
      some ⟨request, .answered response (some number)⟩ → response.isStored = true →
      server.records.find request.key = some ⟨request.fingerprint, (number, response)⟩

variable {server : CommandServer φ δ ε} {number : ℕ} {request : CommandRequest φ}
  {phase : CommandPhase δ ε}

theorem sound_empty : ({} : CommandServer φ δ ε).Sound where
  store := ReceiptStore.sound_empty
  flights := by simp
  leading := by simp
  following := by simp
  records _ _ h := by cases h
  answered := by simp
  runs := by simp
  nodup := List.nodup_nil
  order := by simp
  kept := by simp

theorem put_self : (server.put number request phase).threads number = some ⟨request, phase⟩ :=
  Function.update_self ..

theorem put_of_ne {other : ℕ} (hne : other ≠ number) :
    (server.put number request phase).threads other = server.threads other :=
  Function.update_of_ne hne ..

theorem put_cases {other : ℕ} {thread : CommandThread φ δ ε}
    (h : (server.put number request phase).threads other = some thread) :
    (other = number ∧ thread = ⟨request, phase⟩) ∨
      other ≠ number ∧ server.threads other = some thread := by
  by_cases heq : other = number
  · rw [heq, put_self] at h
    exact .inl ⟨heq, (Option.some.inj h).symm⟩
  · rw [put_of_ne heq] at h
    exact .inr ⟨heq, h⟩

/-- A run is still there when another thread goes on. -/
theorem Ran.put {other : ℕ} {command : CommandRequest φ} {outcome : CommandPhase δ ε}
    (h : server.Ran other command outcome) (hne : other ≠ number) :
    (server.put number request phase).Ran other command outcome := by
  obtain ⟨requestId, hthread, hran, hmem⟩ := h
  exact ⟨requestId, (Function.update_of_ne hne ..).trans hthread, hran, hmem⟩

/-- What a thread that has run nothing may come to. -/
def Justified (server : CommandServer φ δ ε) (request : CommandRequest φ) :
    CommandPhase δ ε → Prop
  | .leading => False
  | .following leader => ∃ phase, server.Ran leader request phase
  | .answered _ none | .raised _ => True
  | .answered response (some source) => ∃ outcome,
      server.Ran source request (.answered outcome (some source)) ∧
        response = replayResponseForRequest outcome request.requestId

/-- A thread that runs nothing goes on. -/
theorem Sound.put (h : server.Sound)
    (hbefore : ∀ thread, server.threads number = some thread →
      ∃ leader, thread.phase = .following leader)
    (hphase : server.Justified request phase) : (server.put number request phase).Sound := by
  have hran : ∀ {other command outcome}, server.Ran other command outcome →
      (server.put number request phase).Ran other command outcome := by
    intro other command outcome hother
    refine hother.put ?_
    rintro rfl
    obtain ⟨requestId, hthread, hstands, -⟩ := hother
    obtain ⟨leader, hleader⟩ := hbefore _ hthread
    cases hleader
    exact hstands
  have hnot : ∀ {other command outcome}, server.threads other = some ⟨command, outcome⟩ →
      outcome.ran other → other ≠ number := by
    rintro other command outcome hthread hstands rfl
    obtain ⟨leader, hleader⟩ := hbefore _ hthread
    cases hleader
    exact hstands
  refine ⟨h.store, ?_, ?_, ?_, ?_, ?_, ?_, h.nodup, h.order, ?_⟩
  · intro key flight hflight
    obtain ⟨command, hthread, hrest⟩ := h.flights key flight hflight
    exact ⟨command, (Function.update_of_ne (hnot hthread trivial) ..).trans hthread, hrest⟩
  · intro other command hthread
    rcases put_cases hthread with ⟨-, heq⟩ | ⟨-, hthread⟩
    · cases heq
      cases hphase
    · exact h.leading other command hthread
  · intro other command leader hthread
    rcases put_cases hthread with ⟨-, heq⟩ | ⟨-, hthread⟩
    · cases heq
      obtain ⟨outcome, hleader⟩ := hphase
      exact ⟨outcome, hran hleader⟩
    · obtain ⟨outcome, hleader⟩ := h.following other command leader hthread
      exact ⟨outcome, hran hleader⟩
  · intro key receipt hfind
    obtain ⟨requestId, hsource⟩ := h.records key receipt hfind
    exact ⟨requestId, hran hsource⟩
  · intro other command response source hthread
    rcases put_cases hthread with ⟨-, heq⟩ | ⟨-, hthread⟩
    · cases heq
      obtain ⟨outcome, hsource, hresponse⟩ := hphase
      exact ⟨outcome, hran hsource, fun _ => hresponse⟩
    · obtain ⟨outcome, hsource, hresponse⟩ := h.answered other command response source hthread
      exact ⟨outcome, hran hsource, hresponse⟩
  · intro run hrun
    obtain ⟨command, outcome, hthread, hstands, hkey⟩ := h.runs run hrun
    exact ⟨command, outcome,
      (Function.update_of_ne (hnot hthread hstands) ..).trans hthread, hstands, hkey⟩
  · intro hcard other command response hthread hstored
    rcases put_cases hthread with ⟨rfl, heq⟩ | ⟨-, hthread⟩
    · cases heq
      obtain ⟨outcome, hsource, -⟩ := hphase
      obtain ⟨requestId, hrun, hstands, -⟩ := hsource
      exact absurd rfl (hnot hrun hstands)
    · exact h.kept hcard other command response hthread hstored

/-- A new thread reserves its key. -/
theorem Sound.reserve (h : server.Sound) (hnew : server.threads number = none)
    (hrecord : server.records.find request.key = none)
    (hflight : server.flights request.key = none) :
    Sound { server.put number request .leading with
      flights := Function.update server.flights request.key (some ⟨request.fingerprint, number⟩)
      runs := server.runs ++ [(number, request.key)] } := by
  have hother : ∀ {other thread}, server.threads other = some thread → other ≠ number := by
    rintro other thread hthread rfl
    rw [hnew] at hthread
    cases hthread
  have hran : ∀ {other command outcome}, server.Ran other command outcome →
      Ran { server.put number request .leading with
        flights := Function.update server.flights request.key (some ⟨request.fingerprint, number⟩)
        runs := server.runs ++ [(number, request.key)] } other command outcome := by
    rintro other command outcome ⟨requestId, hthread, hstands, hmem⟩
    exact ⟨requestId, (put_of_ne (hother hthread)).trans hthread, hstands,
      List.mem_append_left _ hmem⟩
  refine ⟨h.store, ?_, ?_, ?_, ?_, ?_, ?_, ?_, ?_, ?_⟩
  · intro key flight hkey
    by_cases heq : key = request.key
    · subst heq
      have hsame := (Function.update_self ..).symm.trans hkey
      cases hsame
      exact ⟨request, put_self, rfl, rfl⟩
    · obtain ⟨command, hthread, hrest⟩ :=
        h.flights key flight ((Function.update_of_ne heq ..).symm.trans hkey)
      exact ⟨command, (put_of_ne (hother hthread)).trans hthread, hrest⟩
  · intro other command hthread
    rcases put_cases hthread with ⟨rfl, heq⟩ | ⟨-, hthread⟩
    · cases heq
      exact ⟨Function.update_self .., hrecord, List.mem_append_right _ List.mem_cons_self⟩
    · obtain ⟨hreserved, hfind, hmem⟩ := h.leading other command hthread
      have hne : command.key ≠ request.key := by
        intro heq
        rw [heq, hflight] at hreserved
        cases hreserved
      exact ⟨(Function.update_of_ne hne ..).trans hreserved, hfind, List.mem_append_left _ hmem⟩
  · intro other command leader hthread
    rcases put_cases hthread with ⟨-, heq⟩ | ⟨-, hthread⟩
    · cases heq
    · obtain ⟨outcome, hleader⟩ := h.following other command leader hthread
      exact ⟨outcome, hran hleader⟩
  · intro key receipt hfind
    obtain ⟨requestId, hsource⟩ := h.records key receipt hfind
    exact ⟨requestId, hran hsource⟩
  · intro other command response source hthread
    rcases put_cases hthread with ⟨-, heq⟩ | ⟨-, hthread⟩
    · cases heq
    · obtain ⟨outcome, hsource, hresponse⟩ := h.answered other command response source hthread
      exact ⟨outcome, hran hsource, hresponse⟩
  · intro run hrun
    rcases List.mem_append.mp hrun with hrun | hrun
    · obtain ⟨command, outcome, hthread, hrest⟩ := h.runs run hrun
      exact ⟨command, outcome, (put_of_ne (hother hthread)).trans hthread, hrest⟩
    · cases List.mem_singleton.mp hrun
      exact ⟨request, .leading, put_self, trivial, rfl⟩
  · rw [List.map_append, List.nodup_append]
    refine ⟨h.nodup, List.nodup_singleton _, ?_⟩
    rintro other hmem last hlast rfl
    obtain ⟨run, hrun, rfl⟩ := List.mem_map.mp hmem
    obtain ⟨command, outcome, hthread, -⟩ := h.runs run hrun
    exact hother hthread (List.mem_singleton.mp hlast)
  · intro key hkey
    rw [List.map_append]
    exact List.mem_append_left _ (h.order key hkey)
  · intro hcard other command response hthread hstored
    rcases put_cases hthread with ⟨-, heq⟩ | ⟨-, hthread⟩
    · cases heq
    · refine h.kept ((Finset.card_le_card ?_).trans hcard) other command response hthread hstored
      rw [List.map_append, List.toFinset_append]
      exact Finset.subset_union_left

/-- The thread that leads a flight ends it, and may leave a record. -/
theorem Sound.ends (h : server.Sound) (hlead : server.threads number = some ⟨request, .leading⟩)
    (phase : CommandPhase δ ε) (records : ReceiptStore String φ (ℕ × TransportResponse δ))
    (hphase : phase.ran number) (hends : phase ≠ .leading) (hstore : records.Sound)
    (horder : records.order ⊆ server.records.order ++ [request.key])
    (hrecords : ∀ key receipt, records.find key = some receipt →
      server.records.find key = some receipt ∨ key = request.key ∧ ∃ response,
        phase = .answered response (some number) ∧
          receipt = ⟨request.fingerprint, (number, response)⟩)
    (hkept : (server.runs.map Prod.snd).toFinset.card ≤ maxIdempotencyRecords →
      (∀ key receipt, server.records.find key = some receipt →
        records.find key = some receipt) ∧
      ∀ response, phase = .answered response (some number) → response.isStored = true →
        records.find request.key = some ⟨request.fingerprint, (number, response)⟩) :
    Sound { server.put number request phase with
      records
      flights := Function.update server.flights request.key none } := by
  obtain ⟨hreserved, hfree, hrun⟩ := h.leading number request hlead
  have hran : ∀ {other command outcome}, server.Ran other command outcome →
      outcome ≠ .leading → Ran { server.put number request phase with
        records
        flights := Function.update server.flights request.key none } other command outcome := by
    rintro other command outcome ⟨requestId, hthread, hstands, hmem⟩ hne
    refine ⟨requestId, (put_of_ne ?_).trans hthread, hstands, hmem⟩
    rintro rfl
    rw [hlead] at hthread
    exact hne (congrArg CommandThread.phase (Option.some.inj hthread)).symm
  have hself : ∀ requestId, Ran { server.put number request phase with
      records
      flights := Function.update server.flights request.key none } number
      { request with requestId } phase :=
    fun _ => ⟨request.requestId, put_self, hphase, hrun⟩
  refine ⟨hstore, ?_, ?_, ?_, ?_, ?_, ?_, h.nodup, ?_, ?_⟩
  · intro key flight hkey
    by_cases heq : key = request.key
    · subst heq
      have hsame := (Function.update_self ..).symm.trans hkey
      cases hsame
    · obtain ⟨command, hthread, hrest⟩ :=
        h.flights key flight ((Function.update_of_ne heq ..).symm.trans hkey)
      refine ⟨command, (put_of_ne ?_).trans hthread, hrest⟩
      intro hleader
      rw [hleader, hlead] at hthread
      cases hthread
      exact heq hrest.1.symm
  · intro other command hthread
    rcases put_cases hthread with ⟨-, heq⟩ | ⟨hother, hthread⟩
    · cases heq
      exact absurd rfl hends
    · obtain ⟨hkey, hfind, hmem⟩ := h.leading other command hthread
      have hne : command.key ≠ request.key := by
        intro heq
        rw [heq, hreserved] at hkey
        exact hother (congrArg CommandFlight.leader (Option.some.inj hkey)).symm
      refine ⟨(Function.update_of_ne hne ..).trans hkey, ?_, hmem⟩
      show records.find command.key = none
      cases hfound : records.find command.key with
      | none => rfl
      | some receipt =>
          rcases hrecords _ _ hfound with hold | ⟨heq, -⟩
          · rw [hfind] at hold
            cases hold
          · exact absurd heq hne
  · intro other command leader hthread
    rcases put_cases hthread with ⟨-, heq⟩ | ⟨-, hthread⟩
    · cases heq
      exact hphase.elim
    · obtain ⟨outcome, requestId, hleader, hstands, hmem⟩ :=
        h.following other command leader hthread
      by_cases heq : leader = number
      · subst heq
        rw [hlead] at hleader
        have hrequest : request = { command with requestId } :=
          congrArg CommandThread.request (Option.some.inj hleader)
        exact ⟨phase, requestId, by rw [← hrequest]; exact put_self, hphase, hmem⟩
      · exact ⟨outcome, requestId, (put_of_ne heq).trans hleader, hstands, hmem⟩
  · intro key receipt hfind
    rcases hrecords key receipt hfind with hold | ⟨rfl, response, rfl, rfl⟩
    · obtain ⟨requestId, hsource⟩ := h.records key receipt hold
      exact ⟨requestId, hran hsource (by simp)⟩
    · exact ⟨request.requestId, hself request.requestId⟩
  · intro other command response source hthread
    rcases put_cases hthread with ⟨rfl, heq⟩ | ⟨-, hthread⟩
    · cases heq
      cases hphase
      exact ⟨response, hself request.requestId, fun hne => absurd rfl hne⟩
    · obtain ⟨outcome, hsource, hresponse⟩ := h.answered other command response source hthread
      exact ⟨outcome, hran hsource (by simp), hresponse⟩
  · intro run hmem
    obtain ⟨command, outcome, hthread, hstands, hkey⟩ := h.runs run hmem
    by_cases heq : run.1 = number
    · rw [heq, hlead] at hthread
      cases hthread
      exact ⟨request, phase, by rw [heq]; exact put_self, heq ▸ hphase, hkey⟩
    · exact ⟨command, outcome, (put_of_ne heq).trans hthread, hstands, hkey⟩
  · intro key hkey
    rcases List.mem_append.mp (horder hkey) with hold | hlast
    · exact h.order key hold
    · rw [List.mem_singleton.mp hlast]
      exact List.mem_map.mpr ⟨_, hrun, rfl⟩
  · intro hcard other command response hthread hstored
    obtain ⟨hold, hnew⟩ := hkept hcard
    rcases put_cases hthread with ⟨rfl, heq⟩ | ⟨-, hthread⟩
    · cases heq
      exact hnew response rfl hstored
    · exact hold _ _ (h.kept hcard other command response hthread hstored)

theorem popFlight_threads (server : CommandServer φ δ ε) (number : ℕ) (key : String) :
    (server.popFlight number key).threads = server.threads := by
  unfold popFlight
  split <;> rfl

theorem storeIdempotencyResponse_threads (server : CommandServer φ δ ε) (number : ℕ)
    (request : CommandRequest φ) (response : TransportResponse δ) :
    (server.storeIdempotencyResponse number request response).threads = server.threads := by
  unfold storeIdempotencyResponse
  split <;> rfl

/-- The flight of a thread in its route is its own. -/
theorem Sound.popFlight_eq (h : server.Sound)
    (hlead : server.threads number = some ⟨request, .leading⟩) :
    server.popFlight number request.key =
      { server with flights := Function.update server.flights request.key none } := by
  rw [popFlight, (h.leading number request hlead).1]
  exact if_pos rfl

theorem Sound.raises (h : server.Sound)
    (hlead : server.threads number = some ⟨request, .leading⟩) (error : ε) :
    ((server.popFlight number request.key).put number request (.raised error)).Sound := by
  rw [h.popFlight_eq hlead]
  refine h.ends hlead (.raised error) server.records trivial (by simp) h.store
    (List.subset_append_left _ _) (fun key receipt hfind => .inl hfind) fun _ => ?_
  exact ⟨fun key receipt hfind => hfind, by simp⟩

/-- The keys of the order and a new key that was run fit when the keys that were run do. -/
theorem Sound.order_lt (h : server.Sound) (hfree : server.records.find request.key = none)
    (hrun : (number, request.key) ∈ server.runs)
    (hcard : (server.runs.map Prod.snd).toFinset.card ≤ maxIdempotencyRecords) :
    server.records.order.length < maxIdempotencyRecords := by
  have hsubset : (server.records.order ++ [request.key]).toFinset ⊆
      (server.runs.map Prod.snd).toFinset := by
    intro key hkey
    rw [List.mem_toFinset] at hkey ⊢
    rcases List.mem_append.mp hkey with hold | hlast
    · exact h.order key hold
    · rw [List.mem_singleton.mp hlast]
      exact List.mem_map.mpr ⟨_, hrun, rfl⟩
  have hle := (Finset.card_le_card hsubset).trans hcard
  rw [List.toFinset_card_of_nodup (h.store.nodup_append hfree), List.length_append,
    List.length_singleton] at hle
  omega

theorem Sound.finish (h : server.Sound)
    (hlead : server.threads number = some ⟨request, .leading⟩) (response : TransportResponse δ) :
    (server.finish number request response).Sound := by
  obtain ⟨hreserved, hfree, hrun⟩ := h.leading number request hlead
  unfold CommandServer.finish storeIdempotencyResponse popFlight
  by_cases hstored : response.isStored = true
  · simp only [hstored, hfree, Option.isNone_none, Bool.and_true, if_true, hreserved,
      Option.map_some]
    obtain ⟨hstore, horder, hfind⟩ := h.store.record_forgets hfree
    refine h.ends hlead (.answered response (some number)) _ rfl (by simp) hstore horder
      (fun key receipt hreceipt => ?_) fun hcard => ?_
    · rcases hfind key receipt hreceipt with hold | ⟨hkey, rfl⟩
      · exact .inl hold
      · exact .inr ⟨hkey, response, rfl, rfl⟩
    · have hlt := h.order_lt hfree hrun hcard
      refine ⟨fun key receipt hold => ?_, fun other heq _ => ?_⟩
      · have hne : key ≠ request.key := by
          rintro rfl
          rw [hfree] at hold
          cases hold
        rw [ReceiptStore.find_record_of_ne hne hlt]
        exact hold
      · cases heq
        exact ReceiptStore.find_record_self hlt
  · simp only [hstored, Bool.false_and, Bool.false_eq_true, if_false, hreserved, Option.map_some,
      if_true]
    refine h.ends hlead (.answered response (some number)) server.records rfl (by simp) h.store
      (List.subset_append_left _ _) (fun key receipt hfind => .inl hfind) fun _ => ?_
    refine ⟨fun key receipt hfind => hfind, fun other heq hother => ?_⟩
    cases heq
    exact absurd hother hstored

variable [DecidableEq φ] {conflict : δ}

theorem Sound.dispatch (h : server.Sound) (hnew : server.threads number = none) :
    (server.dispatch conflict number request).Sound := by
  have hbefore : ∀ thread, server.threads number = some thread →
      ∃ leader, thread.phase = .following leader := by
    intro thread hthread
    rw [hnew] at hthread
    cases hthread
  unfold CommandServer.dispatch
  cases hrecord : server.records.find request.key with
  | some receipt =>
      refine h.put hbefore ?_
      by_cases hsame : receipt.fingerprint = request.fingerprint
      · rw [if_pos hsame]
        obtain ⟨requestId, hsource⟩ := h.records request.key receipt hrecord
        refine ⟨receipt.result.2, ?_, rfl⟩
        rw [hsame] at hsource
        exact hsource
      · rw [if_neg hsame]
        exact trivial
  | none =>
      cases hflight : server.flights request.key with
      | some flight =>
          refine h.put hbefore ?_
          by_cases hsame : flight.fingerprint = request.fingerprint
          · rw [if_pos hsame]
            obtain ⟨command, hthread, hkey, hprint⟩ := h.flights request.key flight hflight
            refine ⟨.leading, command.requestId, ?_, trivial, ?_⟩
            · rw [hthread, ← hkey, ← hsame, ← hprint]
            · rw [← hkey]
              exact (h.leading _ _ hthread).2.2
          · rw [if_neg hsame]
            exact trivial
      | none => exact h.reserve hnew hrecord hflight

theorem Sound.wake (h : server.Sound) : (server.step conflict (.wake number)).Sound := by
  unfold CommandServer.step
  dsimp only
  split
  swap
  · exact h
  rename_i request leader hthread
  have hbefore : ∀ thread, server.threads number = some thread →
      ∃ leader, thread.phase = .following leader := by
    intro thread hsome
    rw [hthread] at hsome
    cases hsome
    exact ⟨leader, rfl⟩
  obtain ⟨phase, requestId, hleader, hstands, hmem⟩ := h.following number request leader hthread
  split
  · rename_i other response source hother
    rw [hleader] at hother
    have hphase : phase = .answered response source :=
      congrArg CommandThread.phase (Option.some.inj hother)
    subst hphase
    cases hstands
    exact h.put hbefore ⟨response, ⟨requestId, hleader, rfl, hmem⟩, rfl⟩
  · exact h.put hbefore trivial
  · exact h

theorem Sound.step (h : server.Sound) (input : ServerInput φ δ ε) :
    (server.step conflict input).Sound := by
  cases input with
  | arrive number request =>
      unfold CommandServer.step
      dsimp only
      split
      · rename_i hnew
        exact h.dispatch hnew
      · exact h
  | returns number response =>
      unfold CommandServer.step
      dsimp only
      split
      · rename_i request hlead
        exact h.finish hlead response
      · exact h
  | raises number error =>
      unfold CommandServer.step
      dsimp only
      split
      · rename_i request hlead
        exact h.raises hlead error
      · exact h
  | wake number => exact h.wake

/-- A server from its start on. -/
def run (conflict : δ) (inputs : List (ServerInput φ δ ε)) : CommandServer φ δ ε :=
  inputs.foldl (step conflict) {}

theorem sound_run (conflict : δ) (inputs : List (ServerInput φ δ ε)) :
    (run conflict inputs).Sound := by
  have hfold : ∀ server : CommandServer φ δ ε, server.Sound →
      (inputs.foldl (CommandServer.step conflict) server).Sound := by
    induction inputs with
    | nil => exact fun _ h => h
    | cons input inputs ih => exact fun server h => ih _ (h.step input)
  exact hfold {} sound_empty

/-! ### Conflicts -/

/-- A step moves one thread: a new one to what the first section decides, the leader of a flight
to its end, or a follower to the end of its leader. -/
theorem step_threads (conflict : δ) (server : CommandServer φ δ ε) (input : ServerInput φ δ ε)
    (other : ℕ) :
    (server.step conflict input).threads other = server.threads other ∨
      (∃ request, input = .arrive other request ∧ server.threads other = none) ∨
      (∃ request phase, server.threads other = some ⟨request, .leading⟩ ∧ phase.ran other ∧
        (server.step conflict input).threads other = some ⟨request, phase⟩ ∧
        ∀ response, phase ≠ .answered response none) ∨
      ∃ request leader phase, server.threads other = some ⟨request, .following leader⟩ ∧
        (server.step conflict input).threads other = some ⟨request, phase⟩ ∧
        ∀ response, phase ≠ .answered response none := by
  cases input with
  | arrive number request =>
      by_cases heq : other = number
      · subst heq
        cases hnew : server.threads other with
        | none => exact .inr (.inl ⟨request, rfl, rfl⟩)
        | some thread => exact .inl (by simp only [CommandServer.step, hnew])
      · left
        unfold CommandServer.step dispatch
        dsimp only
        split
        · split
          · exact put_of_ne heq
          · split <;> exact put_of_ne heq
        · rfl
  | returns number response =>
      unfold CommandServer.step
      dsimp only
      split
      · rename_i request hlead
        by_cases heq : other = number
        · subst heq
          exact .inr (.inr (.inl ⟨request, .answered response (some other), hlead, rfl, put_self,
            by simp⟩))
        · left
          rw [CommandServer.finish, put_of_ne heq, popFlight_threads,
            storeIdempotencyResponse_threads]
      · exact .inl rfl
  | raises number error =>
      unfold CommandServer.step
      dsimp only
      split
      · rename_i request hlead
        by_cases heq : other = number
        · subst heq
          exact .inr (.inr (.inl ⟨request, .raised error, hlead, trivial, put_self, by simp⟩))
        · left
          rw [put_of_ne heq, popFlight_threads]
      · exact .inl rfl
  | wake number =>
      unfold CommandServer.step
      dsimp only
      split
      · rename_i request leader hthread
        by_cases heq : other = number
        · subst heq
          split
          · exact .inr (.inr (.inr ⟨request, leader, _, hthread, put_self, by simp⟩))
          · exact .inr (.inr (.inr ⟨request, leader, _, hthread, put_self, by simp⟩))
          · exact .inl rfl
        · left
          split
          · exact put_of_ne heq
          · exact put_of_ne heq
          · rfl
      · exact .inl rfl

/-- A thread that has run its command stays one that has. -/
theorem ran_step {command : CommandRequest φ} (hthread : server.threads number =
      some ⟨command, phase⟩) (hran : phase.ran number) (input : ServerInput φ δ ε) :
    ∃ next, (server.step conflict input).threads number = some ⟨command, next⟩ ∧
      next.ran number := by
  rcases step_threads conflict server input number with
    hsame | ⟨request, -, hnew⟩ | ⟨request, next, hlead, hnext, hstep, -⟩ |
      ⟨request, leader, next, hfollow, -, -⟩
  · exact ⟨phase, hsame.trans hthread, hran⟩
  · rw [hthread] at hnew
    cases hnew
  · rw [hthread] at hlead
    cases hlead
    exact ⟨next, hstep, hnext⟩
  · rw [hthread] at hfollow
    cases hfollow
    exact hran.elim

/-- An answer that is from no run is a conflict with a run of the same key and other content. -/
def Conflicting (conflict : δ) (server : CommandServer φ δ ε) : Prop :=
  ∀ number request response, server.threads number = some ⟨request, .answered response none⟩ →
    response = idempotencyConflict conflict request.requestId ∧
      ∃ source command phase, server.threads source = some ⟨command, phase⟩ ∧
        phase.ran source ∧ command.key = request.key ∧
        command.fingerprint ≠ request.fingerprint

/-- The first section answers without a run when the key has come with other content. -/
theorem Sound.dispatch_conflict (h : server.Sound) {sent : CommandRequest φ}
    {response : TransportResponse δ}
    (hanswered : (server.dispatch conflict number sent).threads number =
      some ⟨request, .answered response none⟩) :
    response = idempotencyConflict conflict request.requestId ∧
      ∃ source command phase, server.threads source = some ⟨command, phase⟩ ∧
        phase.ran source ∧ command.key = request.key ∧
        command.fingerprint ≠ request.fingerprint := by
  unfold CommandServer.dispatch at hanswered
  cases hrecord : server.records.find sent.key with
  | some receipt =>
      simp only [hrecord, put_self, Option.some.injEq, CommandThread.mk.injEq] at hanswered
      obtain ⟨rfl, hanswered⟩ := hanswered
      by_cases hsame : receipt.fingerprint = sent.fingerprint
      · rw [if_pos hsame] at hanswered
        cases hanswered
      · rw [if_neg hsame] at hanswered
        cases hanswered
        obtain ⟨_, requestId, hthread, hran, -⟩ := h.records sent.key receipt hrecord
        exact ⟨rfl, _, _, _, hthread, hran, rfl, hsame⟩
  | none =>
      cases hflight : server.flights sent.key with
      | some flight =>
          simp only [hrecord, hflight, put_self, Option.some.injEq, CommandThread.mk.injEq]
            at hanswered
          obtain ⟨rfl, hanswered⟩ := hanswered
          by_cases hsame : flight.fingerprint = sent.fingerprint
          · rw [if_pos hsame] at hanswered
            cases hanswered
          · rw [if_neg hsame] at hanswered
            cases hanswered
            obtain ⟨command, hthread, hkey, hprint⟩ := h.flights sent.key flight hflight
            exact ⟨rfl, _, _, _, hthread, trivial, hkey, hprint ▸ hsame⟩
      | none =>
          simp [hrecord, hflight, put_self] at hanswered

theorem Sound.conflicting_step (h : server.Sound) (hbefore : server.Conflicting conflict)
    (input : ServerInput φ δ ε) : (server.step conflict input).Conflicting conflict := by
  intro number request response hthread
  have hwas : response = idempotencyConflict conflict request.requestId ∧
      ∃ source command phase, server.threads source = some ⟨command, phase⟩ ∧
        phase.ran source ∧ command.key = request.key ∧
        command.fingerprint ≠ request.fingerprint := by
    rcases step_threads conflict server input number with
      hsame | ⟨other, rfl, hnew⟩ | ⟨_, next, -, -, hstep, hnot⟩ | ⟨_, _, next, -, hstep, hnot⟩
    · exact hbefore number request response (hsame.symm.trans hthread)
    · have hdispatch : server.step conflict (.arrive number other) =
          server.dispatch conflict number other := by
        simp only [CommandServer.step, hnew]
      rw [hdispatch] at hthread
      exact h.dispatch_conflict hthread
    · rw [hstep] at hthread
      cases hthread
      exact absurd rfl (hnot response)
    · rw [hstep] at hthread
      cases hthread
      exact absurd rfl (hnot response)
  obtain ⟨hresponse, source, command, phase, hsource, hran, hrest⟩ := hwas
  obtain ⟨next, hnext, hstands⟩ := ran_step hsource hran input
  exact ⟨hresponse, source, command, next, hnext, hstands, hrest⟩

theorem conflicting_run (conflict : δ) (inputs : List (ServerInput φ δ ε)) :
    (run conflict inputs).Conflicting conflict := by
  have hfold : ∀ server : CommandServer φ δ ε, server.Sound → server.Conflicting conflict →
      (inputs.foldl (CommandServer.step conflict) server).Conflicting conflict := by
    induction inputs with
    | nil => exact fun _ _ h => h
    | cons input inputs ih =>
        exact fun server h hserver => ih _ (h.step input) (h.conflicting_step hserver input)
  exact hfold {} sound_empty (by simp [Conflicting])

/-- Who waits, waits for a run of the same command, and is told how it ends. -/
theorem Sound.waits (h : server.Sound) {leader : ℕ}
    (hthread : server.threads number = some ⟨request, .following leader⟩) :
    ∃ command phase, server.threads leader = some ⟨command, phase⟩ ∧
      command.key = request.key ∧ command.fingerprint = request.fingerprint ∧
      (phase = .leading ∨
        (∃ outcome, phase = .answered outcome (some leader) ∧
          (server.step conflict (.wake number)).threads number = some ⟨request,
            .answered (replayResponseForRequest outcome request.requestId) (some leader)⟩) ∨
        ∃ error, phase = .raised error ∧
          (server.step conflict (.wake number)).threads number =
            some ⟨request, .raised error⟩) := by
  obtain ⟨phase, requestId, hleader, hstands, -⟩ := h.following number request leader hthread
  refine ⟨_, phase, hleader, rfl, rfl, ?_⟩
  cases phase with
  | leading => exact .inl rfl
  | following => exact hstands.elim
  | answered outcome source =>
      cases hstands
      refine .inr (.inl ⟨outcome, rfl, ?_⟩)
      simp only [CommandServer.step, hthread, hleader]
      exact put_self
  | raised error =>
      refine .inr (.inr ⟨error, rfl, ?_⟩)
      simp only [CommandServer.step, hthread, hleader]
      exact put_self

/-- A command whose answer is kept is not run again. -/
theorem Sound.replays (h : server.Sound)
    (hcard : (server.runs.map Prod.snd).toFinset.card ≤ maxIdempotencyRecords)
    {response : TransportResponse δ}
    (hthread : server.threads number = some ⟨request, .answered response (some number)⟩)
    (hstored : response.isStored = true) {later : ℕ} {repeated : CommandRequest φ}
    (hnew : server.threads later = none) (hkey : repeated.key = request.key) :
    (server.step conflict (.arrive later repeated)).threads later = some ⟨repeated,
      if request.fingerprint = repeated.fingerprint then
        .answered (replayResponseForRequest response repeated.requestId) (some number)
      else .answered (idempotencyConflict conflict repeated.requestId) none⟩ := by
  have hkept := h.kept hcard number request response hthread hstored
  rw [← hkey] at hkept
  simp only [CommandServer.step, hnew, CommandServer.dispatch, hkept]
  exact put_self

/-- A new command with a free key and without a record is run. -/
theorem arrive_leads {later : ℕ} (hnew : server.threads later = none)
    (hrecord : server.records.find request.key = none)
    (hflight : server.flights request.key = none) :
    (server.step conflict (.arrive later request)).threads later =
      some ⟨request, .leading⟩ := by
  simp only [CommandServer.step, hnew, CommandServer.dispatch, hrecord, hflight]
  exact put_self

end CommandServer

/-- Commands are run once for all who send them.  Whatever requests come in which order, and
however their routes end: a key is in the route of one thread at a time, and when no thread is
in its route it is free, and a new command of it that has no record is run; who is answered
has the answer of a run of the same command under the same key, with its own request identity
when the run is another thread's, or else a conflict, and then a command of this key with other
content was run; who waits has such a run to wait for and is told how it ends.  As long as no
more keys were run than are remembered, a command with an answer that is to be kept is not run
again: later requests of its key have that answer or a conflict, and no other run of it ends
with one. -/
theorem command_flights_law {φ δ ε : Type} [DecidableEq φ] (conflict : δ)
    (inputs : List (ServerInput φ δ ε)) (server : CommandServer φ δ ε)
    (hrun : CommandServer.run conflict inputs = server) :
    (∀ first second request other, server.threads first = some ⟨request, .leading⟩ →
      server.threads second = some ⟨other, .leading⟩ → request.key = other.key →
        first = second) ∧
    (∀ key, (∀ number request, server.threads number = some ⟨request, .leading⟩ →
        request.key ≠ key) →
      server.flights key = none ∧
        ∀ later request, request.key = key → server.records.find key = none →
          server.threads later = none →
            (server.step conflict (.arrive later request)).threads later =
              some ⟨request, .leading⟩) ∧
    (∀ number request response source,
      server.threads number = some ⟨request, .answered response (some source)⟩ →
        ∃ command outcome, server.threads source =
          some ⟨command, .answered outcome (some source)⟩ ∧ command.key = request.key ∧
          command.fingerprint = request.fingerprint ∧
          (server.runs.map Prod.fst).count source = 1 ∧
          (source ≠ number →
            response = replayResponseForRequest outcome request.requestId)) ∧
    (∀ number request response,
      server.threads number = some ⟨request, .answered response none⟩ →
        response = idempotencyConflict conflict request.requestId ∧
          ∃ source command phase, server.threads source = some ⟨command, phase⟩ ∧
            phase.ran source ∧ command.key = request.key ∧
            command.fingerprint ≠ request.fingerprint) ∧
    (∀ number request leader, server.threads number = some ⟨request, .following leader⟩ →
      ∃ command phase, server.threads leader = some ⟨command, phase⟩ ∧
        command.key = request.key ∧ command.fingerprint = request.fingerprint ∧
        (phase = .leading ∨
          (∃ outcome, phase = .answered outcome (some leader) ∧
            (server.step conflict (.wake number)).threads number = some ⟨request,
              .answered (replayResponseForRequest outcome request.requestId) (some leader)⟩) ∨
          ∃ error, phase = .raised error ∧
            (server.step conflict (.wake number)).threads number =
              some ⟨request, .raised error⟩)) ∧
    ((server.runs.map Prod.snd).toFinset.card ≤ maxIdempotencyRecords →
      ∀ number request response,
        server.threads number = some ⟨request, .answered response (some number)⟩ →
        response.isStored = true →
        (∀ later repeated, server.threads later = none → repeated.key = request.key →
          (server.step conflict (.arrive later repeated)).threads later = some ⟨repeated,
            if request.fingerprint = repeated.fingerprint then
              .answered (replayResponseForRequest response repeated.requestId) (some number)
            else .answered (idempotencyConflict conflict repeated.requestId) none⟩) ∧
        ∀ second other outcome,
          server.threads second = some ⟨other, .answered outcome (some second)⟩ →
          outcome.isStored = true → other.key = request.key → second = number) := by
  have h : server.Sound := hrun ▸ CommandServer.sound_run conflict inputs
  have hconflicts : server.Conflicting conflict :=
    hrun ▸ CommandServer.conflicting_run conflict inputs
  refine ⟨?_, ?_, ?_, hconflicts, fun number request leader hthread => h.waits hthread, ?_⟩
  · intro first second request other hfirst hsecond hkey
    have hone := (h.leading first request hfirst).1
    have htwo := (h.leading second other hsecond).1
    rw [hkey, htwo] at hone
    exact (congrArg CommandFlight.leader (Option.some.inj hone)).symm
  · intro key hidle
    have hfree : server.flights key = none := by
      cases hflight : server.flights key with
      | none => rfl
      | some flight =>
          obtain ⟨request, hthread, hkey, -⟩ := h.flights key flight hflight
          exact absurd hkey (hidle flight.leader request hthread)
    refine ⟨hfree, ?_⟩
    rintro later request rfl hrecord hnew
    exact CommandServer.arrive_leads hnew hrecord hfree
  · intro number request response source hthread
    obtain ⟨outcome, ⟨requestId, hsource, -, hrun⟩, hresponse⟩ :=
      h.answered number request response source hthread
    exact ⟨_, outcome, hsource, rfl, rfl,
      List.count_eq_one_of_mem h.nodup (List.mem_map.mpr ⟨_, hrun, rfl⟩), hresponse⟩
  · intro hcard number request response hthread hstored
    refine ⟨fun later repeated hnew hkey => h.replays hcard hthread hstored hnew hkey, ?_⟩
    intro second other outcome hsecond hkept hkey
    have hone := h.kept hcard number request response hthread hstored
    have htwo := h.kept hcard second other outcome hsecond hkept
    rw [hkey, hone] at htwo
    have hresult := congrArg Receipt.result (Option.some.inj htwo)
    exact (congrArg Prod.fst hresult).symm

/-- One command from two threads, of which the second waits for the first, and another command
under its key. -/
def repeatedInputs : List (ServerInput ℕ Unit Unit) :=
  [.arrive 0 ⟨"command", 0, "first"⟩, .arrive 1 ⟨"command", 0, "second"⟩,
    .arrive 2 ⟨"command", 1, "third"⟩, .returns 0 ⟨"first", 200, true, false, ()⟩, .wake 1]

theorem command_flights_law_repeated :
    (∃ command outcome, (CommandServer.run () repeatedInputs).threads 0 =
      some ⟨command, .answered outcome (some 0)⟩ ∧ command.key = "command") ∧
    (∃ response, (CommandServer.run () repeatedInputs).threads 2 =
      some ⟨⟨"command", 1, "third"⟩, .answered response none⟩ ∧ response.status = 409) := by
  obtain ⟨-, -, hanswered, hconflicts, -⟩ := command_flights_law () repeatedInputs _ rfl
  obtain ⟨command, outcome, hthread, hkey, -⟩ := hanswered 1 ⟨"command", 0, "second"⟩
    ⟨"second", 200, true, false, ()⟩ 0 rfl
  have hthird : (CommandServer.run () repeatedInputs).threads 2 =
      some ⟨⟨"command", 1, "third"⟩, .answered (idempotencyConflict () "third") none⟩ := rfl
  refine ⟨⟨command, outcome, hthread, hkey⟩, _, hthird, ?_⟩
  rw [(hconflicts 2 _ _ hthird).1]
  rfl

end Transport
