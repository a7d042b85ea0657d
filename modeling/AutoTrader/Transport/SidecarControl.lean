import AutoTrader.Transport.SidecarFrames

/-!
# The end of the sidecar process

The thread that reads the parent's control frames, and the loop that decides when the process
may end: after the parent has acknowledged the closed runtime, never because the parent is gone.

* `SidecarProcess.step` — a frame, an iteration of the loop, or a change of the runtime.
* `SidecarProcess.Sound` — what every step preserves.
* `sidecar_end_law` — when the process ends, and what it does without a parent.
-/

namespace Transport

open Framing

/-! ## The process -/

/-- `MAX_CONTROL_FRAME_BYTES`. -/
def maxControlFrameBytes : ℕ := 256

inductive ControlEvent where
  | closedAck
  | parentLost
  deriving DecidableEq, Repr

/-- Where `_read_control_frames` is: before a frame, before the look at the runtime that follows
an acknowledgement, or done. -/
inductive ControlReader where
  | reading (stream : InputStream)
  | checking (stream : InputStream)
  | ended

/-- The process.  Its last fields count the frames that were acknowledgements and what the
operations did without a parent. -/
structure SidecarProcess where
  reader : ControlReader
  controlEvent : Option ControlEvent := none
  postClosedAckReceived : Bool := false
  parentLost : Bool := false
  ownershipArtifactOrphaned : Bool := false
  ownershipAmbiguityMarked : Bool := false
  durableFlushCompleted : Bool := false
  returned : Bool := false
  runtimeClosed : Bool := false
  shutdownResponseSent : Bool := false
  activeRequests : ℕ := 0
  acknowledgements : ℕ := 0
  orphanings : ℕ := 0
  markings : ℕ := 0
  flushes : ℕ := 0

/-- What happens: the reader goes on, the loop iterates, or the server and the runtime do
something.  An iteration comes with which of its operations succeed. -/
inductive ProcessInput where
  | readFrame
  | checkClosed
  | iterate (orphans locks marks flushes : Bool)
  | runtimeCloses
  | responseSent
  | requestBegins
  | requestEnds

namespace SidecarProcess

/-- `shutdown_response_flushed`. -/
def shutdownResponseFlushed (process : SidecarProcess) : Bool :=
  process.shutdownResponseSent && process.activeRequests == 0

/-- The reader ends with an event in the queue. -/
def endReader (process : SidecarProcess) (event : ControlEvent) : SidecarProcess :=
  { process with reader := .ended, controlEvent := some event }

/-- `mark_orphaned`, unless it was done. -/
def orphan (process : SidecarProcess) (succeeds : Bool) : SidecarProcess :=
  if !process.ownershipArtifactOrphaned && succeeds then
    { process with ownershipArtifactOrphaned := true, orphanings := process.orphanings + 1 }
  else process

/-- `mark_process_ownership_ambiguous`, unless it was done. -/
def markAmbiguous (process : SidecarProcess) (succeeds : Bool) : SidecarProcess :=
  if !process.ownershipAmbiguityMarked && succeeds then
    { process with ownershipAmbiguityMarked := true, markings := process.markings + 1 }
  else process

/-- `flush_durable_state`, unless it was done. -/
def flush (process : SidecarProcess) (succeeds : Bool) : SidecarProcess :=
  if !process.durableFlushCompleted && succeeds then
    { process with durableFlushCompleted := true, flushes := process.flushes + 1 }
  else process

/-- `_enforce_parent_stop_pipe_eof_safety`. -/
def enforceParentStopPipeEofSafety (process : SidecarProcess) (locks marks flushes : Bool) :
    SidecarProcess :=
  if locks then (process.markAmbiguous marks).flush flushes else process

/-- An iteration of `_wait_for_safe_framed_ack`. -/
def iterate (process : SidecarProcess) (orphans locks marks flushes : Bool) : SidecarProcess :=
  if process.postClosedAckReceived && process.shutdownResponseFlushed then
    { process with returned := true }
  else if process.parentLost then
    (process.orphan orphans).enforceParentStopPipeEofSafety locks marks flushes
  else
    match process.controlEvent with
    | none => process
    | some .closedAck => { process with postClosedAckReceived := true, controlEvent := none }
    | some .parentLost => { process with parentLost := true, controlEvent := none }

section Steps

variable {β : Type} [DecidableEq β] (decode : List UInt8 → Except FrameError β) (closedAck : β)

def step (process : SidecarProcess) : ProcessInput → SidecarProcess
  | .readFrame =>
      match process.reader with
      | .reading stream =>
          match readJsonFrame decode maxControlFrameBytes stream with
          | (.ok (some frame), rest) =>
              if frame = closedAck then
                { process with
                  reader := .checking rest
                  acknowledgements := process.acknowledgements + 1 }
              else process.endReader .parentLost
          | _ => process.endReader .parentLost
      | _ => process
  | .checkClosed =>
      match process.reader with
      | .checking stream =>
          if process.runtimeClosed then process.endReader .closedAck
          else { process with reader := .reading stream }
      | _ => process
  | .iterate orphans locks marks flushes =>
      if process.returned then process else process.iterate orphans locks marks flushes
  | .runtimeCloses => { process with runtimeClosed := true }
  | .responseSent => { process with shutdownResponseSent := true }
  | .requestBegins => { process with activeRequests := process.activeRequests + 1 }
  | .requestEnds => { process with activeRequests := process.activeRequests - 1 }

/-- The process with the bytes that its parent will send. -/
def run (stream : InputStream) (inputs : List ProcessInput) : SidecarProcess :=
  inputs.foldl (step decode closedAck) { reader := .reading stream }

end Steps

end SidecarProcess

/-! ## What is preserved -/

/-- One frame more, at the end. -/
theorem readFrames_succ {β : Type} (decode : List UInt8 → Except FrameError β)
    (maximumBytes calls : ℕ) (stream : InputStream) :
    readFrames decode maximumBytes (calls + 1) stream =
      ((readFrames decode maximumBytes calls stream).1 ++
        [(readJsonFrame decode maximumBytes (readFrames decode maximumBytes calls stream).2).1],
        (readJsonFrame decode maximumBytes (readFrames decode maximumBytes calls stream).2).2) := by
  induction calls generalizing stream with
  | zero => simp [readFrames]
  | succ calls ih =>
      rw [readFrames, ih]
      simp [readFrames]

namespace SidecarProcess

section Laws

variable {β : Type} (decode : List UInt8 → Except FrameError β) (closedAck : β)
  (stream : InputStream)

/-- So many frames of the parent are acknowledgements. -/
def Acknowledged (count : ℕ) : Prop :=
  (readFrames decode maxControlFrameBytes count stream).1 =
    List.replicate count (.ok (some closedAck))

/-- What the reader and the loop know together. -/
inductive Knows (process : SidecarProcess) : Prop
  | reading (rest : InputStream) (hreader : process.reader = .reading rest ∨
        process.reader = .checking rest)
      (hrest : (readFrames decode maxControlFrameBytes process.acknowledgements stream).2 = rest)
      (hchecking : process.reader = .checking rest → 0 < process.acknowledgements)
      (hevent : process.controlEvent = none) (hack : process.postClosedAckReceived = false)
      (hlost : process.parentLost = false)
  | acknowledged (hreader : process.reader = .ended) (hclosed : process.runtimeClosed = true)
      (hcount : 0 < process.acknowledgements) (hlost : process.parentLost = false)
      (hevent : process.controlEvent = some .closedAck ∧ process.postClosedAckReceived = false ∨
        process.controlEvent = none ∧ process.postClosedAckReceived = true)
  | lost (hreader : process.reader = .ended)
      (hlast : ¬ Acknowledged decode closedAck stream (process.acknowledgements + 1))
      (hack : process.postClosedAckReceived = false)
      (hevent : process.controlEvent = some .parentLost ∧ process.parentLost = false ∨
        process.controlEvent = none ∧ process.parentLost = true)

structure Sound (process : SidecarProcess) : Prop where
  acknowledged : Acknowledged decode closedAck stream process.acknowledgements
  knows : Knows decode closedAck stream process
  returned : process.returned = true →
    process.postClosedAckReceived = true ∧ process.shutdownResponseSent = true
  orphanings : process.orphanings = process.ownershipArtifactOrphaned.toNat
  markings : process.markings = process.ownershipAmbiguityMarked.toNat
  flushes : process.flushes = process.durableFlushCompleted.toNat
  alone : process.parentLost = false → process.ownershipArtifactOrphaned = false ∧
    process.ownershipAmbiguityMarked = false ∧ process.durableFlushCompleted = false

variable {decode closedAck stream} {process next : SidecarProcess}

theorem Knows.congr (h : Knows decode closedAck stream process)
    (hreader : next.reader = process.reader) (hevent : next.controlEvent = process.controlEvent)
    (hack : next.postClosedAckReceived = process.postClosedAckReceived)
    (hlost : next.parentLost = process.parentLost)
    (hclosed : process.runtimeClosed = true → next.runtimeClosed = true)
    (hcount : next.acknowledgements = process.acknowledgements) :
    Knows decode closedAck stream next := by
  cases h with
  | reading rest hr hrest hchecking he ha hl =>
      exact .reading rest (hreader ▸ hr) (hcount ▸ hrest) (by rw [hreader, hcount]; exact hchecking)
        (hevent.trans he) (hack.trans ha) (hlost.trans hl)
  | acknowledged hr hc hn hl he =>
      exact .acknowledged (hreader.trans hr) (hclosed hc) (hcount ▸ hn) (hlost.trans hl)
        (by rw [hevent, hack]; exact he)
  | lost hr hn ha he =>
      exact .lost (hreader.trans hr) (hcount ▸ hn) (hack.trans ha) (by rw [hevent, hlost]; exact he)

theorem sound_start : Sound decode closedAck stream { reader := .reading stream } where
  acknowledged := rfl
  knows := .reading stream (.inl rfl) rfl (by simp) rfl rfl rfl
  returned := by simp
  orphanings := rfl
  markings := rfl
  flushes := rfl
  alone _ := ⟨rfl, rfl, rfl⟩

theorem Sound.orphan (h : Sound decode closedAck stream process)
    (hlost : process.parentLost = true) (succeeds : Bool) :
    Sound decode closedAck stream (process.orphan succeeds) := by
  unfold SidecarProcess.orphan
  split
  · rename_i hdone
    refine ⟨h.acknowledged, h.knows.congr rfl rfl rfl rfl id rfl, h.returned, ?_, h.markings,
      h.flushes, fun hnot => ?_⟩
    · simp_all [h.orphanings]
    · rw [hlost] at hnot
      cases hnot
  · exact h

theorem Sound.markAmbiguous (h : Sound decode closedAck stream process)
    (hlost : process.parentLost = true) (succeeds : Bool) :
    Sound decode closedAck stream (process.markAmbiguous succeeds) := by
  unfold SidecarProcess.markAmbiguous
  split
  · rename_i hdone
    refine ⟨h.acknowledged, h.knows.congr rfl rfl rfl rfl id rfl, h.returned, h.orphanings, ?_,
      h.flushes, fun hnot => ?_⟩
    · simp_all [h.markings]
    · rw [hlost] at hnot
      cases hnot
  · exact h

theorem Sound.flush (h : Sound decode closedAck stream process)
    (hlost : process.parentLost = true) (succeeds : Bool) :
    Sound decode closedAck stream (process.flush succeeds) := by
  unfold SidecarProcess.flush
  split
  · rename_i hdone
    refine ⟨h.acknowledged, h.knows.congr rfl rfl rfl rfl id rfl, h.returned, h.orphanings,
      h.markings, ?_, fun hnot => ?_⟩
    · simp_all [h.flushes]
    · rw [hlost] at hnot
      cases hnot
  · exact h

@[simp] theorem orphan_fields (process : SidecarProcess) (succeeds : Bool) :
    (process.orphan succeeds).parentLost = process.parentLost ∧
      (process.orphan succeeds).returned = process.returned := by
  unfold orphan
  split <;> exact ⟨rfl, rfl⟩

@[simp] theorem markAmbiguous_fields (process : SidecarProcess) (succeeds : Bool) :
    (process.markAmbiguous succeeds).parentLost = process.parentLost ∧
      (process.markAmbiguous succeeds).returned = process.returned := by
  unfold markAmbiguous
  split <;> exact ⟨rfl, rfl⟩

@[simp] theorem flush_fields (process : SidecarProcess) (succeeds : Bool) :
    (process.flush succeeds).parentLost = process.parentLost ∧
      (process.flush succeeds).returned = process.returned := by
  unfold flush
  split <;> exact ⟨rfl, rfl⟩

theorem Sound.iterate (h : Sound decode closedAck stream process)
    (orphans locks marks flushes : Bool) :
    Sound decode closedAck stream (process.iterate orphans locks marks flushes) := by
  unfold SidecarProcess.iterate
  split
  · rename_i hdone
    simp only [shutdownResponseFlushed, Bool.and_eq_true] at hdone
    exact ⟨h.acknowledged, h.knows.congr rfl rfl rfl rfl id rfl,
      fun _ => ⟨hdone.1, hdone.2.1⟩, h.orphanings, h.markings, h.flushes, h.alone⟩
  split
  · rename_i hlost
    unfold enforceParentStopPipeEofSafety
    split
    · exact ((h.orphan hlost orphans).markAmbiguous (by simpa) marks).flush (by simpa) flushes
    · exact h.orphan hlost orphans
  · rename_i hhere
    have hlost : process.parentLost = false := by simpa using hhere
    cases hevent : process.controlEvent with
    | none => exact h
    | some event =>
        cases h.knows with
        | reading _ _ _ _ he =>
            rw [hevent] at he
            cases he
        | acknowledged hr hclosed hcount hl he =>
            rcases he with ⟨he, hack⟩ | ⟨he, -⟩
            · rw [hevent] at he
              cases he
              exact ⟨h.acknowledged, .acknowledged hr hclosed hcount hl (.inr ⟨rfl, rfl⟩),
                fun hreturned => ⟨rfl, (h.returned hreturned).2⟩, h.orphanings, h.markings,
                h.flushes, h.alone⟩
            · rw [hevent] at he
              cases he
        | lost hr hlast hack he =>
            rcases he with ⟨he, -⟩ | ⟨he, -⟩
            · rw [hevent] at he
              cases he
              exact ⟨h.acknowledged, .lost hr hlast hack (.inr ⟨rfl, rfl⟩), h.returned,
                h.orphanings, h.markings, h.flushes, by simp⟩
            · rw [hevent] at he
              cases he

/-- Without its parent the process has no acknowledgement and does not end. -/
theorem Sound.parent_gone (h : Sound decode closedAck stream process)
    (hlost : process.parentLost = true) :
    process.returned = false ∧ process.postClosedAckReceived = false ∧
      ¬ Acknowledged decode closedAck stream (process.acknowledgements + 1) := by
  cases h.knows with
  | reading _ _ _ _ _ _ hl | acknowledged _ _ _ hl =>
      rw [hlost] at hl
      cases hl
  | lost _ hlast hack =>
      refine ⟨Bool.eq_false_iff.mpr fun hreturned => ?_, hack, hlast⟩
      have := (h.returned hreturned).1
      rw [hack] at this
      cases this

/-- A process that ends has been acknowledged after its runtime was closed. -/
theorem Sound.acknowledged_of_returned (h : Sound decode closedAck stream process)
    (hreturned : process.returned = true) :
    process.runtimeClosed = true ∧ 0 < process.acknowledgements := by
  have hdone := (h.returned hreturned).1
  cases h.knows with
  | reading _ _ _ _ _ hack | lost _ _ hack =>
      rw [hdone] at hack
      cases hack
  | acknowledged _ hclosed hcount => exact ⟨hclosed, hcount⟩

/-- Without a parent, an iteration in which everything succeeds leaves nothing to be done. -/
theorem iterate_done (hack : process.postClosedAckReceived = false)
    (hlost : process.parentLost = true) :
    (process.iterate true true true true).ownershipArtifactOrphaned = true ∧
      (process.iterate true true true true).ownershipAmbiguityMarked = true ∧
      (process.iterate true true true true).durableFlushCompleted = true := by
  cases horphaned : process.ownershipArtifactOrphaned <;>
    cases hmarked : process.ownershipAmbiguityMarked <;>
      cases hflushed : process.durableFlushCompleted <;>
        simp [SidecarProcess.iterate, hack, hlost, enforceParentStopPipeEofSafety,
          SidecarProcess.orphan, SidecarProcess.markAmbiguous, SidecarProcess.flush, horphaned,
          hmarked, hflushed]

/-- When the reader has ended, the next iteration knows how. -/
theorem Sound.decides (h : Sound decode closedAck stream process)
    (hreader : process.reader = .ended) (orphans locks marks flushes : Bool) :
    (process.iterate orphans locks marks flushes).postClosedAckReceived = true ∨
      (process.iterate orphans locks marks flushes).parentLost = true := by
  unfold SidecarProcess.iterate
  cases h.knows with
  | reading rest hr =>
      rw [hreader] at hr
      rcases hr with hr | hr <;> cases hr
  | acknowledged _ _ _ hlost hevent =>
      left
      rcases hevent with ⟨hevent, hack⟩ | ⟨hevent, hack⟩
      · simp [hevent, hack, hlost]
      · split
        · exact hack
        · simp [hevent, hack, hlost]
  | lost _ _ hack hevent =>
      right
      rcases hevent with ⟨hevent, hlost⟩ | ⟨hevent, hlost⟩
      · simp [hevent, hack, hlost]
      · simp only [hack, hlost, Bool.false_and, Bool.false_eq_true, if_false, if_true]
        unfold enforceParentStopPipeEofSafety
        split <;> simpa using hlost

/-- While the reader is at work, the loop knows nothing. -/
theorem Sound.at_work (h : Sound decode closedAck stream process) {rest : InputStream}
    (hreader : process.reader = .reading rest ∨ process.reader = .checking rest) :
    readFrames decode maxControlFrameBytes process.acknowledgements stream =
        (List.replicate process.acknowledgements (.ok (some closedAck)), rest) ∧
      process.postClosedAckReceived = false ∧ process.parentLost = false ∧
      process.returned = false := by
  cases h.knows with
  | acknowledged hr | lost hr =>
      rw [hr] at hreader
      rcases hreader with hreader | hreader <;> cases hreader
  | reading current hr hrest _ _ hack hlost =>
      have hcurrent : current = rest := by
        rcases hr with hr | hr <;> rw [hr] at hreader <;> simpa using hreader
      subst hcurrent
      refine ⟨Prod.ext h.acknowledged hrest, hack, hlost, Bool.eq_false_iff.mpr fun hreturned => ?_⟩
      rw [(h.returned hreturned).1] at hack
      cases hack

variable [DecidableEq β]

theorem Sound.readFrame (h : Sound decode closedAck stream process) :
    Sound decode closedAck stream (process.step decode closedAck .readFrame) := by
  unfold step
  dsimp only
  cases hreader : process.reader with
  | checking | ended => exact h
  | reading rest =>
      cases h.knows with
      | acknowledged hr | lost hr =>
          rw [hreader] at hr
          cases hr
      | reading current hr hrest hchecking hevent hack hlost =>
          have hcurrent : current = rest := by
            rcases hr with hr | hr
            · rw [hreader] at hr
              exact (ControlReader.reading.inj hr).symm
            · rw [hreader] at hr
              cases hr
          subst hcurrent
          dsimp only
          cases hresult : readJsonFrame decode maxControlFrameBytes current with
          | mk value after =>
              have hnext : readFrames decode maxControlFrameBytes (process.acknowledgements + 1)
                  stream = (List.replicate process.acknowledgements (.ok (some closedAck)) ++
                    [value], after) := by
                rw [readFrames_succ, hrest, hresult]
                exact congrArg (fun values => (values ++ [value], after)) h.acknowledged
              have hends : value ≠ .ok (some closedAck) →
                  Sound decode closedAck stream (process.endReader .parentLost) := by
                intro hvalue
                refine ⟨h.acknowledged, .lost rfl ?_ hack (.inl ⟨rfl, hlost⟩), h.returned,
                  h.orphanings, h.markings, h.flushes, h.alone⟩
                intro hmore
                show False
                rw [endReader, Acknowledged] at hmore
                rw [hnext, List.replicate_succ'] at hmore
                exact hvalue (List.cons.inj (List.append_cancel_left hmore)).1
              cases value with
              | error error => exact hends (by simp)
              | ok frame? =>
                  cases frame? with
                  | none => exact hends (by simp)
                  | some frame =>
                      dsimp only
                      by_cases hframe : frame = closedAck
                      · rw [if_pos hframe]
                        subst hframe
                        refine ⟨?_, .reading after (.inr rfl) ?_ (fun _ => Nat.succ_pos _) hevent
                          hack hlost, h.returned, h.orphanings, h.markings, h.flushes, h.alone⟩
                        · show (readFrames _ _ (process.acknowledgements + 1) stream).1 = _
                          rw [hnext, List.replicate_succ']
                        · show (readFrames _ _ (process.acknowledgements + 1) stream).2 = _
                          rw [hnext]
                      · rw [if_neg hframe]
                        exact hends (by simpa using hframe)

theorem Sound.checkClosed (h : Sound decode closedAck stream process) :
    Sound decode closedAck stream (process.step decode closedAck .checkClosed) := by
  unfold step
  dsimp only
  cases hreader : process.reader with
  | reading | ended => exact h
  | checking rest =>
      cases h.knows with
      | acknowledged hr | lost hr =>
          rw [hreader] at hr
          cases hr
      | reading current hr hrest hchecking hevent hack hlost =>
          have hcurrent : current = rest := by
            rcases hr with hr | hr
            · rw [hreader] at hr
              cases hr
            · rw [hreader] at hr
              exact (ControlReader.checking.inj hr).symm
          subst hcurrent
          dsimp only
          split
          · rename_i hclosed
            exact ⟨h.acknowledged, .acknowledged rfl hclosed (hchecking hreader) hlost
              (.inl ⟨rfl, hack⟩), h.returned, h.orphanings, h.markings, h.flushes, h.alone⟩
          · exact ⟨h.acknowledged, .reading current (.inl rfl) hrest (by simp) hevent hack hlost,
              h.returned, h.orphanings, h.markings, h.flushes, h.alone⟩

theorem Sound.step (h : Sound decode closedAck stream process) (input : ProcessInput) :
    Sound decode closedAck stream (process.step decode closedAck input) := by
  cases input with
  | readFrame => exact h.readFrame
  | checkClosed => exact h.checkClosed
  | iterate orphans locks marks flushes =>
      unfold SidecarProcess.step
      dsimp only
      split
      · exact h
      · exact h.iterate orphans locks marks flushes
  | runtimeCloses =>
      exact ⟨h.acknowledged, h.knows.congr rfl rfl rfl rfl (fun _ => rfl) rfl, h.returned,
        h.orphanings, h.markings, h.flushes, h.alone⟩
  | responseSent =>
      exact ⟨h.acknowledged, h.knows.congr rfl rfl rfl rfl id rfl,
        fun hreturned => ⟨(h.returned hreturned).1, rfl⟩, h.orphanings, h.markings, h.flushes,
        h.alone⟩
  | requestBegins | requestEnds =>
      exact ⟨h.acknowledged, h.knows.congr rfl rfl rfl rfl id rfl, h.returned, h.orphanings,
        h.markings, h.flushes, h.alone⟩

/-- The end of the bytes, a cut frame or any other frame ends the reader, and the next iteration
knows that the parent is gone. -/
theorem Sound.gone (h : Sound decode closedAck stream process) {rest : InputStream}
    (hreader : process.reader = .reading rest)
    (hvalue : (readJsonFrame decode maxControlFrameBytes rest).1 ≠ .ok (some closedAck)) :
    (process.step decode closedAck .readFrame).reader = .ended ∧
      ∀ orphans locks marks flushes, ((process.step decode closedAck .readFrame).step decode
        closedAck (.iterate orphans locks marks flushes)).parentLost = true := by
  have hstep : process.step decode closedAck .readFrame = process.endReader .parentLost := by
    unfold SidecarProcess.step
    simp only [hreader]
    cases hresult : readJsonFrame decode maxControlFrameBytes rest with
    | mk value after =>
        rw [hresult] at hvalue
        cases value with
        | error _ => rfl
        | ok frame? =>
            cases frame? with
            | none => rfl
            | some frame =>
                dsimp only
                rw [if_neg fun hframe => hvalue (by rw [hframe])]
  obtain ⟨-, hack, hlost, hreturned⟩ := h.at_work (.inl hreader)
  rw [hstep]
  refine ⟨rfl, fun orphans locks marks flushes => ?_⟩
  simp [SidecarProcess.step, SidecarProcess.iterate, endReader, hack, hlost, hreturned]

/-- An acknowledgement is followed by the look at the runtime. -/
theorem acknowledges {rest : InputStream} (hreader : process.reader = .reading rest)
    (hvalue : (readJsonFrame decode maxControlFrameBytes rest).1 = .ok (some closedAck)) :
    (process.step decode closedAck .readFrame).reader =
      .checking (readJsonFrame decode maxControlFrameBytes rest).2 := by
  unfold SidecarProcess.step
  simp only [hreader]
  cases hresult : readJsonFrame decode maxControlFrameBytes rest with
  | mk value after =>
      rw [hresult] at hvalue
      dsimp only at hvalue
      subst hvalue
      simp

/-- A closed runtime makes the acknowledgement count, and the next iteration knows of it. -/
theorem Sound.checks (h : Sound decode closedAck stream process) {rest : InputStream}
    (hreader : process.reader = .checking rest) :
    if process.runtimeClosed then
      (process.step decode closedAck .checkClosed).reader = .ended ∧
        ∀ orphans locks marks flushes, ((process.step decode closedAck .checkClosed).step decode
          closedAck (.iterate orphans locks marks flushes)).postClosedAckReceived = true
    else (process.step decode closedAck .checkClosed).reader = .reading rest := by
  obtain ⟨-, hack, hlost, hreturned⟩ := h.at_work (.inr hreader)
  cases hclosed : process.runtimeClosed with
  | false => simp [SidecarProcess.step, hreader, hclosed]
  | true =>
      simp [SidecarProcess.step, SidecarProcess.iterate, endReader, hreader, hclosed, hack, hlost,
        hreturned]

/-- A lost parent stays lost. -/
theorem parentLost_step (hlost : process.parentLost = true) (input : ProcessInput) :
    (process.step decode closedAck input).parentLost = true := by
  cases input with
  | readFrame =>
      unfold SidecarProcess.step
      dsimp only
      split
      · split
        · split <;> exact hlost
        · exact hlost
      · exact hlost
  | checkClosed =>
      unfold SidecarProcess.step
      dsimp only
      split
      · split <;> exact hlost
      · exact hlost
  | iterate orphans locks marks flushes =>
      unfold SidecarProcess.step
      dsimp only
      split
      · exact hlost
      unfold SidecarProcess.iterate
      split
      · exact hlost
      unfold enforceParentStopPipeEofSafety
      split <;> simpa using hlost
  | runtimeCloses | responseSent | requestBegins | requestEnds => exact hlost

/-- The process ends while no request is active. -/
theorem returned_step (input : ProcessInput)
    (hreturned : (process.step decode closedAck input).returned = true) :
    process.returned = true ∨ process.shutdownResponseFlushed = true := by
  cases input with
  | readFrame =>
      unfold SidecarProcess.step at hreturned
      dsimp only at hreturned
      split at hreturned
      · split at hreturned
        · split at hreturned <;> exact .inl hreturned
        · exact .inl hreturned
      · exact .inl hreturned
  | checkClosed =>
      unfold SidecarProcess.step at hreturned
      dsimp only at hreturned
      split at hreturned
      · split at hreturned <;> exact .inl hreturned
      · exact .inl hreturned
  | iterate orphans locks marks flushes =>
      unfold SidecarProcess.step at hreturned
      dsimp only at hreturned
      split at hreturned
      · exact .inl hreturned
      unfold SidecarProcess.iterate at hreturned
      split at hreturned
      · rename_i hdone
        exact .inr (Bool.and_eq_true_iff.mp hdone).2
      split at hreturned
      · unfold enforceParentStopPipeEofSafety at hreturned
        split at hreturned <;> exact .inl (by simpa using hreturned)
      · split at hreturned <;> exact .inl hreturned
  | runtimeCloses | responseSent | requestBegins | requestEnds => exact .inl hreturned

/-- A process without a parent does not end, whatever comes. -/
theorem Sound.never_returns (h : Sound decode closedAck stream process)
    (hlost : process.parentLost = true) (more : List ProcessInput) :
    (more.foldl (SidecarProcess.step decode closedAck) process).returned = false := by
  induction more generalizing process with
  | nil => exact (h.parent_gone hlost).1
  | cons input more ih => exact ih (h.step input) (parentLost_step hlost input)

theorem sound_run (decode : List UInt8 → Except FrameError β) (closedAck : β)
    (stream : InputStream) (inputs : List ProcessInput) :
    Sound decode closedAck stream (run decode closedAck stream inputs) := by
  have hfold : ∀ process, Sound decode closedAck stream process →
      Sound decode closedAck stream
        (inputs.foldl (SidecarProcess.step decode closedAck) process) := by
    induction inputs with
    | nil => exact fun _ h => h
    | cons input inputs ih => exact fun process h => ih _ (h.step input)
  exact hfold _ sound_start

end Laws

end SidecarProcess

/-- The process ends for an acknowledgement and nothing else.  However its threads take turns,
whatever bytes come from the parent in whatever pieces, and whichever operations fail: when the
process has ended, the runtime is closed, the answer to the shutdown is sent and the parent's
first frames are acknowledgements, and it ends only while no request is active.  A reader that
has met acknowledgements only goes on with the next frame; anything else, the end of the bytes,
a cut frame or another frame, ends it, and the next iteration knows that the parent is gone.
Then the process never ends; its ownership is marked orphaned and ambiguous and its state
flushed at most once each, and one iteration in which these succeed does what was still to be
done.  An acknowledgement of the closed runtime reaches the loop, which ends the process when
the answer is sent and no request is active.  An event of the reader is never lost. -/
theorem sidecar_end_law {β : Type} [DecidableEq β] (decode : List UInt8 → Except FrameError β)
    (closedAck : β) (stream : InputStream) (inputs : List ProcessInput)
    (process : SidecarProcess)
    (hrun : SidecarProcess.run decode closedAck stream inputs = process) :
    (process.returned = true → process.runtimeClosed = true ∧
      process.shutdownResponseSent = true ∧ ∃ count, 0 < count ∧
        (readFrames decode maxControlFrameBytes count stream).1 =
          List.replicate count (.ok (some closedAck))) ∧
    (∀ input, (process.step decode closedAck input).returned = true →
      process.returned = true ∨ process.shutdownResponseFlushed = true) ∧
    (∀ rest, process.reader = .reading rest →
      (∃ count, readFrames decode maxControlFrameBytes count stream =
        (List.replicate count (.ok (some closedAck)), rest)) ∧
      ((readJsonFrame decode maxControlFrameBytes rest).1 = .ok (some closedAck) →
        (process.step decode closedAck .readFrame).reader =
          .checking (readJsonFrame decode maxControlFrameBytes rest).2) ∧
      ((readJsonFrame decode maxControlFrameBytes rest).1 ≠ .ok (some closedAck) →
        (process.step decode closedAck .readFrame).reader = .ended ∧
          ∀ orphans locks marks flushes, ((process.step decode closedAck .readFrame).step decode
            closedAck (.iterate orphans locks marks flushes)).parentLost = true)) ∧
    (∀ rest, process.reader = .checking rest →
      if process.runtimeClosed then
        (process.step decode closedAck .checkClosed).reader = .ended ∧
          ∀ orphans locks marks flushes, ((process.step decode closedAck .checkClosed).step decode
            closedAck (.iterate orphans locks marks flushes)).postClosedAckReceived = true
      else (process.step decode closedAck .checkClosed).reader = .reading rest) ∧
    (process.postClosedAckReceived = true → process.shutdownResponseFlushed = true →
      ∀ orphans locks marks flushes,
        (process.step decode closedAck (.iterate orphans locks marks flushes)).returned = true) ∧
    (process.parentLost = true →
      (∃ count, (readFrames decode maxControlFrameBytes (count + 1) stream).1 ≠
        List.replicate (count + 1) (.ok (some closedAck))) ∧
      (∀ more : List ProcessInput,
        (more.foldl (SidecarProcess.step decode closedAck) process).returned = false) ∧
      (process.step decode closedAck
        (.iterate true true true true)).ownershipArtifactOrphaned = true ∧
      (process.step decode closedAck
        (.iterate true true true true)).ownershipAmbiguityMarked = true ∧
      (process.step decode closedAck
        (.iterate true true true true)).durableFlushCompleted = true) ∧
    (process.orphanings ≤ 1 ∧ process.markings ≤ 1 ∧ process.flushes ≤ 1 ∧
      (process.parentLost = false →
        process.orphanings = 0 ∧ process.markings = 0 ∧ process.flushes = 0)) ∧
    (process.reader = .ended → process.returned = false → ∀ orphans locks marks flushes,
      (process.step decode closedAck
          (.iterate orphans locks marks flushes)).postClosedAckReceived = true ∨
        (process.step decode closedAck
          (.iterate orphans locks marks flushes)).parentLost = true) := by
  have h : SidecarProcess.Sound decode closedAck stream process :=
    hrun ▸ SidecarProcess.sound_run decode closedAck stream inputs
  refine ⟨fun hreturned => ?_, fun input hreturned => ?_, fun rest hreader => ?_,
    fun rest hreader => h.checks hreader, fun hack hflushed orphans locks marks flushes => ?_,
    fun hlost => ?_, ?_, ?_⟩
  · obtain ⟨hclosed, hcount⟩ := h.acknowledged_of_returned hreturned
    exact ⟨hclosed, (h.returned hreturned).2, _, hcount, h.acknowledged⟩
  · exact SidecarProcess.returned_step input hreturned
  · exact ⟨⟨_, (h.at_work (.inl hreader)).1⟩, SidecarProcess.acknowledges hreader, h.gone hreader⟩
  · unfold SidecarProcess.step SidecarProcess.iterate
    dsimp only
    split
    · assumption
    · simp [hack, hflushed]
  · obtain ⟨hreturned, hack, hlast⟩ := h.parent_gone hlost
    refine ⟨⟨_, hlast⟩, h.never_returns hlost, ?_⟩
    simp only [SidecarProcess.step, hreturned, Bool.false_eq_true, if_false]
    exact SidecarProcess.iterate_done hack hlost
  · rw [h.orphanings, h.markings, h.flushes]
    refine ⟨Bool.toNat_le _, Bool.toNat_le _, Bool.toNat_le _, fun hhere => ?_⟩
    obtain ⟨horphaned, hmarked, hflushed⟩ := h.alone hhere
    rw [horphaned, hmarked, hflushed]
    exact ⟨rfl, rfl, rfl⟩
  · intro hreader hreturned orphans locks marks flushes
    simp only [SidecarProcess.step, hreturned, Bool.false_eq_true, if_false]
    exact h.decides hreader orphans locks marks flushes

/-- A parent that cuts a frame after its length and is gone. -/
def goneParent : InputStream := ⟨[[0, 0], [0, 1]], by simp⟩

/-- The process learns it, does what is to be done without a parent, and does not end. -/
theorem sidecar_end_law_gone :
    let step := SidecarProcess.step (fun payload => .ok payload) [1]
    let process := SidecarProcess.run (fun payload => .ok payload) [1] goneParent
      [.readFrame, .iterate true true true true]
    process.parentLost = true ∧
      (step process (.iterate true true true true)).durableFlushCompleted = true ∧
      ([.runtimeCloses, .responseSent, .iterate true true true true].foldl step
        process).returned = false := by
  intro step process
  have hgone : (readJsonFrame (fun payload => .ok payload) maxControlFrameBytes goneParent).1 ≠
      .ok (some [1]) := by
    rw [(readJsonFrame_eq _ _ _).1]
    simp [parseFrame, goneParent, InputStream.bytes, maxControlFrameBytes, maxSidecarFrameBytes,
      ofBigEndian]
  have hlost : process.parentLost = true :=
    (((sidecar_end_law _ _ goneParent [] _ rfl).2.2.1 goneParent rfl).2.2 hgone).2 true true true
      true
  obtain ⟨-, hnever, -, -, hflushed⟩ :=
    (sidecar_end_law _ _ goneParent _ process rfl).2.2.2.2.2.1 hlost
  exact ⟨hlost, hflushed, hnever _⟩

end Transport
