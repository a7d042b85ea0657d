import AutoTrader.Trading.History.ManualKillRecord

/-!
# The journal of the manual kill switch

The writer and the reader of the sidecar of
`adapters/persistence/trade_history_repository.py`, over the bytes of its file.

* `ManualKillJournal` — the state of the switch and the bounded window of receipts.
* `ManualKillJournal.accept`, `readManualKillControlFile` — `_read_manual_kill_control_file`.
* `ManualKillJournal.checkSave`, `ManualKillStore` — `save_manual_kill_control_state` and the load;
  an append may leave any prefix of its line before it raises.
* `ManualKillJournal.accept_of_checkSave` — what the writer admits the reader admits.
* `ManualKillStore.Reads` — the reader accepts the file and reads what the writer holds.
* `ManualKillStore.journal_law` — what holds after any calls.
-/

namespace Trading

open LineFile

/-! ## The window of receipts -/

/-- `_MANUAL_KILL_CONTROL_REPLAY_LIMIT`. -/
@[irreducible] def manualKillReplayLimit : ℕ := 1024

/-- The state of the switch, and the receipts of the last commands. -/
structure ManualKillJournal where
  state : ManualKillControlState := .initial
  replay : List ManualKillControlState := []
  deriving DecidableEq

namespace ManualKillJournal

/-- The first receipt with the command of a state. -/
def receipt (journal : ManualKillJournal) (state : ManualKillControlState) :
    Option ManualKillControlState :=
  journal.replay.find? fun receipt => decide (receipt.commandId = state.commandId)

/-- The version a command leads to. -/
def resultVersion (journal : ManualKillJournal) (state : ManualKillControlState) : Int :=
  journal.state.version + if state.active ≠ journal.state.active then 1 else 0

/-- A command that leaves the switch on, but not the policy it was switched on with. -/
def ChangesPolicy (journal : ManualKillJournal) (state : ManualKillControlState) : Prop :=
  journal.state.active = true ∧ state.active = true ∧
    (state.behavior ≠ journal.state.behavior ∨ state.policyVersion ≠ journal.state.policyVersion)

instance (journal : ManualKillJournal) (state : ManualKillControlState) :
    Decidable (journal.ChangesPolicy state) := inferInstanceAs (Decidable (_ ∧ _))

/-! ## The reader -/

/-- The checks of the reader on the outcome of a command. -/
def checkOutcome (journal : ManualKillJournal) (next : ManualKillControlState) :
    ManualKillSchema → Except String Unit
  | .legacy => do
      Except.require (next.version = journal.state.version + 1)
        "legacy control version is not consecutive"
      Except.require (next.active ≠ journal.state.active) "legacy control state did not toggle"
  | .current => do
      Except.require (next.version = journal.resultVersion next)
        "control result version does not match command outcome"
      Except.require (¬journal.ChangesPolicy next) "active no-op changed policy provenance"

/-- `replay_records.pop(0)` once there are too many. -/
def popOldest (replay : List ManualKillControlState) : List ManualKillControlState :=
  if manualKillReplayLimit < replay.length then replay.tail else replay

/-- One line of the reader. A repeated receipt does not move the state again. -/
def accept (journal : ManualKillJournal) (schema : ManualKillSchema)
    (next : ManualKillControlState) : Except String ManualKillJournal :=
  match journal.receipt next with
  | some existing => if existing = next then .ok journal else .error "command ID was reused"
  | none => do
      Except.require (next.expectedVersion = some journal.state.version)
        "expected version is not authoritative"
      journal.checkOutcome next schema
      .ok { state := next, replay := popOldest (journal.replay ++ [next]) }

/-! ## The writer's checks -/

/-- The checks of `save_manual_kill_control_state` on a command without a receipt. -/
def checkSave (journal : ManualKillJournal) (state : ManualKillControlState) :
    Except String Unit := do
  Except.require (state.commandId ≠ none ∧ state.expectedVersion ≠ none)
    "manual-kill durable receipt requires command provenance"
  Except.require (state.expectedVersion = some journal.state.version)
    "manual-kill expected version must match durable state"
  Except.require (state.version = journal.resultVersion state)
    "manual-kill result version does not match command outcome"
  Except.require (¬journal.ChangesPolicy state)
    "active manual-kill no-op cannot change policy provenance"

/-- `replay[-limit:]`. -/
def lastReceipts (replay : List ManualKillControlState) : List ManualKillControlState :=
  replay.drop (replay.length - manualKillReplayLimit)

/-- What `save_manual_kill_control_state` publishes. -/
def publish (journal : ManualKillJournal) (state : ManualKillControlState) : ManualKillJournal where
  state := state
  replay := lastReceipts (journal.replay ++ [state])

end ManualKillJournal

/-- Why a call of the journal raises. -/
inductive ManualKillError where
  /-- A line cannot be decoded. -/
  | unreadable (line : ℕ)
  /-- `ManualKillControlJournalCorruptedError`. -/
  | corrupted (line : ℕ) (reason : String)
  | valueError (message : String)
  /-- The file system raised. -/
  | io
  deriving DecidableEq, Repr

section Reading

variable [Json.Reader]

/-- One line of the reader, decoded. -/
def readManualKillLine (line : Line) (number : ℕ) :
    Except ManualKillError (ManualKillSchema × ManualKillControlState) :=
  if line.hasLineFeed = false ∨ line.bytes.getLast? = some 13 then
    .error (.corrupted number "InvalidJsonlFraming")
  else match decodeJsonLine line.bytes with
    | .error _ => .error (.unreadable number)
    | .ok value =>
        match manualKillControlFromJsonObject value with
        | .error _ => .error (.unreadable number)
        | .ok record => .ok record

/-- A turn of the loop of the reader. -/
def readManualKillStep (line : Line) (number : ℕ) (journal : ManualKillJournal) :
    Except ManualKillError ManualKillJournal :=
  match readManualKillLine line number with
  | .error error => .error error
  | .ok record =>
      match journal.accept record.1 record.2 with
      | .error _ => .error (.corrupted number "ValueError")
      | .ok journal => .ok journal

/-- `_read_manual_kill_control_file`. -/
def readManualKillControlFile (file : List UInt8) : Except ManualKillError ManualKillJournal :=
  match foldLines readManualKillStep (splitLines file) 1 {} with
  | .error error => .error error
  | .ok journal =>
      -- An empty file may have held an active state, so it is not read as an inactive one.
      if splitLines file = [] then .error (.corrupted 1 "EmptyJournal") else .ok journal

/-- What a journal holds. Without a file the switch has never been used. -/
def readManualKillJournal : Option (List UInt8) → Except ManualKillError ManualKillJournal
  | none => .ok {}
  | some file => readManualKillControlFile file

/-! ## The store -/

/-- The file, what the writer holds of it and whether that is loaded. -/
structure ManualKillStore where
  file : Option (List UInt8) := none
  journal : ManualKillJournal := {}
  loaded : Bool := false

/-- What the file system does during a load. -/
inductive ManualKillLoadIo where
  | completes
  /-- The file cannot be opened. -/
  | openRaises
  /-- A check of the descriptor, a read or a sync raises. -/
  | raises
  deriving DecidableEq, Repr

/-- What the file system does during a save: the append raises after some bytes of the line reached
the file. -/
structure ManualKillIo where
  load : ManualKillLoadIo := .completes
  appendOpens : Bool := true
  raisesAfter : Option ℕ := none
  deriving DecidableEq, Repr

/-- The line of a receipt. -/
def manualKillLine (state : ManualKillControlState) : List UInt8 :=
  utf8Encode (Json.dumps (.object (manualKillControlToJsonObject state.toManualKillControlValues)))
    ++ [lineFeed]

namespace ManualKillStore

/-- A call that raises forces the next one to read the file again. -/
def fail {α : Type} (store : ManualKillStore) (error : ManualKillError) :
    ManualKillStore × Except ManualKillError α :=
  ({ store with loaded := false }, .error error)

/-- `get_manual_kill_control_state`. -/
def load (store : ManualKillStore) (io : ManualKillLoadIo) :
    ManualKillStore × Except ManualKillError ManualKillControlState :=
  if io = .openRaises then (store, .error .io)
  else match store.file with
    | none =>
        if store.journal = {} then ({ store with loaded := true }, .ok .initial)
        else store.fail (.corrupted 1 "MissingJournal")
    | some file =>
        match readManualKillControlFile file with
        | .error error => store.fail error
        | .ok journal =>
            if io = .raises then store.fail .io
            else if store.loaded = true ∧ journal ≠ store.journal then
              store.fail (.corrupted 1 "JournalDrift")
            else ({ store with journal := journal, loaded := true }, .ok journal.state)

/-- The write of a line, and the replay after it. -/
def write (store : ManualKillStore) (raisesAfter : Option ℕ) (state : ManualKillControlState) :
    ManualKillStore × Except ManualKillError Unit :=
  match raisesAfter with
  | some written =>
      fail { store with file := some (store.file.getD [] ++ (manualKillLine state).take written) }
        .io
  | none =>
      let file := store.file.getD [] ++ manualKillLine state
      match readManualKillControlFile file with
      | .error error => fail { store with file := some file } error
      | .ok verified =>
          if verified = store.journal.publish state then ({ store with file := some file }, .ok ())
          else fail { store with file := some file } (.corrupted 1 "PostWriteReplayMismatch")

/-- `_append_manual_kill_control_state`: a file that does not exist is created. -/
def append (store : ManualKillStore) (io : ManualKillIo) (state : ManualKillControlState) :
    ManualKillStore × Except ManualKillError Unit :=
  if io.appendOpens = false then store.fail .io
  else if store.file = none ∧ store.journal ≠ {} then
    store.fail (.corrupted 1 "MissingJournal")
  else match readManualKillJournal store.file with
    | .error error => store.fail error
    | .ok journal =>
        if journal ≠ store.journal then store.fail (.corrupted 1 "JournalDrift")
        else store.write io.raisesAfter state

/-- `save_manual_kill_control_state` after its load. -/
def saveLoaded (store : ManualKillStore) (io : ManualKillIo) (state : ManualKillControlState) :
    ManualKillStore × Except ManualKillError Unit :=
  match store.journal.receipt state with
  | some existing =>
      if existing = state then (store, .ok ())
      else (store, .error (.valueError "manual-kill command ID cannot be reused"))
  | none =>
      match store.journal.checkSave state with
      | .error message => (store, .error (.valueError message))
      | .ok () =>
          match store.append io state with
          | (store, .error error) => (store, .error error)
          | (store, .ok ()) =>
              ({ store with journal := store.journal.publish state, loaded := true }, .ok ())

/-- `save_manual_kill_control_state`. -/
def saveManualKillControlState (store : ManualKillStore) (io : ManualKillIo)
    (state : ManualKillControlState) : ManualKillStore × Except ManualKillError Unit :=
  match store.load io.load with
  | (store, .error error) => (store, .error error)
  | (store, .ok _) => store.saveLoaded io state

end ManualKillStore

/-- A call of the journal, or a new process. -/
inductive ManualKillCall where
  | save (io : ManualKillIo) (state : ManualKillControlState)
  | load (io : ManualKillLoadIo)
  | restart

/-- The store after a call. -/
def ManualKillStore.call (store : ManualKillStore) : ManualKillCall → ManualKillStore
  | .save io state => (store.saveManualKillControlState io state).1
  | .load io => (store.load io).1
  | .restart => { file := store.file }

end Reading

/-! ## Both windows -/

/-- The window is bounded, and no command has two receipts in it. -/
structure ManualKillJournal.Windowed (journal : ManualKillJournal) : Prop where
  bounded : journal.replay.length ≤ manualKillReplayLimit
  distinct : (journal.replay.map fun receipt => receipt.commandId).Nodup

namespace ManualKillJournal

variable {journal : ManualKillJournal} {state : ManualKillControlState}

theorem receipt_eq_none_iff :
    journal.receipt state = none ↔
      state.commandId ∉ journal.replay.map fun receipt => receipt.commandId := by
  simp [receipt, List.find?_eq_none]

theorem windowed_empty : ({} : ManualKillJournal).Windowed where
  bounded := Nat.zero_le manualKillReplayLimit
  distinct := List.nodup_nil

/-- One receipt more than the limit: both sides drop the oldest. -/
theorem popOldest_eq_lastReceipts {replay : List ManualKillControlState}
    (h : replay.length ≤ manualKillReplayLimit + 1) : popOldest replay = lastReceipts replay := by
  unfold popOldest lastReceipts
  split
  · have hone : replay.length - manualKillReplayLimit = 1 := by omega
    rw [hone, List.drop_one]
  · have hzero : replay.length - manualKillReplayLimit = 0 := by omega
    rw [hzero, List.drop_zero]

theorem replay_publish :
    (journal.publish state).replay = lastReceipts (journal.replay ++ [state]) := rfl

theorem Windowed.publish (h : journal.Windowed) (hnew : journal.receipt state = none) :
    (journal.publish state).Windowed where
  bounded := by
    have hbounded := h.bounded
    simp only [ManualKillJournal.publish, lastReceipts, List.length_drop, List.length_append,
      List.length_singleton]
    omega
  distinct := by
    have hall : ((journal.replay ++ [state]).map fun receipt => receipt.commandId).Nodup := by
      rw [List.map_append, List.nodup_append]
      refine ⟨h.distinct, List.nodup_singleton _, ?_⟩
      intro commandId hmem other hother hequal
      rw [List.map_singleton, List.mem_singleton] at hother
      exact receipt_eq_none_iff.mp hnew (hother ▸ hequal ▸ hmem)
    have hlast : (lastReceipts (journal.replay ++ [state])).Sublist
        (journal.replay ++ [state]) := by
      rw [lastReceipts]
      exact List.drop_sublist _ _
    have hmapped := hlast.map fun receipt : ManualKillControlState => receipt.commandId
    rw [replay_publish]
    exact hall.sublist hmapped

/-- What the reader makes of a line: nothing, or what the writer publishes. -/
theorem accept_cases {schema : ManualKillSchema} {journal' : ManualKillJournal}
    (h : journal.Windowed) (haccept : journal.accept schema state = .ok journal') :
    journal' = journal ∨ journal.receipt state = none ∧ journal' = journal.publish state := by
  unfold accept at haccept
  split at haccept
  · split at haccept
    · exact .inl (Except.ok.inj haccept).symm
    · cases haccept
  · rename_i hnew
    obtain ⟨-, haccept⟩ := Except.require_bind_eq_ok_iff.mp haccept
    obtain ⟨_, -, haccept⟩ := Except.bind_eq_ok_iff.mp haccept
    have hlength : (journal.replay ++ [state]).length ≤ manualKillReplayLimit + 1 := by
      have hbounded := h.bounded
      rw [List.length_append, List.length_singleton]
      omega
    refine .inr ⟨hnew, ?_⟩
    rw [← Except.ok.inj haccept, popOldest_eq_lastReceipts hlength]
    rfl

theorem Windowed.accept {schema : ManualKillSchema} {journal' : ManualKillJournal}
    (h : journal.Windowed) (haccept : journal.accept schema state = .ok journal') :
    journal'.Windowed := by
  obtain rfl | ⟨hnew, rfl⟩ := accept_cases h haccept
  · exact h
  · exact h.publish hnew

/-- What the writer admits the reader admits, and both move to the same journal. -/
theorem accept_of_checkSave (h : journal.Windowed) (hnew : journal.receipt state = none)
    (hcheck : journal.checkSave state = .ok ()) :
    journal.accept .current state = .ok (journal.publish state) := by
  simp only [checkSave, Except.require_bind_eq_ok_iff, Except.require_eq_ok_iff] at hcheck
  obtain ⟨-, hexpected, hversion, hpolicy⟩ := hcheck
  have houtcome : journal.checkOutcome state .current = .ok () := by
    simp only [checkOutcome, Except.require_bind_eq_ok_iff, Except.require_eq_ok_iff]
    exact ⟨hversion, hpolicy⟩
  have hlength : (journal.replay ++ [state]).length ≤ manualKillReplayLimit + 1 := by
    have hbounded := h.bounded
    rw [List.length_append, List.length_singleton]
    omega
  unfold accept
  rw [hnew]
  dsimp only
  rw [Except.require, if_pos hexpected, Except.ok_bind, houtcome, Except.ok_bind,
    popOldest_eq_lastReceipts hlength]
  rfl

end ManualKillJournal

/-! ## One more line -/

/-- The text of a receipt. -/
def manualKillText (state : ManualKillControlState) : List UInt8 :=
  utf8Encode (Json.dumps (.object (manualKillControlToJsonObject state.toManualKillControlValues)))

theorem manualKillLine_eq (state : ManualKillControlState) :
    manualKillLine state = manualKillText state ++ [lineFeed] := rfl

theorem lineFeed_notMem_manualKillText (state : ManualKillControlState) :
    lineFeed ∉ manualKillText state :=
  lineFeed_notMem (le_of_mem_utf8Encode (Json.printable_dumps _))

section Laws

variable [Json.Reader]

theorem ManualKillJournal.Windowed.readManualKillStep {line : Line} {number : ℕ}
    {journal next : ManualKillJournal}
    (h : journal.Windowed) (hstep : Trading.readManualKillStep line number journal = .ok next) :
    next.Windowed := by
  unfold Trading.readManualKillStep at hstep
  split at hstep
  · cases hstep
  · split at hstep
    · cases hstep
    · rename_i haccept
      rw [← Except.ok.inj hstep]
      exact h.accept haccept

/-- A line that is read has its line feed. -/
theorem hasLineFeed_of_readManualKillStep {line : Line} {number : ℕ}
    {journal next : ManualKillJournal} (hstep : readManualKillStep line number journal = .ok next) :
    line.hasLineFeed = true := by
  by_contra hended
  rw [readManualKillStep, readManualKillLine, if_pos (Or.inl (by simpa using hended))] at hstep
  cases hstep

theorem hasLineFeed_of_foldLines {lines : List Line} {number : ℕ} {journal next : ManualKillJournal}
    (hread : foldLines readManualKillStep lines number journal = .ok next) :
    ∀ line ∈ lines, line.hasLineFeed = true :=
  forall_mem_of_foldLines (fun _ _ _ _ => hasLineFeed_of_readManualKillStep) hread

/-- A readable journal is read line by line, also while its file does not exist. -/
theorem foldLines_of_readManualKillJournal {file : Option (List UInt8)}
    {journal : ManualKillJournal} (h : readManualKillJournal file = .ok journal) :
    foldLines readManualKillStep (splitLines (file.getD [])) 1 {} = .ok journal := by
  cases file with
  | none => exact h
  | some file =>
      rw [readManualKillJournal, readManualKillControlFile] at h
      split at h
      · cases h
      · rename_i hread
        split at h
        · cases h
        · rw [← Except.ok.inj h]
          exact hread

theorem windowed_readManualKillJournal {file : Option (List UInt8)} {journal : ManualKillJournal}
    (h : readManualKillJournal file = .ok journal) : journal.Windowed :=
  foldLines_preserves (fun _ _ _ _ => ManualKillJournal.Windowed.readManualKillStep)
    ManualKillJournal.windowed_empty
    (foldLines_of_readManualKillJournal h)

/-- A line of the writer is read as its receipt. -/
theorem readManualKillLine_text (state : ManualKillControlState) (number : ℕ) :
    readManualKillLine ⟨manualKillText state, true⟩ number = .ok (.current, state) := by
  have hbytes : ∀ b ∈ manualKillText state, 32 ≤ b.toNat :=
    le_of_mem_utf8Encode (Json.printable_dumps _)
  have hdecode : decodeJsonLine (manualKillText state) =
      .ok (.object (manualKillControlToJsonObject state.toManualKillControlValues)) := by
    rw [decodeJsonLine, manualKillText, utf8Decode_utf8Encode, Option.bind_some,
      Json.Reader.loads_dumps]
    exact if_pos (uniqueKeys_manualKillControl _)
  have hframing : ¬(true = false ∨ (manualKillText state).getLast? = some 13) :=
    not_or.mpr ⟨by decide, getLast?_ne_carriageReturn hbytes⟩
  rw [readManualKillLine, if_neg hframing, hdecode]
  simp only [manualKillControlFromJsonObject_toJsonObject]

/-- After a line that the writer admitted the reader holds what the writer publishes. -/
theorem readManualKillControlFile_append {file : Option (List UInt8)} {journal : ManualKillJournal}
    (hread : readManualKillJournal file = .ok journal) {state : ManualKillControlState}
    (hnew : journal.receipt state = none) (hcheck : journal.checkSave state = .ok ()) :
    readManualKillControlFile (file.getD [] ++ manualKillLine state) =
      .ok (journal.publish state) := by
  have hlines := foldLines_of_readManualKillJournal hread
  have haccept := ManualKillJournal.accept_of_checkSave (windowed_readManualKillJournal hread) hnew
    hcheck
  have hline : splitLines (manualKillLine state) = [⟨manualKillText state, true⟩] :=
    splitLines_line (lineFeed_notMem_manualKillText state) []
  have hsplit : splitLines (file.getD [] ++ manualKillLine state) =
      splitLines (file.getD []) ++ [⟨manualKillText state, true⟩] := by
    rw [splitLines_append (hasLineFeed_of_foldLines hlines), hline]
  have hall :
      foldLines readManualKillStep (splitLines (file.getD [] ++ manualKillLine state)) 1 {} =
      .ok (journal.publish state) := by
    rw [hsplit, foldLines_append hlines, foldLines, readManualKillStep, readManualKillLine_text]
    simp only [haccept, foldLines]
  rw [readManualKillControlFile, hall]
  exact if_neg (by simp [hsplit])

/-! ## A torn line -/

/-- The reader refuses a file that ends inside a line. -/
theorem readManualKillControlFile_take {file : Option (List UInt8)} {journal : ManualKillJournal}
    (hread : readManualKillJournal file = .ok journal) (state : ManualKillControlState)
    {written : ℕ} (hwritten : written < (manualKillLine state).length)
    (hmoved : some (file.getD [] ++ (manualKillLine state).take written) ≠ file) :
    ∃ line reason, readManualKillControlFile
      (file.getD [] ++ (manualKillLine state).take written) = .error (.corrupted line reason) := by
  have hlines := foldLines_of_readManualKillJournal hread
  rcases Nat.eq_zero_or_pos written with rfl | hpos
  · -- Nothing of the line is there, so the file is the one that was just created.
    cases file with
    | none => exact ⟨1, "EmptyJournal", rfl⟩
    | some file => exact absurd (by simp) hmoved
  · have hwithin : written ≤ (manualKillText state).length := by
      rw [manualKillLine_eq, List.length_append, List.length_singleton] at hwritten
      omega
    have htake : (manualKillLine state).take written = (manualKillText state).take written := by
      rw [manualKillLine_eq, List.take_append_of_le_length hwithin]
    have hnone : lineFeed ∉ (manualKillText state).take written := fun hmem =>
      lineFeed_notMem_manualKillText state (List.mem_of_mem_take hmem)
    have hsome : (manualKillText state).take written ≠ [] := by
      rw [← List.length_pos_iff, List.length_take]
      omega
    refine ⟨1 + (splitLines (file.getD [])).length, "InvalidJsonlFraming", ?_⟩
    rw [readManualKillControlFile, htake,
      splitLines_append (hasLineFeed_of_foldLines hlines), splitLines_last hnone hsome,
      foldLines_append hlines, foldLines, readManualKillStep, readManualKillLine,
      if_pos (Or.inl rfl)]

/-! ## What the calls preserve -/

/-- A save that moves the file leaves it inside a line, or empty. -/
def ManualKillStore.Torn (store : ManualKillStore) : ManualKillCall → Prop
  | .save io state => ∃ written < (manualKillLine state).length,
      (store.call (.save io state)).file =
        some (store.file.getD [] ++ (manualKillLine state).take written) ∧
      (store.call (.save io state)).file ≠ store.file
  | _ => False

/-- The reader accepts the file and reads `journal`, which the writer holds while it is loaded. -/
structure ManualKillStore.Reads (store : ManualKillStore) (journal : ManualKillJournal) : Prop where
  read : readManualKillJournal store.file = .ok journal
  held : store.loaded = true → store.journal = journal
  absent : store.file = none → store.journal = {}

/-- Where a call leads: the same journal, or a command that was admitted. -/
def ManualKillJournal.Follows (journal : ManualKillJournal) (call : ManualKillCall)
    (journal' : ManualKillJournal) : Prop :=
  journal' = journal ∨ ∃ io state, call = .save io state ∧ journal.receipt state = none ∧
    journal.checkSave state = .ok () ∧ journal' = journal.publish state

namespace ManualKillStore

variable {store : ManualKillStore} {journal : ManualKillJournal}

omit [Json.Reader] in
@[simp] theorem fail_fst {α : Type} (error : ManualKillError) :
    (store.fail error : ManualKillStore × Except ManualKillError α).1 =
      { store with loaded := false } := rfl

theorem Reads.unloaded (h : store.Reads journal) :
    Reads { store with loaded := false } journal where
  read := h.read
  held := nofun
  absent := h.absent

/-- A load leaves the file, and what it holds is what is read. -/
theorem Reads.load (h : store.Reads journal) (io : ManualKillLoadIo) :
    (store.load io).1.Reads journal ∧ (store.load io).1.file = store.file ∧
      (∀ state, (store.load io).2 = .ok state → (store.load io).1.loaded = true) := by
  obtain ⟨file, journal', loaded⟩ := store
  obtain ⟨hread, hheld, habsent⟩ := h
  rw [ManualKillStore.load]
  by_cases hopen : io = .openRaises
  · rw [if_pos hopen]
    exact ⟨⟨hread, hheld, habsent⟩, rfl, nofun⟩
  · rw [if_neg hopen]
    cases file with
    | none =>
        obtain rfl : journal' = {} := habsent rfl
        obtain rfl : {} = journal := Except.ok.inj hread
        exact ⟨⟨rfl, fun _ => rfl, fun _ => rfl⟩, rfl, fun _ _ => rfl⟩
    | some file =>
        have hbytes : readManualKillControlFile file = .ok journal := hread
        simp only [hbytes]
        split_ifs with hraises hdrift
        · exact ⟨⟨hread, nofun, nofun⟩, rfl, nofun⟩
        · exact absurd (hheld hdrift.1).symm hdrift.2
        · exact ⟨⟨hread, fun _ => rfl, nofun⟩, rfl, fun _ _ => rfl⟩

/-- An append of a command that was admitted: the file stays, gets the whole line or is torn. -/
theorem append_cases (h : store.Reads journal) (hloaded : store.loaded = true)
    {state : ManualKillControlState} (hnew : journal.receipt state = none)
    (hcheck : journal.checkSave state = .ok ()) (io : ManualKillIo) :
    (∃ error, store.append io state = ({ store with loaded := false }, .error error)) ∨
    (∃ written, store.append io state =
      ({ store with
          file := some (store.file.getD [] ++ (manualKillLine state).take written)
          loaded := false }, .error .io)) ∨
    store.append io state =
      ({ store with file := some (store.file.getD [] ++ manualKillLine state) }, .ok ()) := by
  have hjournal := h.held hloaded
  have happend := readManualKillControlFile_append h.read hnew hcheck
  unfold append
  split_ifs with hopens hmissing
  · exact .inl ⟨_, rfl⟩
  · exact .inl ⟨_, rfl⟩
  · rw [h.read]
    dsimp only
    rw [if_neg (not_not.mpr hjournal.symm)]
    cases hraises : io.raisesAfter with
    | some written => exact .inr (.inl ⟨written, rfl⟩)
    | none =>
        refine .inr (.inr ?_)
        rw [ManualKillStore.write]
        simp only [happend, hjournal, if_true]

/-- A save over a loaded journal that does not tear the file. -/
theorem Reads.saveLoaded (h : store.Reads journal) (hloaded : store.loaded = true)
    (io : ManualKillIo) (state : ManualKillControlState)
    (hwhole : ∀ written < (manualKillLine state).length,
      (store.saveLoaded io state).1.file =
        some (store.file.getD [] ++ (manualKillLine state).take written) →
      (store.saveLoaded io state).1.file = store.file) :
    ∃ journal', (store.saveLoaded io state).1.Reads journal' ∧
      journal.Follows (.save io state) journal' := by
  have hjournal := h.held hloaded
  unfold ManualKillStore.saveLoaded at hwhole ⊢
  rw [hjournal] at hwhole ⊢
  cases hreceipt : journal.receipt state with
  | some existing =>
      refine ⟨journal, ?_, .inl rfl⟩
      dsimp only
      split <;> exact h
  | none =>
      rw [hreceipt] at hwhole
      cases hcheck : journal.checkSave state with
      | error message => exact ⟨journal, h, .inl rfl⟩
      | ok checked =>
          rw [hcheck] at hwhole
          dsimp only at hwhole ⊢
          have happend := readManualKillControlFile_append h.read hreceipt hcheck
          have hfollows : journal.Follows (.save io state) (journal.publish state) :=
            .inr ⟨io, state, rfl, hreceipt, hcheck, rfl⟩
          obtain ⟨error, hstays⟩ | ⟨written, htorn⟩ | hline :=
            append_cases h hloaded hreceipt hcheck io
          · rw [hstays]
            exact ⟨journal, h.unloaded, .inl rfl⟩
          · rw [htorn] at hwhole ⊢
            by_cases hless : written < (manualKillLine state).length
            · have hsame : some (store.file.getD [] ++ (manualKillLine state).take written) =
                  store.file := hwhole written hless rfl
              have hread := (congrArg readManualKillJournal hsame).trans h.read
              exact ⟨journal, ⟨hread, nofun, nofun⟩, .inl rfl⟩
            · dsimp only
              rw [List.take_of_length_le (not_lt.mp hless)]
              exact ⟨journal.publish state, ⟨happend, nofun, nofun⟩, hfollows⟩
          · rw [hline]
            exact ⟨journal.publish state, ⟨happend, fun _ => by rw [hjournal], nofun⟩, hfollows⟩

/-- Every call that does not tear the file keeps it readable. -/
theorem Reads.call (h : store.Reads journal) (call : ManualKillCall) (hwhole : ¬store.Torn call) :
    ∃ journal', (store.call call).Reads journal' ∧ journal.Follows call journal' := by
  cases call with
  | load io => exact ⟨journal, (h.load io).1, .inl rfl⟩
  | restart => exact ⟨journal, ⟨h.read, nofun, fun _ => rfl⟩, .inl rfl⟩
  | save io state =>
      obtain ⟨hload, hfile, hloaded⟩ := h.load io.load
      simp only [Torn, ManualKillStore.call, saveManualKillControlState, not_exists, not_and,
        not_not] at hwhole
      rw [ManualKillStore.call, saveManualKillControlState]
      generalize store.load io.load = result at hload hfile hloaded hwhole
      obtain ⟨loaded, error | read⟩ := result
      · exact ⟨journal, hload, .inl rfl⟩
      · dsimp only at hload hfile hwhole ⊢
        rw [← hfile] at hwhole
        exact hload.saveLoaded (hloaded read rfl) io state hwhole

/-- A command with a receipt leaves the file and the journal. -/
theorem Reads.call_of_receipt (h : store.Reads journal) (io : ManualKillIo)
    {state : ManualKillControlState} (hreceipt : journal.receipt state ≠ none) :
    (store.call (.save io state)).file = store.file := by
  obtain ⟨hload, hfile, hloaded⟩ := h.load io.load
  rw [ManualKillStore.call, saveManualKillControlState]
  generalize store.load io.load = result at hload hfile hloaded
  obtain ⟨loaded, error | read⟩ := result
  · exact hfile
  · have hjournal := hload.held (hloaded read rfl)
    obtain ⟨existing, hexisting⟩ := Option.ne_none_iff_exists'.mp hreceipt
    dsimp only at hjournal hfile ⊢
    rw [ManualKillStore.saveLoaded, hjournal, hexisting]
    dsimp only
    split <;> exact hfile

/-- A file that the reader refuses stays as it is. -/
theorem file_call_of_refused {error : ManualKillError}
    (h : readManualKillJournal store.file = .error error) (call : ManualKillCall) :
    (store.call call).file = store.file := by
  have hload : ∀ io, (store.load io).1.file = store.file ∧
      ∃ raised, (store.load io).2 = .error raised := by
    intro io
    obtain ⟨file, journal, loaded⟩ := store
    rw [ManualKillStore.load]
    by_cases hopen : io = .openRaises
    · rw [if_pos hopen]
      exact ⟨rfl, _, rfl⟩
    · rw [if_neg hopen]
      cases file with
      | none => cases h
      | some file =>
          have hbytes : readManualKillControlFile file = .error error := h
          simp only [hbytes]
          exact ⟨rfl, _, rfl⟩
  cases call with
  | load io => exact (hload io).1
  | restart => rfl
  | save io state =>
      obtain ⟨hfile, raised, hraised⟩ := hload io.load
      rw [ManualKillStore.call, saveManualKillControlState]
      generalize store.load io.load = result at hfile hraised
      obtain ⟨loaded, error' | read⟩ := result
      · exact hfile
      · cases hraised

/-! ## Any calls -/

omit [Json.Reader] in
/-- What is read only moves by commands, each of which raises the version exactly when it changes
the switch. -/
theorem Follows.version {call : ManualKillCall} {journal' : ManualKillJournal}
    (h : journal.Follows call journal') :
    journal'.state.version = journal.state.version +
      if journal'.state.active ≠ journal.state.active then 1 else 0 := by
  obtain rfl | ⟨io, state, -, -, hcheck, rfl⟩ := h
  · simp
  · simp only [ManualKillJournal.checkSave, Except.require_bind_eq_ok_iff,
      Except.require_eq_ok_iff] at hcheck
    obtain ⟨-, -, hversion, -⟩ := hcheck
    exact hversion

/-- No save of the calls tears the file. -/
def Untorn (store : ManualKillStore) : List ManualKillCall → Prop
  | [] => True
  | call :: calls => ¬store.Torn call ∧ (store.call call).Untorn calls

theorem Reads.foldl (h : store.Reads journal) {calls : List ManualKillCall}
    (hcalls : store.Untorn calls) :
    ∃ journal', (calls.foldl ManualKillStore.call store).Reads journal' := by
  induction calls generalizing store journal with
  | nil => exact ⟨journal, h⟩
  | cons call calls ih =>
      obtain ⟨hwhole, hcalls⟩ := hcalls
      obtain ⟨journal', hnext, -⟩ := h.call call hwhole
      exact ih hnext hcalls

theorem file_foldl_of_refused {error : ManualKillError}
    (h : readManualKillJournal store.file = .error error) (calls : List ManualKillCall) :
    (calls.foldl ManualKillStore.call store).file = store.file := by
  induction calls generalizing store with
  | nil => rfl
  | cons call calls ih =>
      have hfile := file_call_of_refused h call
      rw [List.foldl_cons, ih (hfile ▸ h), hfile]

/-- A load without a failure brings the writer to what is read. -/
theorem Reads.reloaded (h : store.Reads journal) :
    store.load .completes =
      ({ store with journal := journal, loaded := true }, .ok journal.state) := by
  obtain ⟨file, journal', loaded⟩ := store
  obtain ⟨hread, hheld, habsent⟩ := h
  rw [ManualKillStore.load, if_neg (by decide)]
  cases file with
  | none =>
      obtain rfl : journal' = {} := habsent rfl
      obtain rfl : {} = journal := Except.ok.inj hread
      rfl
  | some file =>
      have hbytes : readManualKillControlFile file = .ok journal := hread
      have hdrift : ¬(loaded = true ∧ journal ≠ journal') := fun hdrift =>
        hdrift.2 (hheld hdrift.1).symm
      simp only [hbytes]
      rw [if_neg (by decide), if_neg hdrift]

/-- A torn file is refused by the reader, whatever is called later. -/
theorem Reads.refused (h : store.Reads journal) {call : ManualKillCall} (htorn : store.Torn call) :
    ∃ error, ∀ later : List ManualKillCall, readManualKillJournal
      (later.foldl ManualKillStore.call (store.call call)).file = .error error := by
  cases call with
  | load io => exact htorn.elim
  | restart => exact htorn.elim
  | save io state =>
      obtain ⟨written, hless, hfile, hmoved⟩ := htorn
      rw [hfile] at hmoved
      obtain ⟨line, reason, hread⟩ := readManualKillControlFile_take h.read state hless hmoved
      have hrefused : readManualKillJournal (store.call (.save io state)).file =
          .error (.corrupted line reason) := by
        rw [hfile]
        exact hread
      refine ⟨.corrupted line reason, fun later => ?_⟩
      rw [file_foldl_of_refused hrefused]
      exact hrefused

/-- What the reader makes of the file of a store. -/
structure JournalLaw (store : ManualKillStore) (journal : ManualKillJournal) : Prop where
  /-- The reader accepts the file. -/
  read : readManualKillJournal store.file = .ok journal
  /-- It reads the state and the receipts the writer holds. -/
  held : store.loaded = true → store.journal = journal
  /-- After a call that raised, a load holds them again. -/
  reloaded : store.load .completes =
    ({ store with journal := journal, loaded := true }, .ok journal.state)
  /-- The window is bounded, and no command was applied twice in it. -/
  windowed : journal.Windowed
  /-- The version is raised by one exactly when the switch changes. -/
  version : ∀ call, ¬store.Torn call → ∃ journal',
    readManualKillJournal (store.call call).file = .ok journal' ∧
      journal.Follows call journal' ∧
      journal'.state.version = journal.state.version +
        if journal'.state.active ≠ journal.state.active then 1 else 0
  /-- A command with a receipt in the window is not applied again. -/
  once : ∀ io state, journal.receipt state ≠ none →
    (store.call (.save io state)).file = store.file
  /-- A torn file is refused from then on. -/
  refused : ∀ call, store.Torn call → ∃ error, ∀ later : List ManualKillCall,
    readManualKillJournal (later.foldl ManualKillStore.call (store.call call)).file = .error error

theorem Reads.law (h : store.Reads journal) : store.JournalLaw journal where
  read := h.read
  held := h.held
  reloaded := h.reloaded
  windowed := windowed_readManualKillJournal h.read
  version call hwhole := by
    obtain ⟨journal', hnext, hfollows⟩ := h.call call hwhole
    exact ⟨journal', hnext.read, hfollows, Follows.version hfollows⟩
  once io _ hreceipt := h.call_of_receipt io hreceipt
  refused _ htorn := h.refused htorn

/-- However a process found the journal, as long as it could be read or did not exist: after any
saves, loads and restarts, none of which left the file inside a line or empty, the reader accepts
the file and reads what the writer holds. -/
theorem journal_law (file : Option (List UInt8))
    (hfile : ∃ journal, readManualKillJournal file = .ok journal) (calls : List ManualKillCall)
    (hcalls : ({ file := file } : ManualKillStore).Untorn calls) :
    ∃ journal, (calls.foldl ManualKillStore.call { file := file }).JournalLaw journal := by
  obtain ⟨journal, hread⟩ := hfile
  have hstart : ({ file := file } : ManualKillStore).Reads journal := ⟨hread, nofun, fun _ => rfl⟩
  obtain ⟨journal', hreads⟩ := hstart.foldl hcalls
  exact ⟨journal', hreads.law⟩

end ManualKillStore

end Laws

namespace ManualKillStore

/-- The first activation of the switch. -/
def activation : ManualKillControlState :=
  ⟨{ active := true, version := 1, commandId := some "kill-1", expectedVersion := some 0 },
    by decide +kernel⟩

/-- The first save raises after its whole line was written, and the journal is loaded again. -/
theorem journal_law_activation :
    ∃ journal, ([.save { raisesAfter := some (manualKillLine activation).length } activation,
      .load .completes].foldl ManualKillStore.call { file := none }).JournalLaw journal := by
  refine journal_law none ⟨{}, rfl⟩ _ ⟨?_, id, trivial⟩
  rintro ⟨written, hless, hfile, -⟩
  have hline : (ManualKillStore.call { file := none }
      (.save { raisesAfter := some (manualKillLine activation).length } activation)).file =
        some ([] ++ (manualKillLine activation).take (manualKillLine activation).length) := rfl
  rw [hline] at hfile
  have hlength := congrArg List.length (Option.some.inj hfile)
  simp only [Option.getD_none, List.nil_append, List.length_take] at hlength
  omega

/-- The first save creates the file and raises before it writes: the file stays empty, and the
reader refuses it also when the save is repeated. -/
theorem refused_created_file :
    ¬∀ calls : List ManualKillCall, ∃ journal, readManualKillJournal
      (calls.foldl ManualKillStore.call {}).file = .ok journal := by
  intro h
  obtain ⟨journal, hread⟩ := h [.save { raisesAfter := some 0 } activation, .save {} activation]
  have hrefused : readManualKillJournal ([.save { raisesAfter := some 0 } activation,
      .save {} activation].foldl ManualKillStore.call {}).file =
        .error (.corrupted 1 "EmptyJournal") := rfl
  rw [hrefused] at hread
  cases hread

end ManualKillStore

end Trading
