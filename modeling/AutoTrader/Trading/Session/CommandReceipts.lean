import AutoTrader.Trading.Session.SessionCommands

/-!
# Commands take effect at most once

The four commands differ in what they do when there is no receipt; the receipts are read and
written in one way.

* `perform` — a command without a receipt.
* `perform_recorded` — it leaves the receipts alone, or it returned and recorded what it
  returned.
* `run_cases` — a call returns what is recorded, or it performs and records, or it raises.
* `runCommands_find` — within the limit a receipt is found after any later calls.
-/

namespace Trading.Commands

open Receipts Stateful

variable {types : SessionTypes} {env : CallEnvironment types} {controller : Controller types}

/-! ## Parts of a command -/

@[simp] theorem domain_ok {σ α : Type} (a : α) (s : σ) :
    (domain (.ok a) : EStateM CommandError σ α) s = .ok a s := rfl

@[simp] theorem domain_error {σ α : Type} (e : TradingError) (s : σ) :
    (domain (.error e) : EStateM CommandError σ α) s = .error (.raised e) s := rfl

theorem check_run {σ : Type} (condition : Prop) [Decidable condition] (error : CommandError)
    (s : σ) : (check condition error : EStateM CommandError σ Unit) s =
      if condition then .ok () s else .error error s := by
  unfold check Except.require
  split <;> rfl

/-- A computation in the domain leaves the state. -/
theorem domain_cases {σ α : Type} (x : Except TradingError α) (s : σ) :
    (∃ a, x = .ok a ∧ domain x s = .ok a s) ∨
      ∃ e, x = .error e ∧ domain x s = .error (.raised e) s := by
  cases x with
  | ok a => exact .inl ⟨a, rfl, rfl⟩
  | error e => exact .inr ⟨e, rfl, rfl⟩

theorem onSession_run {α : Type} (x : SessionM types α) (controller : Controller types) :
    onSession x controller = match x controller.session with
      | .ok a session => .ok a { controller with session }
      | .error e session => .error e { controller with session } := rfl

theorem normalizeCommandId_of_trimmed {commandId : String} (h : isTrimmed commandId = true) :
    normalizeCommandId commandId = .ok commandId := by
  simp [normalizeCommandId, Except.require, h]

theorem normalizeCommandId_of_not_trimmed {commandId : String} (h : ¬isTrimmed commandId = true) :
    ∃ e, normalizeCommandId commandId = .error e := by
  simp [normalizeCommandId, Except.require, h]

/-! ## Reading and writing receipts -/

variable {key : CommandKey} {fingerprint : Fingerprint}

theorem readCommandRecord_run (key : CommandKey) (hid : isTrimmed key.2 = true) :
    readCommandRecord key fingerprint controller = match controller.receipts.find key with
      | none => .ok none controller
      | some receipt => if receipt.fingerprint = fingerprint
          then .ok (some receipt.result) controller
          else .error (.session .commandIdReused) controller := by
  unfold readCommandRecord
  rw [bind_run, normalizeCommandId_of_trimmed hid]
  simp only [domain_ok, bind_run, get_run]
  cases controller.receipts.find key with
  | none => rfl
  | some receipt =>
      simp only [bind_run, check_run]
      by_cases h : receipt.fingerprint = fingerprint
      · rw [if_pos h, if_pos h]
        rfl
      · rw [if_neg h, if_neg h]

theorem readCommandRecord_of_not_trimmed (hid : ¬isTrimmed key.2 = true) :
    ∃ e, readCommandRecord key fingerprint controller = .error e controller := by
  obtain ⟨e, he⟩ := normalizeCommandId_of_not_trimmed hid
  refine ⟨.raised e, ?_⟩
  unfold readCommandRecord
  rw [bind_run, he]
  rfl

theorem storeCommandRecord_run (key : CommandKey) (hid : isTrimmed key.2 = true)
    (result : CommandResult) :
    storeCommandRecord key fingerprint result controller = .ok ⟨⟩
      { controller with
        receipts := controller.receipts.record maxCommandRecords key ⟨fingerprint, result⟩ } := by
  unfold storeCommandRecord
  rw [bind_run, normalizeCommandId_of_trimmed hid]
  rfl

/-! ## A command without a receipt -/

namespace SessionCommand

/-- The checks before the receipts are looked at. -/
def Accepted : SessionCommand → Prop
  | commitRegimeSelection regimeType selectedStm _ expectedVersion =>
      (∀ stm ∈ selectedStm, stm.regimeType = regimeType) ∧ 0 ≤ expectedVersion
  | updateSplitRatios _ _ _ expectedVersion | startTrading _ expectedVersion
  | stopTrading _ expectedVersion => 0 ≤ expectedVersion

/-- What the command does when it has no receipt. -/
def perform (env : CallEnvironment types) (command : SessionCommand) :
    CommandM types CommandResult :=
  match command with
  | commitRegimeSelection regimeType selectedStm _ expectedVersion => do
      let result ← onSession (selectRegime regimeType selectedStm expectedVersion)
      storeCommandRecord command.key command.fingerprint result
      return result
  | updateSplitRatios scaleIn scaleOut _ expectedVersion => do
      let result ← onSession (setSplitRatios scaleIn scaleOut expectedVersion)
      storeCommandRecord command.key command.fingerprint result
      return result
  | startTrading _ expectedVersion => do
      let result ← onSession (startSession env expectedVersion)
      storeCommandRecord command.key command.fingerprint result
      return result
  | stopTrading commandId expectedVersion => do
      let admittedSessionId ← onSession (admitStop commandId expectedVersion)
      withFinally (do
        if (← get).session.recovery.notified && (← get).session.recovery.inProgress then
          onSession (modify fun session =>
            { session with recovery := { session.recovery with cancelled := true } })
        match ← readCommandRecord command.key command.fingerprint with
        | some result => domain (requireResult .stop result)
        | none => do
            let result ← onSession (stopSession env commandId admittedSessionId)
            storeCommandRecord command.key command.fingerprint result
            return result)
        fun controller =>
          { controller with session := releaseStop commandId controller.session }

/-- A command looks for its receipt, and performs itself when there is none. -/
def lookThenPerform (env : CallEnvironment types) (command : SessionCommand) :
    CommandM types CommandResult := do
  match ← readCommandRecord command.key command.fingerprint with
  | some result => domain (requireResult command.key.1 result)
  | none => command.perform env

variable {command : SessionCommand}

theorem domain_validate_bind {α : Type} {expectedVersion : ℤ} (h : 0 ≤ expectedVersion)
    (rest : CommandM types α) :
    (do domain (validateExpectedVersionValue expectedVersion); rest) controller =
      rest controller := by
  rw [bind_run, validateExpectedVersionValue, Except.require, if_pos h]
  rfl

theorem domain_validate_bind_error {α : Type} {expectedVersion : ℤ} (h : ¬0 ≤ expectedVersion)
    (rest : CommandM types α) :
    ∃ e, (do domain (validateExpectedVersionValue expectedVersion); rest) controller =
      .error e controller := by
  rw [bind_run, validateExpectedVersionValue, Except.require, if_neg h]
  exact ⟨_, rfl⟩

theorem run_of_accepted (h : command.Accepted) :
    command.run env controller = command.lookThenPerform env controller := by
  cases command with
  | commitRegimeSelection regimeType selectedStm commandId expectedVersion =>
      show Commands.commitRegimeSelection regimeType selectedStm commandId expectedVersion
        controller = _
      unfold Commands.commitRegimeSelection
      rw [bind_run, check_run, if_pos h.1]
      exact domain_validate_bind h.2 _
  | updateSplitRatios scaleIn scaleOut commandId expectedVersion =>
      exact domain_validate_bind h _
  | startTrading commandId expectedVersion => exact domain_validate_bind h _
  | stopTrading commandId expectedVersion => exact domain_validate_bind h _

theorem run_of_not_accepted (h : ¬command.Accepted) :
    ∃ e, command.run env controller = .error e controller := by
  cases command with
  | commitRegimeSelection regimeType selectedStm commandId expectedVersion =>
      show ∃ e, Commands.commitRegimeSelection regimeType selectedStm commandId expectedVersion
        controller = .error e controller
      unfold Commands.commitRegimeSelection
      rw [bind_run, check_run]
      by_cases hstm : ∀ stm ∈ selectedStm, stm.regimeType = regimeType
      · rw [if_pos hstm]
        exact domain_validate_bind_error (fun hversion => h ⟨hstm, hversion⟩) _
      · rw [if_neg hstm]
        exact ⟨_, rfl⟩
  | updateSplitRatios scaleIn scaleOut commandId expectedVersion =>
      exact domain_validate_bind_error h _
  | startTrading commandId expectedVersion => exact domain_validate_bind_error h _
  | stopTrading commandId expectedVersion => exact domain_validate_bind_error h _

/-! ## Results -/

/-- The computation returns only results of the operation. -/
def Returns (operation : Operation) (x : SessionM types CommandResult) : Prop :=
  ∀ (session next : CommandSession types) (result : CommandResult),
    x session = .ok result next → requireResult operation result = .ok result

theorem Returns.bind {α : Type} {operation : Operation} {x : SessionM types α}
    {f : α → SessionM types CommandResult} (h : ∀ a, Returns operation (f a)) :
    Returns operation (x >>= f) := by
  intro session next result hrun
  obtain ⟨a, middle, -, hrest⟩ := bind_eq_ok_iff.mp hrun
  exact h a middle next result hrest

theorem Returns.pure {operation : Operation} {result : CommandResult}
    (h : requireResult operation result = .ok result) :
    Returns operation (pure result : SessionM types CommandResult) := by
  intro session next returned hrun
  cases hrun
  exact h

theorem returns_throw (operation : Operation) (e : CommandError) :
    Returns operation (throw e : SessionM types CommandResult) := by
  intro session next result hrun
  cases hrun

theorem returns_selectRegime (regimeType : RegimeType) (selectedStm : Option TradingSTM)
    (expectedVersion : ℤ) :
    Returns .selection (selectRegime regimeType selectedStm expectedVersion :
      SessionM types CommandResult) := by
  unfold selectRegime
  refine .bind fun _ => .bind fun _ => .bind fun _ => .bind fun _ => .bind fun _ => ?_
  exact .pure rfl

theorem returns_setSplitRatios (scaleIn scaleOut : DecimalTuple) (expectedVersion : ℤ) :
    Returns .split (setSplitRatios scaleIn scaleOut expectedVersion :
      SessionM types CommandResult) := by
  unfold setSplitRatios
  refine .bind fun _ => .bind fun _ => .bind fun _ => .bind fun _ => ?_
  exact .pure rfl

theorem returns_createSessionResult {operation : Operation}
    (h : operation = .start ∨ operation = .stop) (result : Option TradingSTMResult) :
    Returns operation (createSessionResult result : SessionM types CommandResult) := by
  unfold createSessionResult
  refine .bind fun _ => .pure ?_
  rcases h with rfl | rfl <;> rfl

theorem returns_startSession (env : CallEnvironment types) (expectedVersion : ℤ) :
    Returns .start (startSession env expectedVersion) := by
  unfold startSession
  refine .bind fun _ => .bind fun _ => .bind fun _ => .bind fun _ => .bind fun _ => ?_
  exact returns_createSessionResult (.inl rfl) _

theorem returns_stopSession (env : CallEnvironment types) (commandId : String)
    (admittedSessionId : Option String) :
    Returns .stop (stopSession env commandId admittedSessionId) := by
  unfold stopSession
  refine .bind fun _ => .bind fun _ => .bind fun _ => .bind fun session => ?_
  split
  · split
    · exact returns_createSessionResult (.inr rfl) _
    · refine .bind fun _ => .bind fun _ => ?_
      dsimp only
      split
      · exact returns_createSessionResult (.inr rfl) _
      · unfold processStop
        refine .bind fun _ => .bind fun _ => .bind fun _ => .bind fun _ => .bind fun _ =>
          .bind fun _ => ?_
        exact returns_createSessionResult (.inr rfl) _
  · exact returns_throw .stop _

/-! ## What performing does to the receipts -/

/-- A run of the command from a controller without its receipt: it returned and recorded its
result, or it raised and recorded nothing. -/
def Recorded (command : SessionCommand) (controller : Controller types) :
    EStateM.Result CommandError (Controller types) CommandResult → Prop
  | .ok result next =>
      requireResult command.key.1 result = .ok result ∧
      next.receipts = controller.receipts.record maxCommandRecords command.key
        ⟨command.fingerprint, result⟩
  | .error _ next => next.receipts = controller.receipts

/-- The mutation, and after it the receipt. -/
theorem recorded_store (command : SessionCommand) {x : SessionM types CommandResult}
    {middle : Controller types}
    (hid : isTrimmed command.key.2 = true) (hreturns : Returns command.key.1 x)
    (hmiddle : middle.receipts = controller.receipts) :
    Recorded command controller ((do
      let result ← onSession x
      storeCommandRecord command.key command.fingerprint result
      return result : CommandM types CommandResult) middle) := by
  rw [bind_run, onSession_run]
  cases hx : x middle.session with
  | error e session => exact hmiddle
  | ok result session =>
      simp only [bind_run, storeCommandRecord_run command.key hid, pure_run]
      exact ⟨hreturns _ _ _ hx, by rw [hmiddle]⟩

theorem recorded_withFinally {x : CommandM types CommandResult} {middle : Controller types}
    {last : Controller types → Controller types}
    (hlast : ∀ controller, (last controller).receipts = controller.receipts)
    (h : Recorded command controller (x middle)) :
    Recorded command controller (withFinally x last middle) := by
  unfold withFinally
  cases hx : x middle with
  | ok result next =>
      rw [hx] at h
      exact ⟨h.1, (hlast next).trans h.2⟩
  | error e next =>
      rw [hx] at h
      exact (hlast next).trans h

/-- The second look at the receipts of a stop finds none either. -/
theorem recorded_stop {commandId : String} {expectedVersion : ℤ}
    {admittedSessionId : Option String} {middle : Controller types}
    (hid : isTrimmed commandId = true) (hmiddle : middle.receipts = controller.receipts)
    (hfind : controller.receipts.find (.stop, commandId) = none) :
    Recorded (stopTrading commandId expectedVersion) controller ((do
      match ← readCommandRecord (.stop, commandId) (.version expectedVersion) with
      | some result => domain (requireResult .stop result)
      | none => do
          let result ← onSession (stopSession env commandId admittedSessionId)
          storeCommandRecord (.stop, commandId) (.version expectedVersion) result
          return result : CommandM types CommandResult) middle) := by
  have hstore := recorded_store (stopTrading commandId expectedVersion) hid
    (returns_stopSession env commandId admittedSessionId) hmiddle
  rw [bind_run, readCommandRecord_run (.stop, commandId) hid, hmiddle, hfind]
  dsimp only
  exact hstore

theorem perform_recorded (hid : isTrimmed command.key.2 = true)
    (hfind : controller.receipts.find command.key = none) :
    Recorded command controller (command.perform env controller) := by
  cases command with
  | commitRegimeSelection regimeType selectedStm commandId expectedVersion =>
      exact recorded_store
        (commitRegimeSelection regimeType selectedStm commandId expectedVersion) hid
        (returns_selectRegime regimeType selectedStm expectedVersion) rfl
  | updateSplitRatios scaleIn scaleOut commandId expectedVersion =>
      exact recorded_store (updateSplitRatios scaleIn scaleOut commandId expectedVersion) hid
        (returns_setSplitRatios scaleIn scaleOut expectedVersion) rfl
  | startTrading commandId expectedVersion =>
      exact recorded_store (startTrading commandId expectedVersion) hid
        (returns_startSession env expectedVersion) rfl
  | stopTrading commandId expectedVersion =>
      unfold perform
      dsimp only [key, fingerprint]
      rw [bind_run, onSession_run]
      cases hadmit : admitStop commandId expectedVersion controller.session with
      | error e session => exact rfl
      | ok admittedSessionId session =>
          refine recorded_withFinally (fun _ => rfl) ?_
          simp only [bind_run, get_run]
          split
          · simp only [bind_run, onSession_run, modify_run]
            exact recorded_stop hid rfl hfind
          · exact recorded_stop hid rfl hfind

/-! ## One call -/

theorem requireResult_eq_ok {operation : Operation} {stored result : CommandResult}
    (h : requireResult operation stored = .ok result) : result = stored := by
  cases operation <;> cases stored <;> first | exact (Except.ok.inj h).symm | cases h

/-- A call that returned: the command is well formed, and its result is the recorded one or the
one it recorded. -/
structure Answered (command : SessionCommand) (controller next : Controller types)
    (result : CommandResult) : Prop where
  accepted : command.Accepted
  trimmed : isTrimmed command.key.2 = true
  kind : requireResult command.key.1 result = .ok result
  receipt : (controller.receipts.find command.key = some ⟨command.fingerprint, result⟩ ∧
      next = controller) ∨
    (controller.receipts.find command.key = none ∧
      next.receipts = controller.receipts.record maxCommandRecords command.key
        ⟨command.fingerprint, result⟩)

/-- A call returns what is recorded, or it performs and records, or it raises and records
nothing. -/
theorem run_cases (command : SessionCommand) (env : CallEnvironment types)
    (controller : Controller types) :
    (∃ result next, command.run env controller = .ok result next ∧
      Answered command controller next result) ∨
    ∃ e next, command.run env controller = .error e next ∧
      next.receipts = controller.receipts := by
  by_cases haccepted : command.Accepted
  case neg =>
    obtain ⟨e, he⟩ := run_of_not_accepted haccepted
    exact .inr ⟨e, controller, he, rfl⟩
  case pos =>
    rw [run_of_accepted haccepted]
    unfold lookThenPerform
    by_cases hid : isTrimmed command.key.2 = true
    case neg =>
      obtain ⟨e, he⟩ := readCommandRecord_of_not_trimmed hid
      rw [bind_run, he]
      exact .inr ⟨e, controller, rfl, rfl⟩
    case pos =>
      rw [bind_run, readCommandRecord_run command.key hid]
      cases hfind : controller.receipts.find command.key with
      | none =>
          have hperform : Recorded command controller (command.perform env controller) :=
            perform_recorded hid hfind
          dsimp only
          cases hrun : command.perform env controller with
          | ok result next =>
              rw [hrun] at hperform
              exact .inl ⟨result, next, rfl, haccepted, hid, hperform.1, .inr ⟨hfind, hperform.2⟩⟩
          | error e next =>
              rw [hrun] at hperform
              exact .inr ⟨e, next, rfl, hperform⟩
      | some receipt =>
          dsimp only
          by_cases hpayload : receipt.fingerprint = command.fingerprint
          · rw [if_pos hpayload]
            dsimp only
            rcases domain_cases (requireResult command.key.1 receipt.result) controller with
              ⟨result, hkind, hrun⟩ | ⟨e, -, hrun⟩
            · obtain rfl := requireResult_eq_ok hkind
              refine .inl ⟨_, controller, hrun, haccepted, hid, hkind, .inl ⟨?_, rfl⟩⟩
              rw [hfind, ← hpayload]
            · exact .inr ⟨_, controller, hrun, rfl⟩
          · rw [if_neg hpayload]
            exact .inr ⟨_, controller, rfl, rfl⟩

theorem answered_of_ok {result : CommandResult} {next : Controller types}
    (h : command.run env controller = .ok result next) :
    Answered command controller next result := by
  rcases run_cases command env controller with ⟨_, _, hrun, hanswered⟩ | ⟨_, _, hrun, -⟩
  · rw [hrun] at h
    cases h
    exact hanswered
  · rw [hrun] at h
    cases h

/-- A call leaves the receipts alone, or it records its key for the first time. -/
theorem run_records (command : SessionCommand) (env : CallEnvironment types)
    (controller : Controller types) :
    Records maxCommandRecords command.key controller.receipts
      (finalState (command.run env controller)).receipts := by
  rcases run_cases command env controller with ⟨result, next, hrun, h⟩ | ⟨e, next, hrun, h⟩
  · rw [hrun, finalState_ok]
    rcases h.receipt with ⟨-, rfl⟩ | ⟨hfind, hrecord⟩
    · exact .same _
    · rw [hrecord]
      exact .recorded _ hfind
  · rw [hrun, finalState_error, h]
    exact .same _

/-- A call that is refused, or that finds a receipt, changes nothing. -/
theorem run_unperformed (h : ¬(command.Accepted ∧ isTrimmed command.key.2 = true ∧
    controller.receipts.find command.key = none)) :
    finalState (command.run env controller) = controller := by
  by_cases haccepted : command.Accepted
  case neg =>
    obtain ⟨e, he⟩ := run_of_not_accepted haccepted
    rw [he, finalState_error]
  case pos =>
    rw [run_of_accepted haccepted]
    unfold lookThenPerform
    by_cases hid : isTrimmed command.key.2 = true
    case neg =>
      obtain ⟨e, he⟩ := readCommandRecord_of_not_trimmed hid
      rw [bind_run, he, finalState_error]
    case pos =>
      rw [bind_run, readCommandRecord_run command.key hid]
      cases hfind : controller.receipts.find command.key with
      | none => exact absurd ⟨haccepted, hid, hfind⟩ h
      | some receipt =>
          dsimp only
          by_cases hpayload : receipt.fingerprint = command.fingerprint
          · rw [if_pos hpayload]
            dsimp only
            rcases domain_cases (requireResult command.key.1 receipt.result) controller with
              ⟨result, -, hrun⟩ | ⟨e, -, hrun⟩
            · rw [hrun, finalState_ok]
            · rw [hrun, finalState_error]
          · rw [if_neg hpayload]
            rfl

/-- A repetition finds the first result and changes nothing. -/
theorem run_of_receipt {result : CommandResult} (haccepted : command.Accepted)
    (hid : isTrimmed command.key.2 = true) (hkind : requireResult command.key.1 result = .ok result)
    (hfind : controller.receipts.find command.key = some ⟨command.fingerprint, result⟩)
    (env : CallEnvironment types) : command.run env controller = .ok result controller := by
  rw [run_of_accepted haccepted]
  unfold lookThenPerform
  rw [bind_run, readCommandRecord_run command.key hid, hfind]
  dsimp only
  rw [if_pos rfl]
  dsimp only
  rw [hkind]
  rfl

/-- Another payload under a recorded key is refused, and changes nothing. -/
theorem run_of_other_payload {receipt : Receipt Fingerprint CommandResult}
    (hid : isTrimmed command.key.2 = true)
    (hfind : controller.receipts.find command.key = some receipt)
    (hpayload : receipt.fingerprint ≠ command.fingerprint) (env : CallEnvironment types) :
    ∃ e, command.run env controller = .error e controller := by
  by_cases haccepted : command.Accepted
  · rw [run_of_accepted haccepted]
    unfold lookThenPerform
    rw [bind_run, readCommandRecord_run command.key hid, hfind]
    dsimp only
    rw [if_neg hpayload]
    exact ⟨_, rfl⟩
  · exact run_of_not_accepted haccepted

end SessionCommand

/-! ## Sequences of calls -/

/-- A command and what the call meets. -/
structure Call (types : SessionTypes) where
  env : CallEnvironment types
  command : SessionCommand

/-- The call. -/
def Call.run (call : Call types) : CommandM types CommandResult := call.command.run call.env

/-- The controller after the calls in turn. -/
def runCommands (calls : List (Call types)) (controller : Controller types) : Controller types :=
  runAll (calls.map Call.run) controller

/-- The keys of the calls. -/
def commandKeys (calls : List (Call types)) : List CommandKey := calls.map (·.command.key)

theorem runCommands_recording (calls : List (Call types)) (controller : Controller types) :
    Recording maxCommandRecords (commandKeys calls) controller.receipts
      (runCommands calls controller).receipts := by
  induction calls generalizing controller with
  | nil => exact .nil _
  | cons call calls ih => exact .cons (call.command.run_records call.env controller) (ih _)

/-- Within the limit the receipt of a call that returned is found after all later calls. -/
theorem runCommands_find {session : CommandSession types} {before after : List (Call types)}
    {call : Call types} {result : CommandResult} {next : Controller types}
    (hcard : (commandKeys (before ++ call :: after)).toFinset.card < maxCommandRecords)
    (hcall : call.run (runCommands before ⟨session, {}⟩) = .ok result next) :
    (runCommands after next).receipts.find call.command.key =
      some ⟨call.command.fingerprint, result⟩ := by
  have hkeys : commandKeys (before ++ call :: after) =
      commandKeys before ++ call.command.key :: commandKeys after := by
    simp [commandKeys]
  rw [hkeys] at hcard
  have hbefore := runCommands_recording before ⟨session, {}⟩
  have hsub := hbefore.order_subset ReceiptStore.sound_empty
    (call.command.key :: commandKeys after) hcard.le
  have hall := (Finset.card_le_card hsub).trans hcard.le
  have hfirst : ((({} : ReceiptStore CommandKey Fingerprint CommandResult)).order ++
      commandKeys before).toFinset.card ≤ maxCommandRecords := by
    refine (Finset.card_le_card ?_).trans hcard.le
    intro key hkey
    simp only [List.nil_append, List.mem_toFinset, List.mem_append] at hkey ⊢
    exact .inl hkey
  have hsound := (hbefore.find_eq ReceiptStore.sound_empty hfirst).1
  have hstep := call.command.run_records call.env (runCommands before ⟨session, {}⟩)
  have hnext : finalState (call.command.run call.env (runCommands before ⟨session, {}⟩)) =
      next := by
    rw [show call.command.run call.env _ = _ from hcall, finalState_ok]
  rw [hnext] at hstep
  obtain ⟨hsoundNext, hsubNext, -⟩ := hstep.step hsound hall
  have hlast := ((runCommands_recording after next).find_eq hsoundNext
    ((Finset.card_le_card hsubNext).trans hall)).2
  refine hlast _ _ ?_
  rcases (SessionCommand.answered_of_ok hcall).receipt with ⟨hfind, rfl⟩ | ⟨hfind, hrecord⟩
  · exact hfind
  · rw [hrecord]
    exact ReceiptStore.find_record_self (hsound.length_lt hfind hall)

end Trading.Commands
